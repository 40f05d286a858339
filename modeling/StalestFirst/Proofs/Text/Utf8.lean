import Mathlib
import StalestFirst.Text.Utf8

namespace StalestFirst.Text.Utf8

/-! ## Reading what was written -/

theorem encodeChar_eq (c : Char) :
    encodeChar c =
      if c.toNat < 0x80 then [UInt8.ofNat c.toNat]
      else if c.toNat < 0x800 then
        [UInt8.ofNat (0xC0 + c.toNat / 64), UInt8.ofNat (0x80 + c.toNat % 64)]
      else if c.toNat < 0x10000 then
        [UInt8.ofNat (0xE0 + c.toNat / 4096), UInt8.ofNat (0x80 + c.toNat / 64 % 64),
          UInt8.ofNat (0x80 + c.toNat % 64)]
      else
        [UInt8.ofNat (0xF0 + c.toNat / 262144), UInt8.ofNat (0x80 + c.toNat / 4096 % 64),
          UInt8.ofNat (0x80 + c.toNat / 64 % 64), UInt8.ofNat (0x80 + c.toNat % 64)] :=
  rfl

theorem toNat_ofNat_of_lt {number : Nat} (small : number < 256) :
    (UInt8.ofNat number).toNat = number := by
  rw [UInt8.toNat_ofNat']
  exact Nat.mod_eq_of_lt small

variable {characters : List (Option Char)}

theorem next_lead {number : Nat} (small : number < 256) :
    Reading.next ⟨characters, none⟩ (UInt8.ofNat number) = lead characters number := by
  unfold Reading.next
  rw [toNat_ofNat_of_lt small]

/-- A byte that goes on with a character brings six more bits of it. -/
theorem next_continuation {begun : Unfinished} {bits : Nat} (few : bits < 64)
    (above : begun.lowest ≤ 0x80 + bits) (below : 0x80 + bits ≤ begun.highest) :
    Reading.next ⟨characters, some begun⟩ (UInt8.ofNat (0x80 + bits)) =
      if begun.missing ≤ 1 then
        ⟨some (Char.ofNat (64 * begun.bits + bits)) :: characters, none⟩
      else
        ⟨characters, some ⟨64 * begun.bits + bits, begun.missing - 1, 0x80, 0xBF⟩⟩ := by
  have sixBits : (0x80 + bits) % 64 = bits := by omega
  unfold Reading.next
  rw [toNat_ofNat_of_lt (by omega)]
  dsimp only
  rw [if_pos ⟨above, below⟩, sixBits]

/-- Each character is read back from its own bytes, whatever was read before. -/
theorem foldl_next_encodeChar (c : Char) :
    (encodeChar c).foldl Reading.next ⟨characters, none⟩ =
      ⟨some c :: characters, none⟩ := by
  have same : Char.ofNat c.toNat = c := Char.ofNat_toNat c
  have valid : c.toNat < 0xD800 ∨ (0xDFFF < c.toNat ∧ c.toNat < 0x110000) := c.valid
  rw [encodeChar_eq]
  by_cases one : c.toNat < 0x80
  · rw [if_pos one, List.foldl_cons, List.foldl_nil, next_lead (by omega), lead, if_pos one,
      same]
  by_cases two : c.toNat < 0x800
  · have bits : 64 * (0xC0 + c.toNat / 64 - 0xC0) + c.toNat % 64 = c.toNat := by omega
    rw [if_neg one, if_pos two]
    simp only [List.foldl_cons, List.foldl_nil]
    rw [next_lead (by omega), lead, if_neg (by omega), if_neg (by omega), if_pos (by omega),
      next_continuation (by omega) (by dsimp only; omega) (by dsimp only; omega)]
    dsimp only
    rw [if_pos (Nat.le_refl 1), bits, same]
  by_cases three : c.toNat < 0x10000
  · have bits : 64 * (64 * (0xE0 + c.toNat / 4096 - 0xE0) + c.toNat / 64 % 64) +
        c.toNat % 64 = c.toNat := by
      omega
    rw [if_neg one, if_neg two, if_pos three]
    simp only [List.foldl_cons, List.foldl_nil]
    rw [next_lead (by omega), lead, if_neg (by omega), if_neg (by omega), if_neg (by omega),
      if_pos (by omega),
      next_continuation (by omega) (by dsimp only; split <;> omega)
        (by dsimp only; split <;> omega)]
    dsimp only
    rw [if_neg (by omega),
      next_continuation (by omega) (by dsimp only; omega) (by dsimp only; omega)]
    dsimp only
    rw [if_pos (by omega), bits, same]
  · have bits : 64 * (64 * (64 * (0xF0 + c.toNat / 262144 - 0xF0) + c.toNat / 4096 % 64) +
        c.toNat / 64 % 64) + c.toNat % 64 = c.toNat := by
      omega
    rw [if_neg one, if_neg two, if_neg three]
    simp only [List.foldl_cons, List.foldl_nil]
    rw [next_lead (by omega), lead, if_neg (by omega), if_neg (by omega), if_neg (by omega),
      if_neg (by omega), if_pos (by omega),
      next_continuation (by omega) (by dsimp only; split <;> omega)
        (by dsimp only; split <;> omega)]
    dsimp only
    rw [if_neg (by omega),
      next_continuation (by omega) (by dsimp only; omega) (by dsimp only; omega)]
    dsimp only
    rw [if_neg (by omega),
      next_continuation (by omega) (by dsimp only; omega) (by dsimp only; omega)]
    dsimp only
    rw [if_pos (by omega), bits, same]

theorem foldl_next_encode (text : List Char) :
    (encode text).foldl Reading.next ⟨characters, none⟩ =
      ⟨(text.map some).reverse ++ characters, none⟩ := by
  induction text generalizing characters with
  | nil =>
      rfl
  | cons c rest inductionHypothesis =>
      unfold encode at inductionHypothesis ⊢
      rw [List.flatMap_cons, List.foldl_append, foldl_next_encodeChar, inductionHypothesis]
      simp

theorem decode_encode (text : List Char) : decode (encode text) = text.map some := by
  unfold decode
  rw [foldl_next_encode]
  simp [Reading.finish]

/-! ## How many bytes a text takes -/

theorem length_encodeChar_le (c : Char) : (encodeChar c).length ≤ 4 := by
  rw [encodeChar_eq]
  split_ifs <;> simp

theorem length_encode_le (text : List Char) :
    (encode text).length ≤ 4 * text.length := by
  induction text with
  | nil =>
      exact Nat.le_refl 0
  | cons c rest inductionHypothesis =>
      have one := length_encodeChar_le c
      have split : encode (c :: rest) = encodeChar c ++ encode rest := rfl
      rw [split, List.length_append, List.length_cons]
      omega

end StalestFirst.Text.Utf8
