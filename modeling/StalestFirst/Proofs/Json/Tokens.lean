import Mathlib
import StalestFirst.Json.Printer
import StalestFirst.Json.Token
import StalestFirst.Proofs.Text.Digits

namespace StalestFirst.Json

/-! ## The tokens of a value

What is written without blanks is cut into the very tokens that the value has. Numbers
end only where a mark follows, so a value is always looked at with what comes after
it. -/

mutual

/-- The value is told in full by its written form: its numbers are integers, and all
its texts and names can be read. -/
def Plain : Json → Prop
  | .real | .garbled => False
  | .array items => PlainItems items
  | .object fields => PlainFields fields
  | _ => True

/-- All items are plain. -/
def PlainItems : List Json → Prop
  | [] => True
  | item :: rest => item.Plain ∧ PlainItems rest

/-- All fields are named and their values plain. -/
def PlainFields : List (Option String × Json) → Prop
  | [] => True
  | (name, value) :: rest => name.isSome = true ∧ value.Plain ∧ PlainFields rest

end

mutual

/-- The tokens that a value is written with. -/
def tokens : Json → List Token
  | .array items => .openArray :: (itemTokens items ++ [.closeArray])
  | .object fields => .openObject :: (fieldTokens fields ++ [.closeObject])
  | value => [.scalar value]

/-- The tokens of the items of an array. -/
def itemTokens : List Json → List Token
  | [] => []
  | [item] => item.tokens
  | item :: next :: rest => item.tokens ++ .comma :: itemTokens (next :: rest)

/-- The tokens of the fields of an object. -/
def fieldTokens : List (Option String × Json) → List Token
  | [] => []
  | [(name, value)] => .scalar (.text (name.getD "")) :: .colon :: value.tokens
  | (name, value) :: next :: rest =>
      .scalar (.text (name.getD "")) :: .colon ::
        (value.tokens ++ .comma :: fieldTokens (next :: rest))

end

namespace Scan

variable {tokens : List Token} {rest : List (Option Char)}

theorem run_cons {scan next : Scan} {c : Char} (step : scan.next (some c) = some next) :
    scan.run (some c :: rest) = next.run rest := by
  rw [run, step]

/-! ### Texts -/

theorem hexValue?_digitChar :
    ∀ number < 16, hexValue? (Nat.digitChar number) = some number := by
  decide

theorem run_unit {passage : Passage} {high low : Nat} (highDigit : high < 16)
    (lowDigit : low < 16) :
    run ⟨tokens, .text passage⟩
        (['\\', 'u', '0', '0', high.digitChar, low.digitChar].map some ++ rest) =
      run ⟨tokens, .text (passage.pushUnit (16 * high + low))⟩ rest := by
  have zero : hexValue? '0' = some 0 := rfl
  have started : run ⟨tokens, .text passage⟩
      (['\\', 'u', '0', '0', high.digitChar, low.digitChar].map some ++ rest) =
        run ⟨tokens, .unit passage 2 0⟩
          (some high.digitChar :: some low.digitChar :: rest) := by
    rfl
  have highRead : next ⟨tokens, .unit passage 2 0⟩ (some high.digitChar) =
      some ⟨tokens, .unit passage 1 high⟩ := by
    simp [next, hexValue?_digitChar high highDigit]
  have lowRead : next ⟨tokens, .unit passage 1 high⟩ (some low.digitChar) =
      some ⟨tokens, .text (passage.pushUnit (16 * high + low))⟩ := by
    simp [next, hexValue?_digitChar low lowDigit]
  rw [started, run_cons highRead, run_cons lowRead]

/-- Each character of a text is read back from the way it is escaped. -/
theorem run_escaped (characters : List Char) (c : Char) :
    run ⟨tokens, .text ⟨characters, none, false⟩⟩ ((escaped c).map some ++ rest) =
      run ⟨tokens, .text ⟨c :: characters, none, false⟩⟩ rest := by
  unfold escaped
  split_ifs with quote backslash newline carriageReturn tab backspace feed control
  · rw [quote]
    rfl
  · rw [backslash]
    rfl
  · rw [newline]
    rfl
  · rw [carriageReturn]
    rfl
  · rw [tab]
    rfl
  · rw [backspace]
    rfl
  · rw [feed]
    rfl
  · have bits : 16 * (c.toNat / 16) + c.toNat % 16 = c.toNat := by omega
    rw [run_unit (by omega) (by omega), bits, Passage.pushUnit,
      if_pos (Or.inl (by omega)), Char.ofNat_toNat]
    rfl
  · refine run_cons ?_
    simp only [next, if_neg quote, if_neg backslash, if_neg control]
    rfl

theorem run_characters (text characters : List Char) :
    run ⟨tokens, .text ⟨characters, none, false⟩⟩
        ((text.flatMap escaped).map some ++ rest) =
      run ⟨tokens, .text ⟨text.reverse ++ characters, none, false⟩⟩ rest := by
  induction text generalizing characters with
  | nil =>
      rfl
  | cons c others inductionHypothesis =>
      rw [List.flatMap_cons, List.map_append, List.append_assoc, run_escaped,
        inductionHypothesis, List.reverse_cons, List.append_assoc, List.singleton_append]

theorem run_quoted (text : String) :
    run ⟨tokens, .between⟩ ((quoted text).map some ++ rest) =
      run ⟨.scalar (.text text) :: tokens, .between⟩ rest := by
  have opened : run ⟨tokens, .between⟩ ((quoted text).map some ++ rest) =
      run ⟨tokens, .text ⟨[], none, false⟩⟩
        ((text.toList.flatMap escaped).map some ++ (some '"' :: rest)) := by
    simp only [quoted, List.map_cons, List.map_append, List.cons_append, List.append_assoc,
      List.map_nil, List.nil_append]
    rfl
  rw [opened, run_characters, List.append_nil]
  refine run_cons ?_
  simp [next, Passage.value]

/-! ### Words and numbers -/

/-- A word that has all its letters is a value, whatever follows. -/
theorem run_word (value : Json) :
    run ⟨tokens, .word [] value⟩ rest = run ⟨.scalar value :: tokens, .between⟩ rest := by
  cases rest with
  | nil =>
      rfl
  | cons place later =>
      cases place with
      | none =>
          rfl
      | some c =>
          rfl

/-- What follows is nothing or starts with a mark after which a number cannot go on. -/
def Delimited : List (Option Char) → Prop
  | some c :: _ => c = ',' ∨ c = ']' ∨ c = '\x7d'
  | _ => True

/-- A number that may end does end where a mark follows. -/
theorem run_number {part : NumberPart} {negative : Bool} {digits : List Char}
    (whole : part = .zero ∨ part = .whole) (delimited : Delimited rest) :
    run ⟨tokens, .number part negative digits⟩ rest =
      run ⟨.scalar (part.value negative digits) :: tokens, .between⟩ rest := by
  cases rest with
  | nil =>
      rcases whole with rfl | rfl
      · rfl
      · rfl
  | cons place later =>
      cases place with
      | none =>
          rfl
      | some c =>
          have mark : c = ',' ∨ c = ']' ∨ c = '\x7d' := delimited
          rcases whole with rfl | rfl
          · rcases mark with rfl | rfl | rfl
            · rfl
            · rfl
            · rfl
          · rcases mark with rfl | rfl | rfl
            · rfl
            · rfl
            · rfl

theorem run_digits (negative : Bool) (digits read : List Char)
    (allDigits : ∀ c ∈ digits, Text.isDigit c = true) :
    run ⟨tokens, .number .whole negative read⟩ (digits.map some ++ rest) =
      run ⟨tokens, .number .whole negative (digits.reverse ++ read)⟩ rest := by
  induction digits generalizing read with
  | nil =>
      rfl
  | cons c others inductionHypothesis =>
      have digit := allDigits c List.mem_cons_self
      have step : next ⟨tokens, .number .whole negative read⟩ (some c) =
          some ⟨tokens, .number .whole negative (c :: read)⟩ := by
        simp [next, NumberPart.next, digit]
      rw [List.map_cons, List.cons_append, run_cons step,
        inductionHypothesis _ fun other member =>
          allDigits other (List.mem_cons_of_mem c member),
        List.reverse_cons, List.append_assoc, List.singleton_append]

theorem begin_digit {digit : Nat} (small : digit < 10) (nonzero : 0 < digit) :
    next ⟨tokens, .between⟩ (some digit.digitChar) =
      some ⟨tokens, .number .whole false [digit.digitChar]⟩ := by
  interval_cases digit
  all_goals rfl

theorem minus_digit {digit : Nat} (small : digit < 10) (nonzero : 0 < digit) :
    next ⟨tokens, .number .minus true []⟩ (some digit.digitChar) =
      some ⟨tokens, .number .whole true [digit.digitChar]⟩ := by
  interval_cases digit
  all_goals rfl

/-- A number that is not zero is read digit by digit, be it after a minus sign or
not. -/
theorem run_positive {scan : Scan} {negative : Bool} {number : Nat} (positive : 0 < number)
    (starts : ∀ digit < 10, 0 < digit → scan.next (some digit.digitChar) =
      some ⟨tokens, .number .whole negative [digit.digitChar]⟩)
    (delimited : Delimited rest) :
    run scan ((Text.decimal number).map some ++ rest) =
      run ⟨.scalar (NumberPart.whole.value negative (Text.decimal number).reverse) :: tokens,
        .between⟩ rest := by
  obtain ⟨first, small, nonzero, others, split⟩ := Text.decimal_eq_cons positive
  have allDigits : ∀ c ∈ others, Text.isDigit c = true := by
    intro c member
    have digit : c ∈ Text.decimal number := by
      rw [split]
      exact List.mem_cons_of_mem _ member
    exact Text.isDigit_of_mem_decimal digit
  rw [split, List.map_cons, List.cons_append, run_cons (starts first small nonzero),
    run_digits _ _ _ allDigits, run_number (Or.inr rfl) delimited, List.reverse_cons]

theorem run_signedDecimal (value : Int) (delimited : Delimited rest) :
    run ⟨tokens, .between⟩ ((Text.signedDecimal value).map some ++ rest) =
      run ⟨.scalar (.integer value) :: tokens, .between⟩ rest := by
  cases value with
  | ofNat number =>
      by_cases zero : number = 0
      · have begun : run ⟨tokens, .between⟩ ((Text.signedDecimal 0).map some ++ rest) =
            run ⟨tokens, .number .zero false ['0']⟩ rest := rfl
        rw [zero]
        exact begun.trans (run_number (Or.inl rfl) delimited)
      · have read := run_positive (Nat.pos_of_ne_zero zero)
          (fun digit => @begin_digit tokens digit) delimited
        rw [NumberPart.value, List.reverse_reverse, Text.valueOfDigits_decimal] at read
        exact read
  | negSucc number =>
      have read := run_positive (Nat.succ_pos number)
        (fun digit => @minus_digit tokens digit) delimited
      rw [NumberPart.value, List.reverse_reverse, Text.valueOfDigits_decimal] at read
      exact read

/-! ### Values -/

mutual

/-- A plain value is cut into its tokens. -/
theorem run_written (json : Json) (plain : json.Plain) (tokens : List Token)
    {rest : List (Option Char)} (delimited : Delimited rest) :
    run ⟨tokens, .between⟩ (json.written.map some ++ rest) =
      run ⟨json.tokens.reverse ++ tokens, .between⟩ rest := by
  match json with
  | .null =>
      exact run_word .null
  | .bool true =>
      exact run_word (.bool true)
  | .bool false =>
      exact run_word (.bool false)
  | .integer value =>
      exact run_signedDecimal value delimited
  | .text value =>
      exact run_quoted value
  | .array items =>
      have closing : Delimited (some ']' :: rest) := Or.inr (Or.inl rfl)
      have inner := run_writtenItems items plain (.openArray :: tokens) closing
      simp only [written, Json.tokens, List.map_cons, List.map_append, List.map_nil,
        List.cons_append, List.append_assoc, List.nil_append, List.reverse_cons,
        List.reverse_append, List.reverse_nil]
      exact inner
  | .object fields =>
      have closing : Delimited (some '\x7d' :: rest) := Or.inr (Or.inr rfl)
      have inner := run_writtenFields fields plain (.openObject :: tokens) closing
      simp only [written, Json.tokens, List.map_cons, List.map_append, List.map_nil,
        List.cons_append, List.append_assoc, List.nil_append, List.reverse_cons,
        List.reverse_append, List.reverse_nil]
      exact inner

theorem run_writtenItems (items : List Json) (plain : PlainItems items)
    (tokens : List Token) {rest : List (Option Char)} (delimited : Delimited rest) :
    run ⟨tokens, .between⟩ ((writtenItems items).map some ++ rest) =
      run ⟨(itemTokens items).reverse ++ tokens, .between⟩ rest := by
  match items with
  | [] =>
      rfl
  | [item] =>
      exact run_written item plain.1 tokens delimited
  | item :: next :: others =>
      have parting : Delimited
          (some ',' :: ((writtenItems (next :: others)).map some ++ rest)) := Or.inl rfl
      have first := run_written item plain.1 tokens parting
      have later := run_writtenItems (next :: others) plain.2
        (.comma :: (item.tokens.reverse ++ tokens)) delimited
      simp only [writtenItems, itemTokens, List.map_append, List.map_cons, List.append_assoc,
        List.cons_append, List.reverse_append, List.reverse_cons, List.nil_append]
      rw [first]
      exact later

theorem run_writtenFields (fields : List (Option String × Json)) (plain : PlainFields fields)
    (tokens : List Token) {rest : List (Option Char)} (delimited : Delimited rest) :
    run ⟨tokens, .between⟩ ((writtenFields fields).map some ++ rest) =
      run ⟨(fieldTokens fields).reverse ++ tokens, .between⟩ rest := by
  match fields with
  | [] =>
      rfl
  | [(name, value)] =>
      have last := run_written value plain.2.1
        (.colon :: .scalar (.text (name.getD "")) :: tokens) delimited
      simp only [writtenFields, writtenName, fieldTokens, List.map_append, List.map_cons,
        List.append_assoc, List.cons_append, List.reverse_cons, List.nil_append]
      rw [run_quoted]
      exact last
  | (name, value) :: next :: others =>
      have parting : Delimited
          (some ',' :: ((writtenFields (next :: others)).map some ++ rest)) := Or.inl rfl
      have first := run_written value plain.2.1
        (.colon :: .scalar (.text (name.getD "")) :: tokens) parting
      have later := run_writtenFields (next :: others) plain.2.2
        (.comma :: (value.tokens.reverse ++
          .colon :: .scalar (.text (name.getD "")) :: tokens)) delimited
      simp only [writtenFields, writtenName, fieldTokens, List.map_append, List.map_cons,
        List.append_assoc, List.cons_append, List.reverse_append, List.reverse_cons,
        List.nil_append]
      rw [run_quoted]
      exact first.trans later

end

end Scan

theorem tokens?_written {json : Json} (plain : json.Plain) :
    tokens? (json.written.map some) = some json.tokens := by
  have ended : Scan.Delimited [] := trivial
  have whole := Scan.run_written json plain [] ended
  rw [List.append_nil, List.append_nil] at whole
  rw [tokens?, whole]
  exact congrArg some (List.reverse_reverse _)

/-! ## How long a string gets -/

theorem length_escaped_le (c : Char) : (escaped c).length ≤ 6 := by
  unfold escaped
  split_ifs
  all_goals simp

theorem length_quoted_le (text : String) :
    (quoted text).length ≤ 6 * text.length + 2 := by
  have escaped : (text.toList.flatMap escaped).length ≤ 6 * text.toList.length := by
    induction text.toList with
    | nil =>
        exact Nat.le_refl 0
    | cons c rest inductionHypothesis =>
        have one := length_escaped_le c
        rw [List.flatMap_cons, List.length_append, List.length_cons]
        omega
  rw [String.length_toList] at escaped
  rw [quoted, List.length_cons, List.length_append, List.length_singleton]
  omega

end StalestFirst.Json
