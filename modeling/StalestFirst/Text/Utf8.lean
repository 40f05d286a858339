namespace StalestFirst.Text.Utf8

/-! ## Writing -/

private def byte (number : Nat) : UInt8 := UInt8.ofNat number

/-- The bytes of one character: one up to U+007F, two up to U+07FF, three up to
U+FFFF and four beyond. -/
def encodeChar (c : Char) : List UInt8 :=
  let code := c.toNat
  if code < 0x80 then [byte code]
  else if code < 0x800 then
    [byte (0xC0 + code / 64), byte (0x80 + code % 64)]
  else if code < 0x10000 then
    [byte (0xE0 + code / 4096), byte (0x80 + code / 64 % 64),
      byte (0x80 + code % 64)]
  else
    [byte (0xF0 + code / 262144), byte (0x80 + code / 4096 % 64),
      byte (0x80 + code / 64 % 64), byte (0x80 + code % 64)]

def encode (text : List Char) : List UInt8 := text.flatMap encodeChar

/-! ## Reading -/

/-- A character of which some bytes are still to come: the bits read so far, how
many bytes are missing, and the range of the next one. -/
structure Unfinished where
  bits : Nat
  missing : Nat
  lowest : Nat
  highest : Nat

/-- What has been read: the characters, the last one first and `none` for what
is no character, and the character that has begun. -/
structure Reading where
  characters : List (Option Char)
  unfinished : Option Unfinished

/-- Reads a byte at the start of a character. The range of the second byte
excludes spellings longer than needed, surrogates and numbers beyond the last
character. -/
def lead (characters : List (Option Char)) (code : Nat) : Reading :=
  if code < 0x80 then ⟨some (Char.ofNat code) :: characters, none⟩
  else if code < 0xC2 then ⟨none :: characters, none⟩
  else if code < 0xE0 then
    ⟨characters, some ⟨code - 0xC0, 1, 0x80, 0xBF⟩⟩
  else if code < 0xF0 then
    ⟨characters, some ⟨code - 0xE0, 2,
      if code = 0xE0 then 0xA0 else 0x80,
      if code = 0xED then 0x9F else 0xBF⟩⟩
  else if code < 0xF5 then
    ⟨characters, some ⟨code - 0xF0, 3,
      if code = 0xF0 then 0x90 else 0x80,
      if code = 0xF4 then 0x8F else 0xBF⟩⟩
  else ⟨none :: characters, none⟩

/-- Reads one more byte. A byte that does not go on with the character that has
begun ends it as ill-formed and starts anew. -/
def Reading.next (reading : Reading) (byte : UInt8) : Reading :=
  let code := byte.toNat
  match reading.unfinished with
  | none => lead reading.characters code
  | some begun =>
      if begun.lowest ≤ code ∧ code ≤ begun.highest then
        let bits := 64 * begun.bits + code % 64
        if begun.missing ≤ 1 then
          ⟨some (Char.ofNat bits) :: reading.characters, none⟩
        else
          ⟨reading.characters, some ⟨bits, begun.missing - 1, 0x80, 0xBF⟩⟩
      else lead (none :: reading.characters) code

def Reading.finish (reading : Reading) : List (Option Char) :=
  match reading.unfinished with
  | none => reading.characters.reverse
  | some _ => (none :: reading.characters).reverse

/-- The characters of a row of bytes. Each longest run of bytes that starts a
character but does not finish one gives `none`. -/
def decode (bytes : List UInt8) : List (Option Char) :=
  (bytes.foldl Reading.next ⟨[], none⟩).finish

/-- The text of a row of bytes, if every byte belongs to a character. -/
def decode? (bytes : List UInt8) : Option (List Char) :=
  let characters := decode bytes
  if characters.all Option.isSome then some (characters.filterMap id) else none

/-- The text of a row of bytes, with U+FFFD for what is no character. -/
def decodeLossy (bytes : List UInt8) : List Char :=
  (decode bytes).map (·.getD (Char.ofNat 0xFFFD))

/-! ## What is ill-formed -/

/-- The first place where bytes are ill-formed: its index, and how many bytes there
are no character, unless the bytes end before that is known. -/
structure Flaw where
  index : Nat
  length : Option Nat
  deriving DecidableEq

/-- How many bytes at the start belong to no character, if they are as many as the
bytes have shown. -/
def flawLength? : (count : Nat) → Reading → List UInt8 → Option Nat
  | _, _, [] => none
  | count, reading, byte :: rest =>
      let next := reading.next byte
      if next.characters.any Option.isNone then some (max count 1)
      else flawLength? (count + 1) next rest

def flaw? (bytes : List UInt8) : Option Flaw :=
  let characters := decode bytes
  if characters.all Option.isSome then none
  else
    let good := (characters.takeWhile Option.isSome).filterMap id
    let index := (encode good).length
    some ⟨index, flawLength? 0 ⟨[], none⟩ (bytes.drop index)⟩

end StalestFirst.Text.Utf8
