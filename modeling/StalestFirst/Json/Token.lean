import StalestFirst.Json.Basic
import StalestFirst.Text.Digits

namespace StalestFirst.Json

/-! ## Tokens

A JSON text is first cut into tokens. The text comes as characters, with `none`
where its bytes are no character; such a place is allowed inside quotation marks
alone. -/

/-- A bracket, a mark, or a value that is no array and no object. -/
inductive Token where
  | openArray
  | closeArray
  | openObject
  | closeObject
  | colon
  | comma
  | scalar (value : Json)

/-! ## Texts between quotation marks -/

/-- What has been read of a text: its characters, the last one first, the first
half of a surrogate pair that still lacks its second, and whether the text is
garbled. -/
structure Passage where
  characters : List Char
  half : Option Nat
  garbled : Bool

namespace Passage

def start : Passage := ⟨[], none, false⟩

def push (passage : Passage) (c : Char) : Passage :=
  ⟨c :: passage.characters, none, passage.garbled || passage.half.isSome⟩

/-- The passage with one more place that is no character. -/
def pushGarbled (passage : Passage) : Passage :=
  ⟨passage.characters, none, true⟩

/-- The passage with one more escaped UTF-16 unit. -/
def pushUnit (passage : Passage) (unit : Nat) : Passage :=
  if unit < 0xD800 ∨ 0xDFFF < unit then passage.push (Char.ofNat unit)
  else
    match passage.half with
    | none =>
        if unit < 0xDC00 then { passage with half := some unit }
        else passage.pushGarbled
    | some high =>
        if unit < 0xDC00 then passage.pushGarbled
        else
          ⟨Char.ofNat (0x10000 + (high - 0xD800) * 0x400 + (unit - 0xDC00)) ::
              passage.characters, none, passage.garbled⟩

def value (passage : Passage) : Json :=
  if passage.garbled || passage.half.isSome then .garbled
  else .text (String.ofList passage.characters.reverse)

end Passage

/-! ## Numbers -/

/-- The part of a number that its last character belongs to. -/
inductive NumberPart where
  | minus
  | zero
  | whole
  | point
  | fraction
  | mark
  | markSign
  | exponent

namespace NumberPart

/-- The part that the next character belongs to, if it belongs to the number. -/
def next (part : NumberPart) (c : Char) : Option NumberPart :=
  let digit := Text.isDigit c
  let exponentMark := c == 'e' || c == 'E'
  match part with
  | .minus => if c = '0' then some .zero else if digit then some .whole else none
  | .zero =>
      if c = '.' then some .point
      else if exponentMark then some .mark
      else none
  | .whole =>
      if digit then some .whole
      else if c = '.' then some .point
      else if exponentMark then some .mark
      else none
  | .point => if digit then some .fraction else none
  | .fraction =>
      if digit then some .fraction
      else if exponentMark then some .mark
      else none
  | .mark =>
      if c = '+' ∨ c = '-' then some .markSign
      else if digit then some .exponent
      else none
  | .markSign => if digit then some .exponent else none
  | .exponent => if digit then some .exponent else none

def mayEnd : NumberPart → Bool
  | .zero | .whole | .fraction | .exponent => true
  | _ => false

/-- The value of a number that ends with this part. Its whole digits come with
the last one first. -/
def value (part : NumberPart) (negative : Bool) (digits : List Char) : Json :=
  match part, negative with
  | .zero, false => .integer 0
  | .whole, false => .integer (Text.valueOfDigits digits.reverse)
  | .whole, true => .integer (-(Text.valueOfDigits digits.reverse : Int))
  | _, _ => .real

end NumberPart

/-! ## Scanning -/

/-- Where the scanner stands: between tokens, inside a word of which some letters
are still to come, inside a number, or inside a text, after a backslash there,
or among the digits of an escaped unit. -/
inductive Position where
  | between
  | word (letters : List Char) (value : Json)
  | number (part : NumberPart) (negative : Bool) (digits : List Char)
  | text (passage : Passage)
  | escape (passage : Passage)
  | unit (passage : Passage) (missing : Nat) (read : Nat)

/-- The tokens so far, the last one first, and the position after them. -/
structure Scan where
  tokens : List Token
  position : Position

def isBlank (c : Char) : Bool :=
  c == ' ' || c == '\n' || c == '\r' || c == '\t'

def begin (tokens : List Token) (c : Char) : Option Scan :=
  if isBlank c then some ⟨tokens, .between⟩
  else if c = '[' then some ⟨.openArray :: tokens, .between⟩
  else if c = ']' then some ⟨.closeArray :: tokens, .between⟩
  else if c = '\x7b' then some ⟨.openObject :: tokens, .between⟩
  else if c = '\x7d' then some ⟨.closeObject :: tokens, .between⟩
  else if c = ':' then some ⟨.colon :: tokens, .between⟩
  else if c = ',' then some ⟨.comma :: tokens, .between⟩
  else if c = '"' then some ⟨tokens, .text .start⟩
  else if c = '-' then some ⟨tokens, .number .minus true []⟩
  else if c = '0' then some ⟨tokens, .number .zero false [c]⟩
  else if Text.isDigit c then some ⟨tokens, .number .whole false [c]⟩
  else if c = 'n' then some ⟨tokens, .word "ull".toList .null⟩
  else if c = 't' then some ⟨tokens, .word "rue".toList (.bool true)⟩
  else if c = 'f' then some ⟨tokens, .word "alse".toList (.bool false)⟩
  else none

def hexValue? (c : Char) : Option Nat :=
  if '0' ≤ c ∧ c ≤ '9' then some (c.toNat - 48)
  else if 'a' ≤ c ∧ c ≤ 'f' then some (c.toNat - 87)
  else if 'A' ≤ c ∧ c ≤ 'F' then some (c.toNat - 55)
  else none

/-- The character that a letter after a backslash stands for. -/
def escapeOf? (c : Char) : Option Char :=
  if c = '"' ∨ c = '\\' ∨ c = '/' then some c
  else if c = 'b' then some (Char.ofNat 8)
  else if c = 'f' then some (Char.ofNat 12)
  else if c = 'n' then some '\n'
  else if c = 'r' then some '\r'
  else if c = 't' then some '\t'
  else none

/-- Reads one character, or `none` where there is none. -/
def Scan.next (scan : Scan) (place : Option Char) : Option Scan :=
  match scan.position, place with
  | .text passage, none => some ⟨scan.tokens, .text passage.pushGarbled⟩
  | _, none => none
  | .between, some c => begin scan.tokens c
  | .word [] value, some c => begin (.scalar value :: scan.tokens) c
  | .word (letter :: letters) value, some c =>
      if c = letter then some ⟨scan.tokens, .word letters value⟩ else none
  | .number part negative digits, some c =>
      match part.next c with
      | some next => some ⟨scan.tokens, .number next negative (c :: digits)⟩
      | none =>
          if part.mayEnd then
            begin (.scalar (part.value negative digits) :: scan.tokens) c
          else none
  | .text passage, some c =>
      if c = '"' then some ⟨.scalar passage.value :: scan.tokens, .between⟩
      else if c = '\\' then some ⟨scan.tokens, .escape passage⟩
      else if c.toNat < 0x20 then none
      else some ⟨scan.tokens, .text (passage.push c)⟩
  | .escape passage, some c =>
      if c = 'u' then some ⟨scan.tokens, .unit passage 4 0⟩
      else
        (escapeOf? c).map fun meant =>
          ⟨scan.tokens, .text (passage.push meant)⟩
  | .unit passage missing read, some c =>
      (hexValue? c).map fun value =>
        let read := 16 * read + value
        if missing ≤ 1 then ⟨scan.tokens, .text (passage.pushUnit read)⟩
        else ⟨scan.tokens, .unit passage (missing - 1) read⟩

def Scan.finish (scan : Scan) : Option (List Token) :=
  match scan.position with
  | .between => some scan.tokens.reverse
  | .word [] value => some (.scalar value :: scan.tokens).reverse
  | .number part negative digits =>
      if part.mayEnd then
        some (.scalar (part.value negative digits) :: scan.tokens).reverse
      else none
  | _ => none

def Scan.run (scan : Scan) : List (Option Char) → Option (List Token)
  | [] => scan.finish
  | place :: rest =>
      match scan.next place with
      | none => none
      | some next => next.run rest

def tokens? (text : List (Option Char)) : Option (List Token) :=
  Scan.run ⟨[], .between⟩ text

end StalestFirst.Json
