import StalestFirst.Yaml.Flaw

namespace StalestFirst.Yaml

/-! ## Characters of a stream -/

def isAllowed (c : Char) : Bool :=
  let code := c.toNat
  code == 0x9 || code == 0xA || code == 0xD || (0x20 ≤ code && code ≤ 0x7E) ||
    code == 0x85 || (0xA0 ≤ code && code ≤ 0xFFFD) || 0x10000 ≤ code

def byteOrderMark : Char := Char.ofNat 0xFEFF

def lineSeparator : Char := Char.ofNat 0x2028

def paragraphSeparator : Char := Char.ofNat 0x2029

def isBreak (c : Char) : Bool :=
  c == '\n' || c == '\r' || c == Char.ofNat 0x85 || c == lineSeparator ||
    c == paragraphSeparator

/-- Whether a character is a space or a tab. -/
def isBlank (c : Char) : Bool := c == ' ' || c == '\t'

/-- Whether a place is blank, ends a line, or lies behind the stream. -/
def isGap (place : Option Char) : Bool :=
  match place with
  | none => true
  | some c => isBlank c || isBreak c

/-- Whether a character may stand in the name of an anchor, a handle or a
directive. -/
def isWord (c : Char) : Bool :=
  ('0' ≤ c && c ≤ '9') || ('A' ≤ c && c ≤ 'Z') || ('a' ≤ c && c ≤ 'z') ||
    c == '_' || c == '-'

/-! ## Positions in a stream -/

/-- The rest of a stream, and the index, the line and the column where it
starts. -/
structure Cursor where
  rest : List Char
  index : Nat
  line : Nat
  column : Nat

namespace Cursor

/-- The start of a stream. A byte order mark there does not count. -/
def ofText (text : List Char) : Cursor :=
  let rest :=
    match text with
    | c :: rest => if c = byteOrderMark then rest else text
    | [] => []
  ⟨rest, 0, 0, 0⟩

def place (cursor : Cursor) : Place := ⟨cursor.line, cursor.column⟩

/-- The character `distance` places ahead, if the stream goes so far. -/
def peek (cursor : Cursor) (distance : Nat) : Option Char :=
  cursor.rest[distance]?

def startsWith (cursor : Cursor) (c : Char) : Bool := cursor.peek 0 == some c

def atEnd (cursor : Cursor) : Bool := cursor.rest.isEmpty

def atBlank (cursor : Cursor) : Bool := (cursor.peek 0).any isBlank

def atBreak (cursor : Cursor) : Bool := (cursor.peek 0).any isBreak

def skip (cursor : Cursor) (count : Nat) : Cursor :=
  ⟨cursor.rest.drop count, cursor.index + count, cursor.line,
    cursor.column + count⟩

/-- The cursor behind the end of a line. A carriage return and a line feed are
one end. -/
def skipBreak (cursor : Cursor) : Cursor :=
  match cursor.rest with
  | '\r' :: '\n' :: rest => ⟨rest, cursor.index + 2, cursor.line + 1, 0⟩
  | c :: rest =>
      if isBreak c then ⟨rest, cursor.index + 1, cursor.line + 1, 0⟩ else cursor
  | [] => cursor

/-- What the end of a line here stands for in a scalar. -/
def breakText (cursor : Cursor) : List Char :=
  match cursor.peek 0 with
  | some c =>
      if c = lineSeparator ∨ c = paragraphSeparator then [c]
      else if isBreak c then ['\n']
      else []
  | none => []

/-- The longest run of characters of a kind, and the cursor behind it. The kind
must hold no end of a line. -/
def takeWhile (cursor : Cursor) (kind : Char → Bool) : List Char × Cursor :=
  let run := cursor.rest.takeWhile kind
  (run, cursor.skip run.length)

def skipBlanks (cursor : Cursor) : Cursor := (cursor.takeWhile isBlank).2

def flaw (cursor : Cursor) (undertaking : Undertaking) (problem : Problem) :
    Flaw :=
  .during undertaking problem cursor.place

/-- The cursor behind the rest of the line, which must be blank but for a
comment. -/
def endLine (cursor : Cursor) (undertaking : Undertaking) : Except Flaw Cursor :=
  let cursor := cursor.skipBlanks
  let cursor :=
    if cursor.startsWith '#' then (cursor.takeWhile (!isBreak ·)).2 else cursor
  if cursor.atBreak then .ok cursor.skipBreak
  else if cursor.atEnd then .ok cursor
  else .error (cursor.flaw undertaking .noLineEnd)

def atDocumentStart (cursor : Cursor) : Bool :=
  cursor.column == 0 && cursor.rest.take 3 == ['-', '-', '-'] &&
    isGap (cursor.peek 3)

def atDocumentEnd (cursor : Cursor) : Bool :=
  cursor.column == 0 && cursor.rest.take 3 == ['.', '.', '.'] &&
    isGap (cursor.peek 3)

def atDocumentMark (cursor : Cursor) : Bool :=
  cursor.atDocumentStart || cursor.atDocumentEnd

end Cursor

end StalestFirst.Yaml
