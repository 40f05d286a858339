import StalestFirst.Yaml.Cursor

namespace StalestFirst.Yaml

/-! ## Scalars

A scalar is read from the place where it starts. Its recursions count down a
number that is at least the count of characters left. -/

inductive Style where
  | plain
  | singleQuoted
  | doubleQuoted
  | literal
  | folded
  deriving DecidableEq

/-! ## Gaps between words -/

/-- The blanks and the ends of lines between two words: the blanks before the
first end of a line, whether there is one, and what the first and the later ones
stand for. -/
structure Gap where
  blanks : List Char
  broken : Bool
  first : List Char
  later : List Char

namespace Gap

def empty : Gap := ⟨[], false, [], []⟩

/-- The gap after an escaped end of a line. -/
def joined : Gap := ⟨[], true, [], []⟩

/-- What stands for a gap in the scalar: the blanks, a space for a single end of
a line, or the later ends of lines. -/
def text (gap : Gap) : List Char :=
  if gap.broken then
    if gap.first = ['\n'] then
      if gap.later.isEmpty then [' '] else gap.later
    else gap.first ++ gap.later
  else gap.blanks

/-- Reads on to the end of a gap in a scalar. No tab may stand before the column
`margin` of a later line. -/
def readFrom (scalar : Undertaking) (margin : Int) :
    Nat → Gap → Cursor → Except Flaw (Gap × Cursor)
  | 0, _, cursor => .error (cursor.flaw scalar .endOfStream)
  | fuel + 1, gap, cursor =>
      match cursor.peek 0 with
      | none => .ok (gap, cursor)
      | some c =>
          if isBlank c then
            if gap.broken then
              if c = '\t' ∧ cursor.column < margin then
                .error (cursor.flaw scalar .tabBeforeMargin)
              else readFrom scalar margin fuel gap (cursor.skip 1)
            else
              readFrom scalar margin fuel
                { gap with blanks := gap.blanks ++ [c] } (cursor.skip 1)
          else if isBreak c then
            let next :=
              if gap.broken then
                { gap with later := gap.later ++ cursor.breakText }
              else { gap with broken := true, first := cursor.breakText }
            readFrom scalar margin fuel next cursor.skipBreak
          else .ok (gap, cursor)

def read (scalar : Undertaking) (margin : Int) (gap : Gap) (cursor : Cursor) :
    Except Flaw (Gap × Cursor) :=
  readFrom scalar margin (cursor.rest.length + 1) gap cursor

end Gap

/-! ## Quoted scalars -/

def hexValue? (c : Char) : Option Nat :=
  if '0' ≤ c ∧ c ≤ '9' then some (c.toNat - 48)
  else if 'a' ≤ c ∧ c ≤ 'f' then some (c.toNat - 87)
  else if 'A' ≤ c ∧ c ≤ 'F' then some (c.toNat - 55)
  else none

def hexNumber? (digits : List Char) : Option Nat :=
  digits.foldlM (fun number c => (hexValue? c).map (16 * number + ·)) 0

/-- The character that a letter after a backslash stands for. -/
def escapeOf? (c : Char) : Option Char :=
  match c with
  | '0' => some (Char.ofNat 0)
  | 'a' => some (Char.ofNat 7)
  | 'b' => some (Char.ofNat 8)
  | 't' | '\t' => some '\t'
  | 'n' => some '\n'
  | 'v' => some (Char.ofNat 11)
  | 'f' => some (Char.ofNat 12)
  | 'r' => some '\r'
  | 'e' => some (Char.ofNat 27)
  | ' ' | '"' | '/' | '\\' => some c
  | 'N' => some (Char.ofNat 0x85)
  | '_' => some (Char.ofNat 0xA0)
  | 'L' => some lineSeparator
  | 'P' => some paragraphSeparator
  | _ => none

/-- How many hexadecimal digits follow a letter after a backslash. -/
def escapeWidth? (c : Char) : Option Nat :=
  match c with
  | 'x' => some 2
  | 'u' => some 4
  | 'U' => some 8
  | _ => none

/-- Reads what a backslash and the characters after it stand for. -/
def readEscape (escape : Undertaking) (cursor : Cursor) :
    Except Flaw (Char × Cursor) :=
  let letter := (cursor.peek 1).getD (Char.ofNat 0)
  match escapeWidth? letter with
  | none =>
      match escapeOf? letter with
      | some meant => .ok (meant, cursor.skip 2)
      | none => .error (cursor.flaw escape .unknownEscape)
  | some width =>
      let after := cursor.skip 2
      let digits := after.rest.take width
      match hexNumber? digits with
      | some code =>
          if digits.length < width then .error (after.flaw escape .noHexDigit)
          else if code.isValidChar then
            .ok (Char.ofNat code, after.skip width)
          else .error (after.flaw escape .badCodePoint)
      | none => .error (after.flaw escape .noHexDigit)

/-- Reads on to the quotation mark that ends a scalar, which starts at a place. -/
def readQuotedFrom (double : Bool) (start : Place) :
    Nat → List Char → Cursor → Except Flaw (List Char × Cursor)
  | 0, _, cursor => .error (cursor.flaw ⟨.quotedScalar, start⟩ .endOfStream)
  | fuel + 1, text, cursor =>
      let scalar : Undertaking := ⟨.quotedScalar, start⟩
      if cursor.atDocumentMark then .error (cursor.flaw scalar .documentMark)
      else
        match cursor.peek 0 with
        | none => .error (cursor.flaw scalar .endOfStream)
        | some c =>
            if isBlank c || isBreak c then do
              let (gap, after) ← Gap.empty.read scalar 0 cursor
              readQuotedFrom double start fuel (gap.text.reverse ++ text) after
            else if !double && c == '\'' && cursor.peek 1 == some '\'' then
              readQuotedFrom double start fuel ('\'' :: text) (cursor.skip 2)
            else if c == (if double then '"' else '\'') then
              .ok (text.reverse, cursor.skip 1)
            else if double && c == '\\' then
              if (cursor.peek 1).any isBreak then do
                let (gap, after) ←
                  Gap.joined.read scalar 0 (cursor.skip 1).skipBreak
                readQuotedFrom double start fuel (gap.text.reverse ++ text) after
              else do
                let (meant, after) ← readEscape ⟨.escape, start⟩ cursor
                readQuotedFrom double start fuel (meant :: text) after
            else readQuotedFrom double start fuel (c :: text) (cursor.skip 1)

def readQuoted (double : Bool) (cursor : Cursor) :
    Except Flaw (List Char × Cursor) :=
  readQuotedFrom double cursor.place (cursor.rest.length + 1) [] (cursor.skip 1)

/-! ## Plain scalars -/

/-- Whether a character is a bracket or a comma, which ends a plain scalar inside
brackets. -/
def isFlowMark (c : Char) : Bool :=
  c == ',' || c == '[' || c == ']' || c == '\x7b' || c == '\x7d'

/-- Reads one word of a plain scalar, its last character first. -/
def readWordFrom (scalar : Undertaking) (inFlow : Bool) :
    Nat → List Char → Cursor → Except Flaw (List Char × Cursor)
  | 0, _, cursor => .error (cursor.flaw scalar .endOfStream)
  | fuel + 1, word, cursor =>
      match cursor.peek 0 with
      | none => .ok (word, cursor)
      | some c =>
          if isBlank c || isBreak c then .ok (word, cursor)
          else if inFlow && c == ':' &&
              (cursor.peek 1).any (fun next => isFlowMark next || next == '?') then
            .error (cursor.flaw scalar .strayColon)
          else if (c == ':' && isGap (cursor.peek 1)) ||
              (inFlow && isFlowMark c) then
            .ok (word, cursor)
          else readWordFrom scalar inFlow fuel (c :: word) (cursor.skip 1)

/-- A scalar that has been read, whether a line ended after its last word, and
what follows. -/
structure PlainScalar where
  text : List Char
  broken : Bool
  after : Cursor

/-- Reads on to the end of a plain scalar, of which all lines after the first
start at the column `margin` or behind it. -/
def readPlainFrom (scalar : Undertaking) (inFlow : Bool) (margin : Int) :
    Nat → List Char → Gap → Cursor → Except Flaw PlainScalar
  | 0, _, _, cursor => .error (cursor.flaw scalar .endOfStream)
  | fuel + 1, text, gap, cursor =>
      if cursor.atDocumentMark || cursor.startsWith '#' then
        .ok ⟨text, gap.broken, cursor⟩
      else do
        let (word, after) ←
          readWordFrom scalar inFlow (cursor.rest.length + 1) [] cursor
        if word.isEmpty then .ok ⟨text, gap.broken, after⟩
        else
          let text := text ++ gap.text ++ word.reverse
          if after.atBlank || after.atBreak then
            let (gap, after) ← Gap.empty.read scalar margin after
            if !inFlow ∧ after.column < margin then
              .ok ⟨text, gap.broken, after⟩
            else readPlainFrom scalar inFlow margin fuel text gap after
          else .ok ⟨text, false, after⟩

def readPlain (inFlow : Bool) (indent : Int) (cursor : Cursor) :
    Except Flaw PlainScalar :=
  readPlainFrom ⟨.plainScalar, cursor.place⟩ inFlow (indent + 1)
    (cursor.rest.length + 1) [] .empty cursor

/-! ## Block scalars -/

/-- What happens to the ends of lines at the end of a block scalar. -/
inductive Chomping where
  | strip
  | clip
  | keep
  deriving DecidableEq

def chomping? (place : Option Char) : Option Chomping :=
  match place with
  | some '+' => some .keep
  | some '-' => some .strip
  | _ => none

/-- The digit of an indentation, which may not be zero, or zero without one. -/
def indentDigit? (place : Option Char) : Option Nat :=
  match place with
  | some c =>
      if c = '0' then none
      else if '1' ≤ c ∧ c ≤ '9' then some (c.toNat - 48)
      else some 0
  | none => some 0

/-- Reads the marks after the one that starts a block scalar. -/
def readBlockHeader (scalar : Undertaking) (cursor : Cursor) :
    Except Flaw (Chomping × Nat × Cursor) :=
  match chomping? (cursor.peek 0) with
  | some chomping =>
      let cursor := cursor.skip 1
      match indentDigit? (cursor.peek 0) with
      | some digit => .ok (chomping, digit, cursor.skip (min digit 1))
      | none => .error (cursor.flaw scalar .zeroIndent)
  | none =>
      match indentDigit? (cursor.peek 0) with
      | some digit =>
          let cursor := cursor.skip (min digit 1)
          match chomping? (cursor.peek 0) with
          | some chomping => .ok (chomping, digit, cursor.skip 1)
          | none => .ok (.clip, digit, cursor)
      | none => .error (cursor.flaw scalar .zeroIndent)

/-- The empty lines before a line of a block scalar: what they stand for, the
greatest column seen, and what follows. -/
structure EmptyLines where
  breaks : List Char
  deepest : Nat
  after : Cursor

/-- Reads empty lines. The indentation is zero while it is not known. -/
def readEmptyLinesFrom (scalar : Undertaking) (indent : Nat) :
    Nat → List Char → Nat → Cursor → Except Flaw EmptyLines
  | 0, _, _, cursor => .error (cursor.flaw scalar .endOfStream)
  | fuel + 1, breaks, deepest, cursor =>
      let spaces := (cursor.takeWhile (· == ' ')).1.length
      let cursor := cursor.skip
        (if indent = 0 then spaces else min spaces (indent - cursor.column))
      let deepest := max deepest cursor.column
      if (indent = 0 ∨ cursor.column < indent) ∧ cursor.startsWith '\t' then
        .error (cursor.flaw scalar .tabForSpace)
      else if cursor.atBreak then
        readEmptyLinesFrom scalar indent fuel (breaks ++ cursor.breakText) deepest
          cursor.skipBreak
      else .ok ⟨breaks, deepest, cursor⟩

def readEmptyLines (scalar : Undertaking) (indent : Nat) (cursor : Cursor) :
    Except Flaw EmptyLines :=
  readEmptyLinesFrom scalar indent (cursor.rest.length + 1) [] 0 cursor

/-- The lines of a block scalar read so far, the end of the last one, the empty
lines after that, and whether it starts with a blank. -/
structure BlockLines where
  text : List Char
  lastBreak : List Char
  empty : List Char
  blank : Bool

/-- The lines with one more. Between two lines that start with no blank, a folded
scalar has a space for a single end of a line. -/
def BlockLines.push (lines : BlockLines) (folded : Bool) (line : List Char)
    (lineBreak empty : List Char) : BlockLines :=
  let blank := line.head?.any isBlank
  let between :=
    if folded && lines.lastBreak == ['\n'] && !lines.blank && !blank then
      if lines.empty.isEmpty then [' '] else lines.empty
    else lines.lastBreak ++ lines.empty
  ⟨lines.text ++ between ++ line, lineBreak, empty, blank⟩

def readBlockFrom (scalar : Undertaking) (folded : Bool) (indent : Nat) :
    Nat → BlockLines → Cursor → Except Flaw (BlockLines × Cursor)
  | 0, _, cursor => .error (cursor.flaw scalar .endOfStream)
  | fuel + 1, lines, cursor =>
      if cursor.column = indent ∧ !cursor.atEnd then do
        let (line, after) := cursor.takeWhile (!isBreak ·)
        let empty ← readEmptyLines scalar indent after.skipBreak
        readBlockFrom scalar folded indent fuel
          (lines.push folded line after.breakText empty.breaks) empty.after
      else .ok (lines, cursor)

/-- Reads a block scalar inside a block of the given indentation. -/
def readBlock (folded : Bool) (outer : Int) (cursor : Cursor) :
    Except Flaw (List Char × Cursor) := do
  let scalar : Undertaking := ⟨.blockScalar, cursor.place⟩
  let (chomping, digit, cursor) ← readBlockHeader scalar (cursor.skip 1)
  let cursor ← cursor.endLine scalar
  let known := if digit = 0 then 0 else (max outer 0).toNat + digit
  let first ← readEmptyLines scalar known cursor
  let indent :=
    if known = 0 then max first.deepest (max (outer + 1).toNat 1) else known
  let (lines, after) ← readBlockFrom scalar folded indent (cursor.rest.length + 1)
    ⟨[], [], first.breaks, false⟩ first.after
  let tail :=
    match chomping with
    | .strip => []
    | .clip => lines.lastBreak
    | .keep => lines.lastBreak ++ lines.empty
  pure (lines.text ++ tail, after)

end StalestFirst.Yaml
