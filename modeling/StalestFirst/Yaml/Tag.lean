import StalestFirst.Text.Utf8
import StalestFirst.Yaml.Scalar

namespace StalestFirst.Yaml

/-! ## Tags

A tag is a handle and a suffix. The handle stands for the start of the tag. -/

/-- A handle, which is empty for a tag written in full, and a suffix. -/
structure TagMark where
  handle : List Char
  suffix : List Char

/-- Whether a character may stand in a tag. Inside angle brackets and in
directives commas and square brackets may too. -/
def isTagCharacter (wide : Bool) (c : Char) : Bool :=
  isWord c || ";/?:@&=+$.%!~*'()".toList.contains c ||
    (wide && (c == ',' || c == '[' || c == ']'))

/-- Reads a byte that is spelled with a percent sign. -/
def readPercentByte (tag : Undertaking) (cursor : Cursor) :
    Except Flaw (Nat × Cursor) :=
  let digits := (cursor.skip 1).rest.take 2
  match hexNumber? digits with
  | some byte =>
      if cursor.startsWith '%' ∧ digits.length = 2 then .ok (byte, cursor.skip 3)
      else .error (cursor.flaw tag .noByte)
  | none => .error (cursor.flaw tag .noByte)

def readTailBytes (tag : Undertaking) :
    Nat → List Nat → Cursor → Except Flaw (List Nat × Cursor)
  | 0, bytes, cursor => .ok (bytes.reverse, cursor)
  | count + 1, bytes, cursor => do
      let (byte, after) ← readPercentByte tag cursor
      if 0x80 ≤ byte ∧ byte < 0xC0 then
        readTailBytes tag count (byte :: bytes) after
      else .error (cursor.flaw tag .badLaterByte)

/-- How many bytes of a character follow its first. -/
def tailLength? (byte : Nat) : Option Nat :=
  if byte < 0x80 then some 0
  else if 0xC0 ≤ byte ∧ byte < 0xE0 then some 1
  else if 0xE0 ≤ byte ∧ byte < 0xF0 then some 2
  else if 0xF0 ≤ byte ∧ byte < 0xF8 then some 3
  else none

/-- Reads a character of which every byte is spelled with a percent sign. -/
def readPercent (tag : Undertaking) (cursor : Cursor) :
    Except Flaw (List Char × Cursor) := do
  let (byte, after) ← readPercentByte tag cursor
  match tailLength? byte with
  | some count =>
      let (bytes, after) ← readTailBytes tag count [byte] after
      pure (Text.Utf8.decodeLossy (bytes.map UInt8.ofNat), after)
  | none => .error (cursor.flaw tag .badFirstByte)

/-- Reads the characters of a tag, the last one first. -/
def readTagTextFrom (tag : Undertaking) (wide : Bool) :
    Nat → List Char → Cursor → Except Flaw (List Char × Cursor)
  | 0, _, cursor => .error (cursor.flaw tag .endOfStream)
  | fuel + 1, text, cursor =>
      match cursor.peek 0 with
      | some c =>
          if c = '%' then do
            let (meant, after) ← readPercent tag cursor
            readTagTextFrom tag wide fuel (meant.reverse ++ text) after
          else if isTagCharacter wide c then
            readTagTextFrom tag wide fuel (c :: text) (cursor.skip 1)
          else .ok (text, cursor)
      | none => .ok (text, cursor)

/-- Reads the characters of a tag. Without a beginning there must be one. -/
def readTagText (tag : Undertaking) (wide : Bool)
    (beginning : Option (List Char)) (cursor : Cursor) :
    Except Flaw (List Char × Cursor) := do
  let (text, after) ←
    readTagTextFrom tag wide (cursor.rest.length + 1) [] cursor
  match beginning with
  | some beginning => pure (beginning.drop 1 ++ text.reverse, after)
  | none =>
      if text.isEmpty then .error (after.flaw tag .noTagText)
      else pure (text.reverse, after)

/-- Reads a handle up to its second mark, or as far as it goes without one. -/
def readHandle (tag : Undertaking) (cursor : Cursor) :
    Except Flaw (List Char × Cursor) :=
  if cursor.startsWith '!' then
    let (word, after) := (cursor.skip 1).takeWhile isWord
    if after.startsWith '!' then .ok ('!' :: word ++ ['!'], after.skip 1)
    else .ok ('!' :: word, after)
  else .error (cursor.flaw tag .noExclamationMark)

/-- Whether a handle has both its marks. -/
def isWholeHandle (handle : List Char) : Bool :=
  2 ≤ handle.length && handle.getLast? == some '!'

/-- Reads the handle and the suffix of a tag. A handle without its second mark is
the beginning of a suffix. -/
def readTagMark (cursor : Cursor) : Except Flaw (TagMark × Cursor) := do
  let tag : Undertaking := ⟨.tag, cursor.place⟩
  let tagText : Undertaking := ⟨.tagText, cursor.place⟩
  if cursor.peek 1 = some '<' then
    let (suffix, after) ← readTagText tagText true none (cursor.skip 2)
    if after.startsWith '>' then pure (⟨[], suffix⟩, after.skip 1)
    else .error (after.flaw tag .noClosingBracket)
  else
    let (handle, after) ← readHandle tag cursor
    if isWholeHandle handle then
      let (suffix, after) ← readTagText tagText false none after
      pure (⟨handle, suffix⟩, after)
    else
      let (suffix, after) ← readTagText tagText false (some handle) after
      if suffix.isEmpty then pure (⟨[], ['!']⟩, after)
      else pure (⟨['!'], suffix⟩, after)

/-- Reads a tag, which must end at a gap or, inside brackets, at a comma. -/
def readTag (inFlow : Bool) (cursor : Cursor) :
    Except Flaw (TagMark × Cursor) := do
  let (mark, after) ← readTagMark cursor
  if isGap (after.peek 0) || (inFlow && after.startsWith ',') then
    pure (mark, after)
  else .error (after.flaw ⟨.tag, cursor.place⟩ .noGap)

/-! ## Directives -/

/-- What a directive says: the version of the stream, or what a handle stands
for. -/
inductive Directive where
  | version (major minor : Nat)
  | tag (handle beginning : List Char)

/-- Reads a number of at most nine digits. -/
def readVersionNumber (version : Undertaking) (cursor : Cursor) :
    Except Flaw (Nat × Cursor) :=
  let (digits, after) := cursor.takeWhile fun c => '0' ≤ c && c ≤ '9'
  if 9 < digits.length then
    .error ((cursor.skip 9).flaw version .longVersion)
  else if digits.isEmpty then .error (cursor.flaw version .noVersion)
  else .ok (Nat.ofDigitChars 10 digits 0, after)

def readVersion (start : Place) (cursor : Cursor) :
    Except Flaw (Directive × Cursor) := do
  let version : Undertaking := ⟨.versionDirective, start⟩
  let (major, after) ← readVersionNumber version cursor.skipBlanks
  if after.startsWith '.' then
    let (minor, after) ← readVersionNumber version (after.skip 1)
    pure (.version major minor, after)
  else .error (after.flaw version .noVersionPoint)

def readHandleMeaning (start : Place) (cursor : Cursor) :
    Except Flaw (Directive × Cursor) := do
  let (handle, after) ← readHandle ⟨.directiveHandle, start⟩ cursor.skipBlanks
  let directive : Undertaking := ⟨.tagDirective, start⟩
  if !isWholeHandle handle && handle != ['!'] then
    .error (after.flaw ⟨.directiveHandleEnd, start⟩ .noExclamationMark)
  else if !after.atBlank then .error (after.flaw directive .noBlank)
  else
    let (beginning, after) ←
      readTagText ⟨.directiveTagText, start⟩ true none after.skipBlanks
    if isGap (after.peek 0) then pure (.tag handle beginning, after)
    else .error (after.flaw directive .noGap)

/-- Reads a directive with the rest of its line. -/
def readDirective (cursor : Cursor) : Except Flaw (Directive × Cursor) := do
  let start := cursor.place
  let line : Undertaking := ⟨.directive, start⟩
  let (name, after) := (cursor.skip 1).takeWhile isWord
  let (directive, after) ←
    if name.isEmpty then .error (after.flaw line .noDirectiveName)
    else if !isGap (after.peek 0) then
      .error (after.flaw line .badDirectiveName)
    else if name = "YAML".toList then readVersion start after
    else if name = "TAG".toList then readHandleMeaning start after
    else .error (after.flaw line .unknownDirective)
  pure (directive, ← after.endLine line)

end StalestFirst.Yaml
