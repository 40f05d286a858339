import StalestFirst.Yaml.Tag

namespace StalestFirst.Yaml

/-! ## Tokens of a stream

The tokens of a stream show where blocks start and end, though only columns tell
it. A key without a mark of its own is found when the colon after it comes. -/

inductive Token where
  | directive (directive : Directive)
  | documentStart
  | documentEnd
  | blockSequenceStart
  | blockMappingStart
  | blockEnd
  | flowSequenceStart
  | flowSequenceEnd
  | flowMappingStart
  | flowMappingEnd
  | blockEntry
  | flowEntry
  | key
  | value
  | alias (name : List Char)
  | anchor (name : List Char)
  | tag (mark : TagMark)
  | scalar (style : Style) (text : List Char)
  | streamEnd

structure PlacedToken where
  token : Token
  place : Place

/-- A place where a key without a mark may have started: how many tokens come
before it, where it stands, and whether it must be a key. -/
structure KeyPlace where
  tokens : Nat
  index : Nat
  place : Place
  required : Bool

/-- What has been read of a stream. The list `keys` has a place for the block and
one for every open bracket, the innermost first. -/
structure Scan where
  cursor : Cursor
  tokens : Array PlacedToken
  indent : Int
  outerIndents : List Int
  keyAllowed : Bool
  keys : List (Option KeyPlace)
  ended : Bool

namespace Scan

def ofText (text : List Char) : Scan :=
  ⟨.ofText text, #[], -1, [], true, [none], false⟩

def inFlow (scan : Scan) : Bool := 1 < scan.keys.length

def push (scan : Scan) (token : Token) : Scan :=
  { scan with tokens := scan.tokens.push ⟨token, scan.cursor.place⟩ }

/-- The scan with a token put in after the first `count` ones. -/
def pushAt (scan : Scan) (count : Nat) (place : Place) (token : Token) : Scan :=
  { scan with
    tokens := (scan.tokens.extract 0 count).push ⟨token, place⟩ ++
      scan.tokens.extract count scan.tokens.size }

def skip (scan : Scan) (count : Nat) : Scan :=
  { scan with cursor := scan.cursor.skip count }

/-! ## Blocks -/

/-- The scan with a block opened at a place, unless one is open at its column. Its
token comes after the first `count` ones. -/
def openBlock (scan : Scan) (place : Place) (count : Nat) (token : Token) : Scan :=
  if !scan.inFlow && decide (scan.indent < place.column) then
    { scan.pushAt count place token with
      indent := place.column
      outerIndents := scan.indent :: scan.outerIndents }
  else scan

/-- The scan with the blocks closed that lie deeper than a column. -/
def closeBlocks (scan : Scan) (column : Int) : Scan :=
  if scan.inFlow then scan else go scan scan.outerIndents
where
  go (scan : Scan) : List Int → Scan
    | [] => scan
    | outer :: rest =>
        if column < scan.indent then
          go { scan.push .blockEnd with indent := outer, outerIndents := rest }
            rest
        else scan

/-! ## Keys without marks -/

/-- The flaw that there is no key where one must be. -/
def missingKey (cursor : Cursor) (key : KeyPlace) : Flaw :=
  cursor.flaw ⟨.simpleKey, key.place⟩ .missingColon

/-- The scan without a place for a key in the innermost brackets, where there need
not be one. -/
def forgetKey (scan : Scan) : Except Flaw Scan :=
  match scan.keys with
  | some key :: rest =>
      if key.required then .error (missingKey scan.cursor key)
      else .ok { scan with keys := none :: rest }
  | _ => .ok scan

/-- The scan with its cursor taken as the place where a key may start. -/
def rememberKey (scan : Scan) : Except Flaw Scan :=
  if scan.keyAllowed then do
    let cursor := scan.cursor
    let scan ← scan.forgetKey
    let key : KeyPlace := {
      tokens := scan.tokens.size
      index := cursor.index
      place := cursor.place
      required := !scan.inFlow && decide (scan.indent = cursor.column) }
    pure { scan with keys := some key :: scan.keys.drop 1 }
  else .ok scan

/-- A place for a key, unless it lies on an earlier line or too far back, where
there need not be a key. -/
def refreshKey (cursor : Cursor) :
    Option KeyPlace → Except Flaw (Option KeyPlace)
  | none => .ok none
  | some key =>
      if key.place.line < cursor.line ∨ key.index + 1024 < cursor.index then
        if key.required then .error (missingKey cursor key) else .ok none
      else .ok (some key)

/-- The scan with only the places where a key may still have started. The outer
ones are looked at first. -/
def refreshKeys (scan : Scan) : Except Flaw Scan := do
  let keys ← scan.keys.reverse.mapM (refreshKey scan.cursor)
  pure { scan with keys := keys.reverse }

/-- How many tokens are certain. Where a key may have started, another token may
still be put in. -/
def certain (scan : Scan) : Nat :=
  (scan.keys.filterMap (·.map KeyPlace.tokens)).foldl min scan.tokens.size

/-! ## One token -/

/-- Reads a token that may itself be a key. -/
def readNode (scan : Scan)
    (read : Cursor → Except Flaw (Token × Cursor)) : Except Flaw Scan := do
  let scan ← scan.rememberKey
  let (token, after) ← read scan.cursor
  pure { scan.push token with cursor := after, keyAllowed := false }

def readName (activity : Activity) (token : List Char → Token) (cursor : Cursor) :
    Except Flaw (Token × Cursor) :=
  let (name, after) := (cursor.skip 1).takeWhile isWord
  let ended := isGap (after.peek 0) ||
    (after.peek 0).any fun c => "?:,]\x7d%@\x60".toList.contains c
  if name.isEmpty || !ended then
    .error (after.flaw ⟨activity, cursor.place⟩ .noName)
  else .ok (token name, after)

def openFlow (scan : Scan) (token : Token) : Except Flaw Scan := do
  let scan ← scan.rememberKey
  pure { (scan.push token).skip 1 with
    keyAllowed := true
    keys := none :: scan.keys }

def closeFlow (scan : Scan) (token : Token) : Except Flaw Scan := do
  let scan ← scan.forgetKey
  let keys := if scan.inFlow then scan.keys.drop 1 else scan.keys
  pure { (scan.push token).skip 1 with keyAllowed := false, keys }

/-- The scan itself, if a mark may stand here in a block. -/
def allowMark (scan : Scan) (problem : Problem) : Except Flaw Scan :=
  if scan.inFlow || scan.keyAllowed then .ok scan
  else .error (.plain problem scan.cursor.place)

def readMark (scan : Scan) (problem : Problem) (block token : Token)
    (keyAllowed : Bool) : Except Flaw Scan := do
  let scan ← scan.allowMark problem
  let scan ←
    (scan.openBlock scan.cursor.place scan.tokens.size block).forgetKey
  pure { (scan.push token).skip 1 with keyAllowed }

/-- Reads the colon before a value. The key before it is found here if it has no
mark. -/
def readValue (scan : Scan) : Except Flaw Scan :=
  match scan.keys with
  | some key :: rest =>
      let scan := (scan.pushAt key.tokens key.place .key).openBlock key.place
        key.tokens .blockMappingStart
      .ok { (scan.push .value).skip 1 with
        keyAllowed := false
        keys := none :: rest }
  | _ => do
      let scan ← scan.allowMark .valueNotAllowed
      let scan := scan.openBlock scan.cursor.place scan.tokens.size
        .blockMappingStart
      pure { (scan.push .value).skip 1 with keyAllowed := !scan.inFlow }

def readDocumentMark (scan : Scan) (token : Token) : Except Flaw Scan := do
  let scan ← (scan.closeBlocks (-1)).forgetKey
  pure { (scan.push token).skip 3 with keyAllowed := false }

def readDirectiveLine (scan : Scan) : Except Flaw Scan := do
  let scan ← (scan.closeBlocks (-1)).forgetKey
  let (directive, after) ← readDirective scan.cursor
  pure { scan.push (.directive directive) with
    cursor := after
    keyAllowed := false }

def readBlockScalar (scan : Scan) (folded : Bool) : Except Flaw Scan := do
  let scan ← scan.forgetKey
  let (text, after) ← readBlock folded scan.indent scan.cursor
  let style := if folded then .folded else .literal
  pure { scan.push (.scalar style text) with cursor := after, keyAllowed := true }

/-- Reads a plain scalar. After an end of a line a key may start. -/
def readPlainScalar (scan : Scan) : Except Flaw Scan := do
  let scan ← scan.rememberKey
  let scalar ← readPlain scan.inFlow scan.indent scan.cursor
  pure { scan.push (.scalar .plain scalar.text) with
    cursor := scalar.after
    keyAllowed := scalar.broken }

def readQuotedScalar (scan : Scan) (double : Bool) : Except Flaw Scan :=
  let style := if double then .doubleQuoted else .singleQuoted
  scan.readNode fun cursor =>
    (readQuoted double cursor).map fun (text, after) =>
      (.scalar style text, after)

def mayStartPlain (scan : Scan) (c : Char) : Bool :=
  let open_ := !isGap (scan.cursor.peek 1)
  if c = '-' then !(scan.cursor.peek 1).any isBlank
  else if c = '?' ∨ c = ':' then !scan.inFlow && open_
  else !isBlank c && !",[]\x7b\x7d#&*!|>'\"%@\x60".toList.contains c

def readToken (scan : Scan) (c : Char) : Except Flaw Scan :=
  let cursor := scan.cursor
  let alone := isGap (cursor.peek 1)
  if cursor.column = 0 ∧ c = '%' then scan.readDirectiveLine
  else if cursor.atDocumentStart then scan.readDocumentMark .documentStart
  else if cursor.atDocumentEnd then scan.readDocumentMark .documentEnd
  else if c = '[' then scan.openFlow .flowSequenceStart
  else if c = '\x7b' then scan.openFlow .flowMappingStart
  else if c = ']' then scan.closeFlow .flowSequenceEnd
  else if c = '\x7d' then scan.closeFlow .flowMappingEnd
  else if c = ',' then do
    let scan ← scan.forgetKey
    pure { (scan.push .flowEntry).skip 1 with keyAllowed := true }
  else if c = '-' ∧ alone then
    scan.readMark .itemNotAllowed .blockSequenceStart .blockEntry true
  else if c = '?' ∧ (scan.inFlow ∨ alone) then
    scan.readMark .keyNotAllowed .blockMappingStart .key (!scan.inFlow)
  else if c = ':' ∧ (scan.inFlow ∨ alone) then scan.readValue
  else if c = '*' then scan.readNode (readName .alias .alias)
  else if c = '&' then scan.readNode (readName .anchor .anchor)
  else if c = '!' then
    scan.readNode fun cursor =>
      (readTag scan.inFlow cursor).map fun (mark, after) => (.tag mark, after)
  else if c = '|' ∧ !scan.inFlow then scan.readBlockScalar false
  else if c = '>' ∧ !scan.inFlow then scan.readBlockScalar true
  else if c = '\'' then scan.readQuotedScalar false
  else if c = '"' then scan.readQuotedScalar true
  else if scan.mayStartPlain c then scan.readPlainScalar
  else .error (cursor.flaw ⟨.nextToken, cursor.place⟩ .strayCharacter)

/-- Reads the end of the stream, which also ends a line. -/
def readEnd (scan : Scan) : Except Flaw Scan := do
  let end_ := scan.cursor.place.nextLineStart
  let cursor := { scan.cursor with line := end_.line, column := end_.column }
  let scan ← ({ scan with cursor }.closeBlocks (-1)).forgetKey
  pure { scan.push .streamEnd with ended := true }

/-! ## The whole stream -/

/-- The scan at the start of its next token. An end of a line outside brackets
lets a key start. -/
def skipToToken : Nat → Scan → Scan
  | 0, scan => scan
  | fuel + 1, scan =>
      let cursor := scan.cursor
      let cursor :=
        if cursor.column = 0 ∧ cursor.startsWith byteOrderMark then cursor.skip 1
        else cursor
      let tabs := scan.inFlow || !scan.keyAllowed
      let cursor :=
        (cursor.takeWhile fun c => c == ' ' || (tabs && c == '\t')).2
      let cursor :=
        if cursor.startsWith '#' then (cursor.takeWhile (!isBreak ·)).2 else cursor
      if cursor.atBreak then
        skipToToken fuel { scan with
          cursor := cursor.skipBreak
          keyAllowed := scan.keyAllowed || !scan.inFlow }
      else { scan with cursor }

/-- Reads the next token, and what is known of keys when it has been read. -/
def step (scan : Scan) : Except Flaw Scan := do
  let scan ← (skipToToken (scan.cursor.rest.length + 1) scan).refreshKeys
  let scan := scan.closeBlocks scan.cursor.column
  let scan ←
    match scan.cursor.peek 0 with
    | none => scan.readEnd
    | some c => scan.readToken c
  scan.refreshKeys

end Scan

/-- The tokens of a stream. If it has a flaw there are only those before it. -/
structure TokenRow where
  tokens : List PlacedToken
  flaw : Option Flaw

namespace TokenRow

/-- Reads on to the end of a stream, or to its flaw. -/
def readFrom : Nat → Scan → TokenRow
  | 0, scan => ⟨[], some (.plain .endOfStream scan.cursor.place)⟩
  | fuel + 1, scan =>
      if scan.ended then ⟨scan.tokens.toList, none⟩
      else
        match scan.step with
        | .ok next => readFrom fuel next
        | .error flaw => ⟨scan.tokens.toList.take scan.certain, some flaw⟩

/-- How many bytes come before the first character that may not stand in a
stream. -/
def offsetOfForeign (text : List Char) : Nat :=
  (Text.Utf8.encode (text.takeWhile isAllowed)).length

def ofText (text : List Char) : TokenRow :=
  if text.all isAllowed then
    let scan := Scan.ofText text
    readFrom (scan.cursor.rest.length + 2) scan
  else ⟨[], some (.character (offsetOfForeign text))⟩

end TokenRow

end StalestFirst.Yaml
