import StalestFirst.Text.Digits

namespace StalestFirst.Yaml

/-! ## Places -/

/-- A place in a stream: a line and a column, both counted from zero. -/
structure Place where
  line : Nat
  column : Nat
  deriving DecidableEq

namespace Place

def origin : Place := ⟨0, 0⟩

def next (place : Place) : Place := { place with column := place.column + 1 }

/-- The place where a line starts if it does not start here. -/
def nextLineStart (place : Place) : Place :=
  if place.column = 0 then place else ⟨place.line + 1, 0⟩

/-- Says where a place is. The very start of a stream needs no telling. -/
def remark (place : Place) : String :=
  if place = origin then ""
  else
    " at line " ++ Text.number (place.line + 1) ++ " column " ++
      Text.number (place.column + 1)

end Place

/-! ## Flaws

A stream that holds no document has a flaw, which is found while some part of it
is read. -/

inductive Problem where
  | strayCharacter
  | missingColon
  | itemNotAllowed
  | keyNotAllowed
  | valueNotAllowed
  | noDirectiveName
  | badDirectiveName
  | unknownDirective
  | longVersion
  | noVersion
  | noVersionPoint
  | noName
  | noBlank
  | noGap
  | noLineEnd
  | noExclamationMark
  | noClosingBracket
  | noTagText
  | noByte
  | badFirstByte
  | badLaterByte
  | zeroIndent
  | tabForSpace
  | tabBeforeMargin
  | documentMark
  | endOfStream
  | unknownEscape
  | noHexDigit
  | badCodePoint
  | strayColon
  | secondVersion
  | foreignVersion
  | secondHandle
  | noDocumentStart
  | unknownHandle
  | unknownAnchor
  | noContent
  | noItem
  | noKey
  | openSequence
  | openMapping
  deriving DecidableEq

def Problem.message : Problem → String
  | .strayCharacter => "found character that cannot start any token"
  | .missingColon => "could not find expected ':'"
  | .itemNotAllowed =>
      "block sequence entries are not allowed in this context"
  | .keyNotAllowed => "mapping keys are not allowed in this context"
  | .valueNotAllowed => "mapping values are not allowed in this context"
  | .noDirectiveName => "could not find expected directive name"
  | .badDirectiveName => "found unexpected non-alphabetical character"
  | .unknownDirective => "found unknown directive name"
  | .longVersion => "found extremely long version number"
  | .noVersion => "did not find expected version number"
  | .noVersionPoint => "did not find expected digit or '.' character"
  | .noName => "did not find expected alphabetic or numeric character"
  | .noBlank => "did not find expected whitespace"
  | .noGap => "did not find expected whitespace or line break"
  | .noLineEnd => "did not find expected comment or line break"
  | .noExclamationMark => "did not find expected '!'"
  | .noClosingBracket => "did not find the expected '>'"
  | .noTagText => "did not find expected tag URI"
  | .noByte => "did not find URI escaped octet"
  | .badFirstByte => "found an incorrect leading UTF-8 octet"
  | .badLaterByte => "found an incorrect trailing UTF-8 octet"
  | .zeroIndent => "found an indentation indicator equal to 0"
  | .tabForSpace =>
      "found a tab character where an indentation space is expected"
  | .tabBeforeMargin => "found a tab character that violates indentation"
  | .documentMark => "found unexpected document indicator"
  | .endOfStream => "found unexpected end of stream"
  | .unknownEscape => "found unknown escape character"
  | .noHexDigit => "did not find expected hexdecimal number"
  | .badCodePoint => "found invalid Unicode character escape code"
  | .strayColon => "found unexpected ':'"
  | .secondVersion => "found duplicate %YAML directive"
  | .foreignVersion => "found incompatible YAML document"
  | .secondHandle => "found duplicate %TAG directive"
  | .noDocumentStart => "did not find expected <document start>"
  | .unknownHandle => "found undefined tag handle"
  | .unknownAnchor => "unknown anchor"
  | .noContent => "did not find expected node content"
  | .noItem => "did not find expected '-' indicator"
  | .noKey => "did not find expected key"
  | .openSequence => "did not find expected ',' or ']'"
  | .openMapping => "did not find expected ',' or '\x7d'"

/-- What was being read when a flaw was found. -/
inductive Activity where
  | nextToken
  | simpleKey
  | directive
  | versionDirective
  | directiveHandle
  | directiveHandleEnd
  | tagDirective
  | directiveTagText
  | anchor
  | alias
  | tag
  | tagText
  | blockScalar
  | quotedScalar
  | escape
  | plainScalar
  | node
  | blockNode
  | flowNode
  | blockSequence
  | blockMapping
  | flowSequence
  | flowMapping
  deriving DecidableEq

def Activity.message : Activity → String
  | .nextToken => "while scanning for the next token"
  | .simpleKey => "while scanning a simple key"
  | .directive => "while scanning a directive"
  | .versionDirective => "while scanning a %YAML directive"
  | .directiveHandle => "while scanning a tag directive"
  | .directiveHandleEnd => "while parsing a tag directive"
  | .tagDirective => "while scanning a %TAG directive"
  | .directiveTagText => "while parsing a %TAG directive"
  | .anchor => "while scanning an anchor"
  | .alias => "while scanning an alias"
  | .tag => "while scanning a tag"
  | .tagText => "while parsing a tag"
  | .blockScalar => "while scanning a block scalar"
  | .quotedScalar => "while scanning a quoted scalar"
  | .escape => "while parsing a quoted scalar"
  | .plainScalar => "while scanning a plain scalar"
  | .node => "while parsing a node"
  | .blockNode => "while parsing a block node"
  | .flowNode => "while parsing a flow node"
  | .blockSequence => "while parsing a block collection"
  | .blockMapping => "while parsing a block mapping"
  | .flowSequence => "while parsing a flow sequence"
  | .flowMapping => "while parsing a flow mapping"

/-- Something that is being read, and where it starts. -/
structure Undertaking where
  activity : Activity
  start : Place
  deriving DecidableEq

/-- A flaw: what is wrong, where, and what was being read. A character that may not
stand in a stream at all is counted in bytes. -/
inductive Flaw where
  | character (offset : Nat)
  | plain (problem : Problem) (place : Place)
  | during (undertaking : Undertaking) (problem : Problem) (place : Place)
  deriving DecidableEq

def Flaw.message : Flaw → String
  | .character offset =>
      "control characters are not allowed" ++
        (if offset = 0 then "" else " at position " ++ Text.number offset)
  | .plain problem place => problem.message ++ place.remark
  | .during ⟨activity, start⟩ problem place =>
      problem.message ++ place.remark ++ ", " ++ activity.message ++
        (if start = place then "" else start.remark)

end StalestFirst.Yaml
