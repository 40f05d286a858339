import StalestFirst.Json.Basic
import StalestFirst.Text.Digits

namespace StalestFirst.Json

/-! ## Written form

Values are written without blanks. -/

/-- A character inside quotation marks. Control characters are escaped, and so
are the quotation mark and the backslash. -/
def escaped (c : Char) : List Char :=
  if c = '"' then ['\\', '"']
  else if c = '\\' then ['\\', '\\']
  else if c = '\n' then ['\\', 'n']
  else if c = '\r' then ['\\', 'r']
  else if c = '\t' then ['\\', 't']
  else if c = Char.ofNat 8 then ['\\', 'b']
  else if c = Char.ofNat 12 then ['\\', 'f']
  else if c.toNat < 0x20 then
    ['\\', 'u', '0', '0', (c.toNat / 16).digitChar, (c.toNat % 16).digitChar]
  else [c]

def quoted (text : String) : List Char :=
  '"' :: (text.toList.flatMap escaped ++ ['"'])

/-- The name of a field; one that cannot be read is written as the empty text. -/
def writtenName (name : Option String) : List Char :=
  quoted (name.getD "")

mutual

def written : Json → List Char
  | .null => "null".toList
  | .bool true => "true".toList
  | .bool false => "false".toList
  | .integer value => Text.signedDecimal value
  | .real => "-0".toList
  | .text value => quoted value
  | .garbled => quoted ""
  | .array items => '[' :: (writtenItems items ++ [']'])
  | .object fields => '\x7b' :: (writtenFields fields ++ ['\x7d'])

def writtenItems : List Json → List Char
  | [] => []
  | [item] => written item
  | item :: next :: rest =>
      written item ++ ',' :: writtenItems (next :: rest)

def writtenFields : List (Option String × Json) → List Char
  | [] => []
  | [(name, value)] => writtenName name ++ ':' :: written value
  | (name, value) :: next :: rest =>
      writtenName name ++ ':' :: (written value ++ ',' ::
        writtenFields (next :: rest))

end

def print (value : Json) : String := String.ofList value.written

end StalestFirst.Json
