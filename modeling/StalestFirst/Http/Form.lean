import StalestFirst.Http.Target

namespace StalestFirst.Http.Form

/-! ## Form-encoded queries

A query is a row of pairs of a name and a value. -/

def splitAt (mark : UInt8) : List UInt8 → List (List UInt8)
  | [] => [[]]
  | byte :: rest =>
      let parts := splitAt mark rest
      if byte = mark then [] :: parts
      else
        match parts with
        | [] => [[byte]]
        | part :: others => (byte :: part) :: others

def hexValue? (byte : UInt8) : Option UInt8 :=
  if ascii '0' ≤ byte && byte ≤ ascii '9' then some (byte - 48)
  else if ascii 'a' ≤ byte && byte ≤ ascii 'f' then some (byte - 87)
  else if ascii 'A' ≤ byte && byte ≤ ascii 'F' then some (byte - 55)
  else none

/-- Bytes with every percent sign before two hexadecimal digits as the byte that
they spell. Other percent signs stand for themselves. -/
def decodePercent : List UInt8 → List UInt8
  | first :: high :: low :: rest =>
      if first = ascii '%' then
        match hexValue? high, hexValue? low with
        | some highValue, some lowValue =>
            (16 * highValue + lowValue) :: decodePercent rest
        | _, _ => first :: decodePercent (high :: low :: rest)
      else first :: decodePercent (high :: low :: rest)
  | bytes => bytes

/-- The bytes that encoded bytes mean. A plus sign means a space. -/
def decodeBytes (bytes : List UInt8) : List UInt8 :=
  decodePercent (bytes.map fun byte =>
    if byte = ascii '+' then ascii ' ' else byte)

def decodeText (bytes : List UInt8) : String :=
  String.ofList (Text.Utf8.decodeLossy (decodeBytes bytes))

/-- The name and the value of a part. Without an equals sign the value is empty. -/
def pair (part : List UInt8) : String × String :=
  let name := part.takeWhile fun byte => byte != ascii '='
  (decodeText name, decodeText (part.drop (name.length + 1)))

def pairs (query : List UInt8) : List (String × String) :=
  ((splitAt (ascii '&') query).filter fun part => !part.isEmpty).map pair

end StalestFirst.Http.Form
