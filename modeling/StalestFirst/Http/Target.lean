import StalestFirst.Text.Utf8

namespace StalestFirst.Http

/-! ## Targets of requests

A target is a path with a query, with or without a scheme and an authority before
it; the authority may also stand alone. Texts are judged byte by byte. -/

structure Target where
  path : List UInt8
  query : Option (List UInt8)
  deriving DecidableEq

def ascii (c : Char) : UInt8 := UInt8.ofNat c.toNat

def asciiBytes (text : String) : List UInt8 := text.toList.map ascii

def alphanumericOr (marks : String) (byte : UInt8) : Bool :=
  (ascii '0' ≤ byte && byte ≤ ascii '9') ||
    (ascii 'A' ≤ byte && byte ≤ ascii 'Z') ||
    (ascii 'a' ≤ byte && byte ≤ ascii 'z') ||
    (asciiBytes marks).contains byte

def loweredByte (byte : UInt8) : UInt8 :=
  if ascii 'A' ≤ byte && byte ≤ ascii 'Z' then byte + 32 else byte

/-! ## Schemes -/

/-- The text after a scheme and its `://`, if the text starts with one. -/
def afterScheme? (text : List UInt8) : Option (List UInt8) :=
  let scheme := text.takeWhile (alphanumericOr "+-.")
  let rest := text.drop scheme.length
  if rest.take 3 == asciiBytes "://" then some (rest.drop 3) else none

/-- Whether a scheme is too long. The two schemes of HTTP never are. -/
def schemeTooLong (text : List UInt8) : Bool :=
  64 < (text.takeWhile (alphanumericOr "+-.")).length

/-! ## Authorities -/

/-- What has been seen of an authority: how many colons might still part a number
from a host, whether a bracket has opened and closed, whether there is a percent
sign in what might be the host, and whether the last byte is an at sign. -/
structure AuthorityScan where
  colons : Nat
  opened : Bool
  closed : Bool
  percent : Bool
  endsAtSign : Bool

def AuthorityScan.next (scan : AuthorityScan) (byte : UInt8) :
    Option AuthorityScan :=
  let scan := { scan with endsAtSign := false }
  if byte = ascii ':' then
    if 8 ≤ scan.colons then none
    else some { scan with colons := scan.colons + 1 }
  else if byte = ascii '[' then
    if scan.percent || scan.opened then none
    else some { scan with opened := true }
  else if byte = ascii ']' then
    if !scan.opened || scan.closed then none
    else some { scan with colons := 0, closed := true, percent := false }
  else if byte = ascii '@' then
    some { scan with colons := 0, percent := false, endsAtSign := true }
  else if byte = ascii '%' then some { scan with percent := true }
  else if alphanumericOr "-._~!$&'()*+,;=" byte then some scan
  else none

def endsAuthority (byte : UInt8) : Bool :=
  byte == ascii '/' || byte == ascii '?' || byte == ascii '#'

/-- What follows the authority that a text starts with. An authority may be
empty. -/
def afterAuthority? (text : List UInt8) : Option (List UInt8) :=
  let authority := text.takeWhile fun byte => !endsAuthority byte
  match authority.foldlM AuthorityScan.next ⟨0, false, false, false, false⟩ with
  | none => none
  | some scan =>
      if scan.opened != scan.closed || 1 < scan.colons || scan.endsAtSign ||
          scan.percent then none
      else some (text.drop authority.length)

/-! ## Paths and queries -/

def mayStandInPath (byte : UInt8) : Bool :=
  byte == 0x21 || (0x24 ≤ byte && byte ≤ 0x3B) || byte == 0x3D ||
    (0x40 ≤ byte && byte ≤ 0x5F) || (0x61 ≤ byte && byte ≤ 0x7A) ||
    byte == 0x7C || 0x7E ≤ byte || byte == 0x22 || byte == 0x7B || byte == 0x7D

def mayStandInQuery (byte : UInt8) : Bool :=
  byte == 0x21 || (0x24 ≤ byte && byte ≤ 0x3B) || byte == 0x3D || 0x3F ≤ byte

/-- The path and the query of a text. What follows a number sign is dropped. -/
def pathAndQuery? (text : List UInt8) : Option Target :=
  let path := text.takeWhile fun byte => byte != ascii '?' && byte != ascii '#'
  if !path.all mayStandInPath then none
  else
    match text.drop path.length with
    | mark :: rest =>
        if mark = ascii '?' then
          let query := rest.takeWhile fun byte => byte != ascii '#'
          if query.all mayStandInQuery then some ⟨path, some query⟩ else none
        else some ⟨path, none⟩
    | [] => some ⟨path, none⟩

/-- The target with a slash for an empty path. -/
def Target.orRoot (target : Target) : Target :=
  if target.path.isEmpty then { target with path := [ascii '/'] } else target

namespace Target

def ofBytes? (bytes : List UInt8) : Option Target :=
  if bytes.isEmpty || 65534 < bytes.length then none
  else if bytes == [ascii '*'] then some ⟨bytes, none⟩
  else if bytes.head? == some (ascii '/') then pathAndQuery? bytes
  else
    match afterScheme? bytes with
    | none =>
        match afterAuthority? bytes with
        | some [] => some ⟨[], none⟩
        | _ => none
    | some rest =>
        if schemeTooLong bytes then none
        else
          match afterAuthority? rest with
          | none => none
          | some after =>
              if after.length = rest.length then none
              else (pathAndQuery? after).map Target.orRoot

def ofText? (text : String) : Option Target :=
  ofBytes? (Text.Utf8.encode text.toList)

end Target

end StalestFirst.Http
