import StalestFirst.Http.Form

namespace StalestFirst.Database

/-! ## URLs of databases -/

inductive UrlFault where
  | noScheme
  | emptyHost
  | badNumber
  | badHost
  | badDomain
  | badIpv6
  deriving DecidableEq

def UrlFault.message : UrlFault → String
  | .noScheme => "relative URL without a base"
  | .emptyHost => "empty host"
  | .badNumber => "invalid port number"
  | .badHost => "invalid domain character"
  | .badDomain => "invalid international domain name"
  | .badIpv6 => "invalid IPv6 address"

/-- The parts of a URL that matter here, as they are written. The number is that of
the service at the host. -/
structure Url where
  user : List Char
  password : List Char
  host : List Char
  number : Option Nat
  path : List Char
  query : List Char

/-! ## Addresses of hosts -/

/-- Whether a text is a number up to 255, without needless zeros. -/
def isOctet (text : List Char) : Bool :=
  !text.isEmpty && text.length ≤ 3 && text.all Char.isDigit &&
    (text.length == 1 || text.head? != some '0') &&
    Nat.ofDigitChars 10 text 0 ≤ 255

def isIpv4 (text : List Char) : Bool :=
  let parts := text.splitOn '.'
  parts.length == 4 && parts.all isOctet

def isHexDigit (c : Char) : Bool :=
  ('0' ≤ c && c ≤ '9') || ('a' ≤ c && c ≤ 'f') || ('A' ≤ c && c ≤ 'F')

/-- How many groups of four digits a row of parts stands for, if every part is a
group, or at the end an address of four numbers. -/
def groups? : List (List Char) → Option Nat
  | [] => some 0
  | [part] =>
      if isIpv4 part then some 2
      else if !part.isEmpty && part.length ≤ 4 && part.all isHexDigit then some 1
      else none
  | part :: rest =>
      if !part.isEmpty && part.length ≤ 4 && part.all isHexDigit then
        (groups? rest).map (· + 1)
      else none

/-- The text before and behind the first two colons in a row. -/
def splitAtGap? : List Char → Option (List Char × List Char)
  | ':' :: ':' :: rest => some ([], rest)
  | c :: rest => (splitAtGap? rest).map fun (before, after) => (c :: before, after)
  | [] => none

/-- How many groups a text without a gap stands for. -/
def groupsOf? (text : List Char) : Option Nat :=
  if text.isEmpty then some 0 else groups? (text.splitOn ':')

/-- Whether a text is an address of eight groups, some of which a gap may stand
for. -/
def isIpv6 (text : List Char) : Bool :=
  match splitAtGap? text with
  | none => groupsOf? text == some 8
  | some (before, after) =>
      !before.contains '.' &&
        match groupsOf? before, groupsOf? after with
        | some left, some right => left + right ≤ 7
        | _, _ => false

/-! ## Parts of a URL -/

/-- The scheme of a URL in small letters, and what follows its colon. -/
def splitScheme? (text : List Char) : Option (List Char × List Char) :=
  let scheme := text.takeWhile fun c => c.isAlphanum || "+-.".toList.contains c
  match text.drop scheme.length with
  | ':' :: rest =>
      if scheme.head?.any Char.isAlpha then some (scheme.map Char.toLower, rest)
      else none
  | _ => none

/-- Whether a scheme always has a host that is a domain. -/
def hasDomain (scheme : List Char) : Bool :=
  ["http", "https", "ws", "wss", "ftp"].contains (String.ofList scheme)

def splitAtLastSign? (text : List Char) : Option (List Char × List Char) :=
  match text.reverse.span (· != '@') with
  | (after, _ :: before) => some (before.reverse, after.reverse)
  | (_, []) => none

/-- The host at the start of a text. A colon in brackets belongs to it. -/
def hostAt : (bracketed : Bool) → List Char → List Char
  | _, [] => []
  | bracketed, c :: rest =>
      if c = ':' ∧ !bracketed then []
      else c :: hostAt (c = '[' ∨ (bracketed ∧ c ≠ ']')) rest

/-- Refuses a host that is no address in brackets and holds a character that no
host may hold. -/
def checkHost (domain : Bool) (host : List Char) : Except UrlFault Unit :=
  if host.head? = some '[' then
    if host.getLast? = some ']' ∧ isIpv6 ((host.drop 1).dropLast) then .ok ()
    else .error .badIpv6
  else if host.any fun c => (Char.ofNat 0 :: " #/:<>?@[\\]^|".toList).contains c then
    .error (if domain then .badDomain else .badHost)
  else .ok ()

def serviceNumber (text : List Char) : Except UrlFault (Option Nat) :=
  let digits := text.takeWhile Char.isDigit
  let rest := text.drop digits.length
  if 65535 < Nat.ofDigitChars 10 digits 0 then .error .badNumber
  else if !(rest.isEmpty || rest.head? == some '\\') then .error .badNumber
  else if digits.isEmpty then .ok none
  else .ok (some (Nat.ofDigitChars 10 digits 0))

namespace Url

def withRest (url : Url) (rest : List Char) : Url :=
  let path := rest.takeWhile fun c => c != '?' && c != '#'
  let query := match rest.drop path.length with
    | '?' :: query => query.takeWhile (· != '#')
    | _ => []
  { url with path, query }

/-- The URL of a text behind the marks that announce a host. -/
def ofAuthority (domain : Bool) (text : List Char) : Except UrlFault Url := do
  let authority := text.takeWhile fun c =>
    !(c == '/' || c == '?' || c == '#' || (domain && c == '\\'))
  let rest := text.drop authority.length
  let (named, place) := (splitAtLastSign? authority).getD ([], authority)
  let user := named.takeWhile (· != ':')
  let password := named.drop (user.length + 1)
  let host := hostAt false place
  let announced := !named.isEmpty && named != [':']
  let bare := authority.head? == some '@' && named.isEmpty && !rest.isEmpty
  if host.isEmpty ∧ (domain ∨ announced ∨ bare ∨ !place.isEmpty) then
    .error .emptyHost
  else
    checkHost domain host
    let number ← serviceNumber (place.drop (host.length + 1))
    pure (Url.withRest ⟨user, password, host, number, [], []⟩ rest)

/-- The URL of a text. Controls and spaces around it do not count, and neither do
tabs and ends of lines in it. -/
def ofText (text : String) : Except UrlFault Url :=
  let isEdge (c : Char) : Bool := c.toNat ≤ 32
  let trimmed :=
    ((text.toList.dropWhile isEdge).reverse.dropWhile isEdge).reverse
  match splitScheme? (trimmed.filter fun c =>
      c != '\t' && c != '\n' && c != '\r') with
  | none => .error .noScheme
  | some (scheme, rest) =>
      if hasDomain scheme then
        ofAuthority true (rest.dropWhile fun c => c == '/' || c == '\\')
      else
        match rest with
        | '/' :: '/' :: rest => ofAuthority false rest
        | _ => .ok (withRest ⟨[], [], [], none, [], []⟩ rest)

end Url

end StalestFirst.Database
