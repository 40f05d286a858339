import StalestFirst.Database.Url
import StalestFirst.Text.Quoted
import StalestFirst.Text.Digits

namespace StalestFirst.Database

/-! ## Addresses of databases

A URL tells where a database is. Its query may tell it anew and may say more. -/

inductive NumberFault where
  | empty
  | badDigit
  | tooLarge
  deriving DecidableEq

def NumberFault.message : NumberFault → String
  | .empty => "cannot parse integer from empty string"
  | .badDigit => "invalid digit found in string"
  | .tooLarge => "number too large to fit in target type"

/-- The number below a limit that a text spells, possibly behind a plus sign. -/
def numberBelow (limit : Nat) (text : List Char) : Except NumberFault Nat :=
  let digits := match text with
    | '+' :: c :: rest => c :: rest
    | _ => text
  if text.isEmpty then .error .empty
  else if !digits.all Text.isDigit then .error .badDigit
  else
    let number := Text.valueOfDigits digits
    if number < limit then .ok number else .error .tooLarge

inductive AddressFault where
  | url (fault : UrlFault)
  | notText (flaw : Text.Utf8.Flaw)
  | number (fault : NumberFault)
  | ipAddress
  | encryption (mode : String)
  deriving DecidableEq

def AddressFault.message : AddressFault → String
  | .url fault => fault.message
  | .notText ⟨index, some length⟩ =>
      "invalid utf-8 sequence of " ++ Text.number length ++
        " bytes from index " ++ Text.number index
  | .notText ⟨index, none⟩ =>
      "incomplete utf-8 byte sequence from index " ++ Text.number index
  | .number fault => fault.message
  | .ipAddress => "invalid IP address syntax"
  | .encryption mode =>
      "error with configuration: unknown value " ++ Text.Quoted.quote mode ++
        " for \x60ssl_mode\x60"

/-- Where a database is: at a host, as the service with a number, or at a socket in a
directory. -/
structure Address where
  host : String
  number : Nat
  socket : Option String
  deriving DecidableEq

namespace Address

def standard : Address := ⟨"localhost", 5432, none⟩

/-- The text that bytes spelled with percent signs mean. -/
def decoded (text : List Char) : Except AddressFault (List Char) :=
  let bytes := Http.Form.decodePercent (Text.Utf8.encode text)
  match Text.Utf8.flaw? bytes with
  | some flaw => .error (.notText flaw)
  | none => .ok (Text.Utf8.decodeLossy bytes)

def encryptionModes : List String :=
  ["disable", "allow", "prefer", "require", "verify-ca", "verify-full"]

/-- The address at a host, or at a socket if the host is written as a
directory. -/
def withHost (address : Address) (host : String) : Address :=
  if host.toList.head? = some '/' then { address with socket := some host }
  else { address with host }

/-- The address as a parameter of the query changes it. Unknown parameters change
nothing. -/
def withParameter (address : Address) (parameter : String × String) :
    Except AddressFault Address :=
  let (name, value) := parameter
  let text := value.toList
  if name = "sslmode" ∨ name = "ssl-mode" then
    if encryptionModes.contains (String.ofList (text.map Char.toLower)) then
      .ok address
    else .error (.encryption value)
  else if name = "statement-cache-capacity" then
    match numberBelow 18446744073709551616 text with
    | .ok _ => .ok address
    | .error fault => .error (.number fault)
  else if name = "host" then .ok (address.withHost value)
  else if name = "hostaddr" then
    if isIpv4 text || isIpv6 text then .ok { address with host := value }
    else .error .ipAddress
  else if name = "port" then
    match numberBelow 65536 text with
    | .ok number => .ok { address with number }
    | .error fault => .error (.number fault)
  else .ok address

def ofUrl (url : Url) : Except AddressFault Address := do
  let host ← (decoded url.host).map String.ofList
  let place :=
    if url.host.isEmpty then standard
    else if host.toList.head? = some '/' then standard.withHost host
    else { standard with host := String.ofList url.host }
  let address := { place with number := url.number.getD place.number }
  let _ ← decoded url.user
  let _ ← decoded url.password
  let _ ← decoded (url.path.dropWhile (· == '/'))
  (Http.Form.pairs (Text.Utf8.encode url.query)).foldlM withParameter address

def ofText (text : String) : Except AddressFault Address :=
  match Url.ofText text with
  | .ok url => ofUrl url
  | .error fault => .error (.url fault)

end Address

end StalestFirst.Database
