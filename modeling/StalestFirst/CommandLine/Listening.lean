import StalestFirst.Database.Address

namespace StalestFirst.CommandLine

/-! ## Addresses to listen on -/

open StalestFirst.Database (isIpv4 isIpv6 numberBelow)

structure ListenAddress where
  host : List Char
  number : Nat
  deriving DecidableEq

inductive ListenFault where
  | noAddress
  | badNumber
  | unknownHost
  | foreignHost
  | taken
  deriving DecidableEq

def ListenFault.message : ListenFault → String
  | .noAddress => "invalid socket address"
  | .badNumber => "invalid port value"
  | .unknownHost =>
      "failed to lookup address information: Name or service not known"
  | .foreignHost => "Cannot assign requested address (os error 99)"
  | .taken => "Address already in use (os error 98)"

namespace ListenAddress

/-- Whether every address of the machine is meant. -/
def isAny (address : ListenAddress) : Bool :=
  address.host == "0.0.0.0".toList || address.host == "::".toList

/-- Whether the address is one of the machine's own. -/
def isLocal (address : ListenAddress) : Bool :=
  address.isAny || "127.".toList.isPrefixOf address.host ||
    address.host == "::1".toList

def withoutBrackets (host : List Char) : List Char :=
  if host.head? = some '[' ∧ host.getLast? = some ']' then
    (host.drop 1).dropLast
  else host

/-- The address that a text gives: a host, a colon and a number. -/
def ofText (text : String) : Except ListenFault ListenAddress :=
  match text.toList.reverse.span (· != ':') with
  | (_, []) => .error .noAddress
  | (digits, _ :: host) =>
      match numberBelow 65536 digits.reverse with
      | .error _ => .error .badNumber
      | .ok number =>
          let written := host.reverse
          let bare := withoutBrackets written
          if written = "localhost".toList then .ok ⟨"127.0.0.1".toList, number⟩
          else if isIpv4 written || (isIpv6 bare && bare != written) then
            .ok ⟨bare, number⟩
          else .error .unknownHost

/-- Whether nobody can listen on both of two addresses. -/
def clashes (left right : ListenAddress) : Bool :=
  left.number == right.number && left.number != 0 &&
    (left.host == right.host || left.isAny || right.isAny)

/-- Refuses an address on which nobody can listen beside another one. -/
def check (beside : List ListenAddress) (text : String) :
    Except ListenFault ListenAddress :=
  match ofText text with
  | .error fault => .error fault
  | .ok address =>
      if !address.isLocal then .error .foreignHost
      else if beside.any address.clashes then .error .taken
      else .ok address

end ListenAddress

end StalestFirst.CommandLine
