import StalestFirst.Box
import StalestFirst.Database.Address
import StalestFirst.Fault
import StalestFirst.Settings.Basic

namespace StalestFirst.Database

/-! ## Databases out of reach

Boxes may be kept in a database. What is said here holds where no database can be
reached. -/

inductive Trouble where
  | badAddress (fault : AddressFault)
  | unreachable (reason : String)
  | noConnection
  | closed
  deriving DecidableEq

namespace Trouble

def message : Trouble → String
  | .badAddress fault => "error with configuration: " ++ fault.message
  | .unreachable reason => "error communicating with database: " ++ reason
  | .noConnection => "pool timed out while waiting for an open connection"
  | .closed => "attempted to acquire a connection on a closed pool"

/-- The fault of the store. Only a bad address will not pass. -/
def fault (trouble : Trouble) : Fault :=
  match trouble with
  | .badAddress _ => .store trouble.message
  | _ => .storeUnavailable trouble.message

/-- The fault when the tables cannot be brought up to date. -/
def migrationFault (trouble : Trouble) : Fault :=
  .store ("migration failed: while executing migrations: " ++ trouble.message)

def noNetwork : Trouble := .unreachable "Network is unreachable (os error 101)"

end Trouble

inductive Errand where
  | insert (box : MessageBox)
  | recordView (id : String) (viewedAt : Moment)
  | react (id : String) (increments : Tallies)
  | get (id : String)
  | listing
  | migrate

/-- What becomes of an errand when every connection ends in trouble. To add no
reactions takes no connection. -/
def attempt (trouble : Trouble) : Errand → Except Fault Unit
  | .react _ increments =>
      if increments.isEmpty then .ok () else .error trouble.fault
  | .migrate => .error trouble.migrationFault
  | _ => .error trouble.fault

/-- The trouble with an address when there is no network. -/
def troubleAt (address : Address) : Trouble :=
  let host := address.host.toList.filter fun c => c != '[' && c != ']'
  if address.socket.isSome then
    .unreachable "No such file or directory (os error 2)"
  else if address.host = "localhost" || isIpv4 host || isIpv6 host then .noNetwork
  else
    .unreachable
      "failed to lookup address information: Temporary failure in name resolution"

/-- The longest time that a connection may take to be made, in seconds. -/
def longestWait : Nat := 9223372036854775807

/-- Whether connections can be kept at all: there must be room for one, and the
time for making one must be within bounds. -/
def canKeep (settings : StoreSettings) : Bool :=
  settings.maxConnections != 0 && settings.connectSeconds.toNat ≤ longestWait

/-- The trouble in connecting to the database that a text names, unless connections
cannot be kept at all. -/
def connect? (settings : StoreSettings) (text : String) : Option Trouble :=
  match Address.ofText text with
  | .error fault => some (.badAddress fault)
  | .ok address =>
      if !canKeep settings then none
      else if settings.connectSeconds = 0 then some .noConnection
      else some (troubleAt address)

end StalestFirst.Database
