import StalestFirst.Json.Basic
import StalestFirst.NameMap
import StalestFirst.Slot

namespace StalestFirst.Json

/-! ## Reading records

A record with named fields is written as an object, or as the array of its fields
in their order. Fields of an object that are not known are skipped, and the last
fields of an array may be missing. -/

/-- What a value says about each of the named fields, in their order. -/
def slots? (names : List String) : Json → Option (List (Slot Json))
  | .array items => Slot.ofRow? names.length items
  | .object fields =>
      if fields.all fun field => field.1.isSome then
        names.mapM (Slot.ofFields? fields)
      else none
  | _ => none

/-! ## Reading values -/

def nullable? {α : Type} (read : Json → Option α) : Json → Option (Option α)
  | .null => some none
  | value => (read value).map some

def text? : Json → Option String
  | .text value => some value
  | _ => none

def integer? : Json → Option Int
  | .integer value => some value
  | _ => none

def natBelow? (limit : Nat) (json : Json) : Option Nat :=
  json.integer?.bind fun value =>
    if 0 ≤ value ∧ value < limit then some value.toNat else none

def word? (json : Json) : Option UInt64 :=
  (json.natBelow? 18446744073709551616).map UInt64.ofNat

def signedWord? (json : Json) : Option Int64 :=
  json.integer?.bind fun value =>
    if -9223372036854775808 ≤ value ∧ value ≤ 9223372036854775807 then
      some (Int64.ofInt value)
    else none

/-- An entry of a map, if its name and its value can be read. -/
def namedValue? {α : Type} (read : Json → Option α)
    (field : Option String × Json) : Option (String × α) :=
  field.1.bind fun name => (read field.2).map fun value => (name, value)

/-- A map from names to values. Of a name that comes twice, the last value
counts. -/
def nameMap? {α : Type} (read : Json → Option α) :
    Json → Option (NameMap α)
  | .object fields => (fields.mapM (namedValue? read)).map NameMap.ofList
  | _ => none

def ofNameMap {α : Type} (write : α → Json) (map : NameMap α) : Json :=
  record (map.entries.map fun entry => (entry.1, write entry.2))

end StalestFirst.Json
