import StalestFirst.Json.Printer
import StalestFirst.Json.Reader
import StalestFirst.Json.Record

namespace StalestFirst

/-! ## Types that go over the wire -/

/-- A type whose values are written as JSON. -/
class Wire (α : Type) where
  toJson : α → Json
  ofJson? : Json → Option α

namespace Wire

variable {α : Type} [Wire α]

def print (value : α) : String := (toJson value).print

def ofText? (text : String) : Option α := (Json.ofText? text).bind ofJson?

def ofBytes? (bytes : List UInt8) : Option α :=
  (Json.ofBytes? bytes).bind ofJson?

end Wire

/-- A field, unless its value is the one that need not be written. -/
def Json.fieldUnless (omitted : Bool) (name : String) (value : Json) :
    List (String × Json) :=
  if omitted then [] else [(name, value)]

end StalestFirst
