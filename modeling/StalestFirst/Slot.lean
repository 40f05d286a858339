namespace StalestFirst

/-! ## Slots

A document says something about each field of a record: it gives a value, does not
name the field, or is a row of values that ends before the field. -/

/-- What a document says about a field. -/
inductive Slot (β : Type) where
  | given (value : β)
  | unnamed
  | cutShort

namespace Slot

variable {α β : Type}

/-- The values that a list of named values has for a name. A name that cannot be
read is `none`. -/
def valuesOf (name : String) (fields : List (Option String × β)) : List β :=
  (fields.filter fun field => field.1 == some name).map Prod.snd

/-- What named values say about a name, unless they name it twice. -/
def ofFields? (fields : List (Option String × β)) (name : String) :
    Option (Slot β) :=
  match valuesOf name fields with
  | [] => some .unnamed
  | [value] => some (.given value)
  | _ => none

/-- What a row of values says about `count` fields, unless it is longer. -/
def ofRow? (count : Nat) (row : List β) : Option (List (Slot β)) :=
  if row.length ≤ count then
    some (row.map .given ++ List.replicate (count - row.length) .cutShort)
  else none

def required (read : β → Option α) : Slot β → Option α
  | .given value => read value
  | _ => none

/-- The value of a field that is `default` unless it is given. -/
def orElse (default : α) (read : β → Option α) : Slot β → Option α
  | .given value => read value
  | _ => some default

/-- The value of a field that is `default` unless it is given, and that no row may
end before. -/
def orUnnamed (default : α) (read : β → Option α) : Slot β → Option α
  | .given value => read value
  | .unnamed => some default
  | .cutShort => none

end Slot

end StalestFirst
