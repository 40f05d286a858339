namespace StalestFirst

/-! ## JSON values -/

/-- A JSON value as far as it matters here. Numbers with a fraction, an exponent
or a minus sign before zero are all `real`. A text that holds half a surrogate
pair or bytes that are no character is `garbled`: it may stand where nobody
reads it. The name of a field is `none` if it is such a text. -/
inductive Json where
  | null
  | bool (value : Bool)
  | integer (value : Int)
  | real
  | text (value : String)
  | garbled
  | array (items : List Json)
  | object (fields : List (Option String × Json))

namespace Json

instance : Inhabited Json := ⟨.null⟩

def record (fields : List (String × Json)) : Json :=
  .object (fields.map fun field => (some field.1, field.2))

/-- The text value of a name, or null. -/
def optionalText : Option String → Json
  | none => .null
  | some value => .text value

end Json

end StalestFirst
