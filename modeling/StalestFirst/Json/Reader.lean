import StalestFirst.Json.Token
import StalestFirst.Text.Utf8

namespace StalestFirst.Json

/-! ## From tokens to a value

The reader keeps the arrays and objects that have begun and not ended, the
innermost first, so that every token is read once. -/

/-- An array or object that has begun, with what it holds so far, the last first.
An object waits for the value of its last name. -/
inductive Enclosing where
  | array (items : List Json)
  | object (fields : List (Option String × Json)) (name : Option String)

/-- What may come next. -/
inductive Awaiting where
  | value
  | firstItem
  | firstName
  | name (fields : List (Option String × Json))
  | colon (fields : List (Option String × Json)) (name : Option String)
  | follow (value : Json)

structure Progress where
  awaiting : Awaiting
  enclosing : List Enclosing

/-- The name of a field, if the token can be one. -/
def Token.name? : Token → Option (Option String)
  | .scalar (.text name) => some (some name)
  | .scalar .garbled => some none
  | _ => none

def startValue (enclosing : List Enclosing) : Token → Option Progress
  | .scalar value => some ⟨.follow value, enclosing⟩
  | .openArray => some ⟨.firstItem, enclosing⟩
  | .openObject => some ⟨.firstName, enclosing⟩
  | _ => none

def Progress.next (progress : Progress) (token : Token) : Option Progress :=
  match progress.awaiting with
  | .value => startValue progress.enclosing token
  | .firstItem =>
      match token with
      | .closeArray => some ⟨.follow (.array []), progress.enclosing⟩
      | token => startValue (.array [] :: progress.enclosing) token
  | .firstName =>
      match token with
      | .closeObject => some ⟨.follow (.object []), progress.enclosing⟩
      | token =>
          token.name?.map fun name => ⟨.colon [] name, progress.enclosing⟩
  | .name fields =>
      token.name?.map fun name => ⟨.colon fields name, progress.enclosing⟩
  | .colon fields name =>
      match token with
      | .colon => some ⟨.value, .object fields name :: progress.enclosing⟩
      | _ => none
  | .follow value =>
      match progress.enclosing, token with
      | .array items :: outer, .comma =>
          some ⟨.value, .array (value :: items) :: outer⟩
      | .array items :: outer, .closeArray =>
          some ⟨.follow (.array (value :: items).reverse), outer⟩
      | .object fields name :: outer, .comma =>
          some ⟨.name ((name, value) :: fields), outer⟩
      | .object fields name :: outer, .closeObject =>
          some ⟨.follow (.object ((name, value) :: fields).reverse), outer⟩
      | _, _ => none

def Progress.run (progress : Progress) : List Token → Option Progress
  | [] => some progress
  | token :: rest =>
      match progress.next token with
      | none => none
      | some next => next.run rest

def ofTokens? (tokens : List Token) : Option Json :=
  match Progress.run ⟨.value, []⟩ tokens with
  | some ⟨.follow value, []⟩ => some value
  | _ => none

/-- The value of a text in which some places may be no character. -/
def ofPlaces? (text : List (Option Char)) : Option Json :=
  (tokens? text).bind ofTokens?

def ofText? (text : String) : Option Json :=
  ofPlaces? (text.toList.map some)

def ofBytes? (bytes : List UInt8) : Option Json :=
  ofPlaces? (Text.Utf8.decode bytes)

end StalestFirst.Json
