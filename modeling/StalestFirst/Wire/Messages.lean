import StalestFirst.Box
import StalestFirst.Moment.Printer
import StalestFirst.Moment.Reader
import StalestFirst.Wire.Basic

namespace StalestFirst

open Json

/-! ## Values -/

instance : Wire Json where
  toJson := id
  ofJson? := some

instance : Wire String where
  toJson := .text
  ofJson? := text?

instance : Wire UInt64 where
  toJson value := .integer value.toNat
  ofJson? := word?

instance : Wire Int64 where
  toJson value := .integer value.toInt
  ofJson? := signedWord?

instance : Wire Moment where
  toJson moment := .text moment.print
  ofJson? json := json.text?.bind fun text => Moment.read? text.toList

instance {α : Type} [Wire α] : Wire (NameMap α) where
  toJson := ofNameMap Wire.toJson
  ofJson? := nameMap? Wire.ofJson?

/-! ## Boxes and items -/

/-- Moments that are not known are left out. -/
private def momentField (name : String) : Option Moment → List (String × Json)
  | none => []
  | some moment => [(name, Wire.toJson moment)]

/-- The fields of a box are left out when they are empty. -/
instance : Wire MessageBox where
  toJson box := record (
    fieldUnless (box.id == "") "Id" (Wire.toJson box.id) ++
    momentField "CreatedAt" box.createdAt ++
    fieldUnless (box.body == "") "Body" (Wire.toJson box.body) ++
    fieldUnless box.reactions.isEmpty "EmojiFeedbacks" (Wire.toJson box.reactions) ++
    momentField "LastViewed" box.lastViewed)
  ofJson? json := do
    match ← slots? ["Id", "CreatedAt", "Body", "EmojiFeedbacks", "LastViewed"] json with
    | [id, createdAt, body, reactions, lastViewed] =>
        pure {
          id := ← id.orElse "" Wire.ofJson?
          createdAt := ← createdAt.orElse none (nullable? Wire.ofJson?)
          body := ← body.orElse "" Wire.ofJson?
          reactions := ← reactions.orElse NameMap.empty Wire.ofJson?
          lastViewed := ← lastViewed.orElse none (nullable? Wire.ofJson?) }
    | _ => none

instance : Wire Item where
  toJson item := record [("Id", Wire.toJson item.id), ("Score", Wire.toJson item.score)]
  ofJson? json := do
    match ← slots? ["Id", "Score"] json with
    | [id, score] =>
        pure {
          id := ← id.required Wire.ofJson?
          score := ← score.required Wire.ofJson? }
    | _ => none

/-! ## Requests and results -/

/-- The parameter of a request to make a box. -/
structure BoxDraft where
  body : String
  deriving DecidableEq

instance : Wire BoxDraft where
  toJson draft := record [("Body", Wire.toJson draft.body)]
  ofJson? json := do
    match ← slots? ["Body"] json with
    | [body] => pure { body := ← body.orElse "" Wire.ofJson? }
    | _ => none

/-- A box and counts of emojis: those to be given to it in a request, and those it
has in a result. -/
structure Reactions where
  id : String
  tallies : Tallies
  deriving DecidableEq

instance : Wire Reactions where
  toJson reactions := record (
    fieldUnless (reactions.id == "") "Id" (Wire.toJson reactions.id) ++
    fieldUnless reactions.tallies.isEmpty "EmojiFeedbacks"
      (Wire.toJson reactions.tallies))
  ofJson? json := do
    match ← slots? ["Id", "EmojiFeedbacks"] json with
    | [id, tallies] =>
        pure {
          id := ← id.orElse "" Wire.ofJson?
          tallies := ← tallies.orElse NameMap.empty Wire.ofJson? }
    | _ => none

/-- The result of an accepted item. -/
structure Accepted where
  deriving DecidableEq

instance : Wire Accepted where
  toJson _ := record []
  ofJson? json := do
    let _ ← slots? [] json
    pure {}

/-- The result of a draw from the queue. -/
structure Drawn where
  id : String
  deriving DecidableEq

instance : Wire Drawn where
  toJson drawn := record [("Id", Wire.toJson drawn.id)]
  ofJson? json := do
    match ← slots? ["Id"] json with
    | [id] => pure { id := ← id.required Wire.ofJson? }
    | _ => none

end StalestFirst
