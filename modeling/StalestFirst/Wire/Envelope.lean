import StalestFirst.Wire.Messages

namespace StalestFirst

open Json

/-! ## Envelopes

Every answer of a service is an envelope. It names the action and its version and
holds a result or an error. -/

/-- The action that an answer belongs to. -/
structure Metadata where
  action : String
  version : String
  deriving DecidableEq

namespace Metadata

def empty : Metadata := ⟨"", ""⟩

instance : Wire Metadata where
  toJson metadata := record [
    ("Action", Wire.toJson metadata.action),
    ("Version", Wire.toJson metadata.version)]
  ofJson? json := do
    match ← slots? ["Action", "Version"] json with
    | [action, version] =>
        pure {
          action := ← action.orElse "" Wire.ofJson?
          version := ← version.orElse "" Wire.ofJson? }
    | _ => none

end Metadata

/-- An error as the client of a service sees it. -/
structure ErrorBody where
  code : String
  message : String
  data : NameMap String
  deriving DecidableEq

instance : Wire ErrorBody where
  toJson error := record ([
    ("Code", Wire.toJson error.code),
    ("Message", Wire.toJson error.message)] ++
    fieldUnless error.data.isEmpty "Data" (Wire.toJson error.data))
  ofJson? json := do
    match ← slots? ["Code", "Message", "Data"] json with
    | [code, message, data] =>
        pure {
          code := ← code.required Wire.ofJson?
          message := ← message.orElse "" Wire.ofJson?
          data := ← data.orElse NameMap.empty Wire.ofJson? }
    | _ => none

/-- Metadata with a result, an error, both or neither. -/
structure Envelope (α : Type) where
  metadata : Metadata
  result : Option α
  error : Option ErrorBody
  deriving DecidableEq

namespace Envelope

variable {α : Type} [Wire α]

private def optionalField {β : Type} [Wire β] (name : String) :
    Option β → List (String × Json)
  | none => []
  | some value => [(name, Wire.toJson value)]

instance : Wire (Envelope α) where
  toJson envelope := record (
    ("ResponseMetadata", Wire.toJson envelope.metadata) ::
      (optionalField "Result" envelope.result ++
        optionalField "Error" envelope.error))
  ofJson? json := do
    match ← slots? ["ResponseMetadata", "Result", "Error"] json with
    | [metadata, result, error] =>
        pure {
          metadata := ← metadata.orElse .empty Wire.ofJson?
          result := ← result.orUnnamed none (nullable? Wire.ofJson?)
          error := ← error.orElse none (nullable? Wire.ofJson?) }
    | _ => none

end Envelope

end StalestFirst
