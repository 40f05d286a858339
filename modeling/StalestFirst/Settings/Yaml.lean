import StalestFirst.Fault
import StalestFirst.Settings.Complaint
import StalestFirst.Settings.Document
import StalestFirst.Text.Blank
import StalestFirst.Yaml.Document

namespace StalestFirst.Settings

open StalestFirst.Yaml

/-! ## Settings in YAML -/

/-- The name of an entry of a mapping, which must be a scalar. -/
def nameOf? (document : Document) (key : Node) : Option String :=
  match document.resolve key with
  | .scalar _ _ _ text => some text
  | _ => none

/-- What a part of a document says about named fields. An empty plain scalar names
none. -/
def nodeSlots? (document : Document) (names : List String) (node : Node) :
    Option (List (Slot Node)) :=
  match document.resolve node with
  | .mapping _ entries => do
      let fields ← entries.mapM fun entry =>
        (nameOf? document entry.1).map fun name => (some name, entry.2)
      names.mapM (Slot.ofFields? fields)
  | .scalar _ _ .plain "" => names.mapM (Slot.ofFields? [])
  | _ => none

def nodeNumber? (document : Document) (limit : Nat) (node : Node) :
    Option Nat := do
  let number ← spelledNumber? (document.resolve node)
  if number < limit then some number else none

def yamlForm (document : Document) : Form Node :=
  ⟨nodeSlots? document, nodeNumber? document⟩

/-- The settings of the only document of a stream. -/
def ofDocument? (document : Document) : Option Settings :=
  if document.ending = .alone then
    (yamlForm document).settings? document.root
  else none

/-- The settings of a text. A blank text gives the standard ones. -/
def ofYaml (text : String) : Except Fault Settings :=
  if text.toList.all Text.isBlank then .ok .standard
  else
    let document := Document.ofText text
    match ofDocument? document with
    | some settings => .ok settings
    | none => .error (.yaml (reproach document))

end StalestFirst.Settings
