import StalestFirst.Http.Form
import StalestFirst.Service.Failure

namespace StalestFirst

/-! ## What a request asks for

The query of a request names an action and a version. -/

def apiVersion : String := "2021-12-23"

/-- The action that stands in answers to requests that name none. -/
def unknownAction : String := "<UNKNOWN>"

structure ActionQuery where
  action : Option String
  version : Option String
  deriving DecidableEq

namespace ActionQuery

def empty : ActionQuery := ⟨none, none⟩

/-- The query of a row of pairs, unless it names the action or the version
twice. -/
def ofPairs? (pairs : List (String × String)) : Option ActionQuery := do
  let fields := pairs.map fun pair => (some pair.1, pair.2)
  let action ← Slot.ofFields? fields "Action"
  let version ← Slot.ofFields? fields "Version"
  pure {
    action := ← action.orElse none (some ∘ some)
    version := ← version.orElse none (some ∘ some) }

def ofTarget? (target : Http.Target) : Option ActionQuery :=
  ofPairs? (Http.Form.pairs (target.query.getD []))

def metadata (query : ActionQuery) : Metadata where
  action :=
    match query.action.getD "" with
    | "" => unknownAction
    | name => name
  version := query.version.getD ""

/-- The failure of a request for an action that is not served. -/
def unsupported (query : ActionQuery) : RequestFault :=
  .unsupportedAction query.metadata.action query.metadata.version

end ActionQuery

end StalestFirst
