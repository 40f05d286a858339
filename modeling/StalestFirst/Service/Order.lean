import StalestFirst.Http.Message
import StalestFirst.Service.Query
import StalestFirst.Text.Blank

namespace StalestFirst

/-! ## Orders

A request is checked in a fixed order: its query, its action and version, its
content type, its body and the identifier in it. One that passes is an order. -/

/-- The media type of a content type: what stands before the first semicolon,
without blanks around it. -/
def mediaType (contentType : String) : List Char :=
  Text.trimmed (contentType.toList.takeWhile (· != ';'))

/-- The parameter of a request, which is the JSON in its body. -/
def parameter {α : Type} [Wire α] (request : Http.Request) :
    Except RequestFault α :=
  let contentType := request.contentType
  if Text.sameLetters (mediaType contentType) "application/json".toList then
    match Wire.ofBytes? request.body with
    | some value => .ok value
    | none => .error (.malformedParameter "Body")
  else .error (.unsupportedContentType contentType)

/-- A request that has been checked: the metadata of its answer, and the order or
what is wrong. -/
structure Checked (α : Type) where
  metadata : Metadata
  outcome : Except RequestFault α

/-- Checks a request, given how an action of the served version is read. -/
def check {α : Type}
    (read : String → Option (Except RequestFault α)) (request : Http.Request) :
    Checked α :=
  match ActionQuery.ofTarget? request.target with
  | none => ⟨ActionQuery.empty.metadata, .error (.malformedParameter "Query")⟩
  | some query =>
      let served :=
        if query.version.getD "" = apiVersion then read (query.action.getD "")
        else none
      ⟨query.metadata, served.getD (.error query.unsupported)⟩

inductive QueueOrder where
  | accept (item : Item)
  | draw
  deriving DecidableEq

namespace QueueOrder

/-- An item to be accepted, which must name a box. -/
def ofItem (item : Item) : Except RequestFault QueueOrder :=
  if item.id = "" then .error (.malformedParameter "Id") else .ok (.accept item)

def ofAction? (request : Http.Request) (action : String) :
    Option (Except RequestFault QueueOrder) :=
  if action = "Sync" then some ((parameter request).bind ofItem)
  else if action = "Dequeue" then some (.ok .draw)
  else none

def ofRequest (request : Http.Request) : Checked QueueOrder :=
  check (ofAction? request) request

end QueueOrder

inductive BoxOrder where
  | create (draft : BoxDraft)
  | react (reactions : Reactions)
  | view
  deriving DecidableEq

namespace BoxOrder

/-- Reactions to be added, which must name a box. -/
def ofReactions (reactions : Reactions) : Except RequestFault BoxOrder :=
  if reactions.id = "" then .error (.malformedParameter "Id")
  else .ok (.react reactions)

def ofAction? (request : Http.Request) (action : String) :
    Option (Except RequestFault BoxOrder) :=
  if action = "CreateBox" then some ((parameter request).map .create)
  else if action = "AddBoxEmoji" then some ((parameter request).bind ofReactions)
  else if action = "ViewBox" then some (.ok .view)
  else none

def ofRequest (request : Http.Request) : Checked BoxOrder :=
  check (ofAction? request) request

end BoxOrder

end StalestFirst
