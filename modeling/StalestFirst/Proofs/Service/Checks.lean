import Mathlib
import StalestFirst.Proofs.Service.Driving
import StalestFirst.Service.Desk

namespace StalestFirst

/-! ## What the services serve -/

/-- What a service can be asked to do. -/
inductive Operation where
  | sync
  | dequeue
  | createBox
  | addBoxEmoji
  | viewBox
  deriving DecidableEq

namespace Operation

/-- The action that a query names. -/
def name : Operation → String
  | .sync => "Sync"
  | .dequeue => "Dequeue"
  | .createBox => "CreateBox"
  | .addBoxEmoji => "AddBoxEmoji"
  | .viewBox => "ViewBox"

/-- What a service serves, in its one version. -/
def servedBy : Service → List Operation
  | .queue => [.sync, .dequeue]
  | .box => [.createBox, .addBoxEmoji, .viewBox]
  | .telemetry => []

/-- The body of a request is read. -/
def ReadsBody : Operation → Prop
  | .dequeue | .viewBox => False
  | _ => True

/-- The body holds what the operation asks for. -/
def Decodes (body : List UInt8) : Operation → Prop
  | .sync => (Wire.ofBytes? body : Option Item).isSome = true
  | .createBox => (Wire.ofBytes? body : Option BoxDraft).isSome = true
  | .addBoxEmoji => (Wire.ofBytes? body : Option Reactions).isSome = true
  | _ => True

/-- What the body holds names a box, if it has to. -/
def NamesBox (body : List UInt8) : Operation → Prop
  | .sync => ∀ item : Item, Wire.ofBytes? body = some item → item.id ≠ ""
  | .addBoxEmoji =>
      ∀ reactions : Reactions, Wire.ofBytes? body = some reactions → reactions.id ≠ ""
  | _ => True

end Operation

namespace Http.Request

/-- The values that the query of a request gives to a name. -/
def valuesOf (request : Http.Request) (name : String) : List String :=
  ((Form.pairs (request.target.query.getD [])).filter fun pair => pair.1 == name).map
    Prod.snd

/-- The first value of a name, or the empty text. -/
def valueOf (request : Http.Request) (name : String) : String :=
  (request.valuesOf name).headD ""

/-- The content type is that of JSON, in whichever letters and with whatever follows a
semicolon. -/
def IsJson (request : Http.Request) : Prop :=
  Text.sameLetters (mediaType request.contentType) "application/json".toList = true

/-- A service is asked for one of its operations in the version that it serves. -/
structure AsksFor (request : Http.Request) (service : Service) (operation : Operation) :
    Prop where
  served : operation ∈ Operation.servedBy service
  action : request.valueOf "Action" = operation.name
  version : request.valueOf "Version" = "2021-12-23"

/-- The metadata with what the query names. -/
def metadata (request : Http.Request) : Metadata where
  action :=
    if request.valueOf "Action" = "" then "<UNKNOWN>" else request.valueOf "Action"
  version := request.valueOf "Version"

end Http.Request

/-! ## The checks -/

/-- What is checked of a request. -/
inductive Check where
  | query
  | action
  | contentType
  | body
  | identifier
  deriving DecidableEq

namespace Check

/-- The place of a check in the order of all. -/
def place : Check → Nat
  | .query => 0
  | .action => 1
  | .contentType => 2
  | .body => 3
  | .identifier => 4

/-- What it means to pass a check. -/
def Passes (service : Service) (request : Http.Request) : Check → Prop
  | .query =>
      (request.valuesOf "Action").length ≤ 1 ∧ (request.valuesOf "Version").length ≤ 1
  | .action => ∃ operation, request.AsksFor service operation
  | .contentType =>
      ∀ operation, request.AsksFor service operation → operation.ReadsBody → request.IsJson
  | .body =>
      ∀ operation, request.AsksFor service operation → operation.Decodes request.body
  | .identifier =>
      ∀ operation, request.AsksFor service operation → operation.NamesBox request.body

/-- The first check that a request does not pass. -/
structure FirstFailed (check : Check) (service : Service) (request : Http.Request) :
    Prop where
  fails : ¬ check.Passes service request
  passes : ∀ earlier : Check, earlier.place < check.place → earlier.Passes service request

/-- The metadata of the answer to a request that fails a check. -/
def metadata (request : Http.Request) : Check → Metadata
  | .query => ⟨"<UNKNOWN>", ""⟩
  | _ => request.metadata

/-- What is wrong with a request that fails a check. -/
def fault (request : Http.Request) : Check → RequestFault
  | .query => .malformedParameter "Query"
  | .action => .unsupportedAction request.metadata.action request.metadata.version
  | .contentType => .unsupportedContentType request.contentType
  | .body => .malformedParameter "Body"
  | .identifier => .malformedParameter "Id"

/-- Unless a request passes all checks, there is a first one that it fails. -/
theorem passes_or_exists_firstFailed (service : Service) (request : Http.Request) :
    (∀ check : Check, check.Passes service request) ∨
      ∃ check : Check, check.FirstFailed service request := by
  by_cases all : ∀ check : Check, check.Passes service request
  · exact Or.inl all
  · right
    have failed : ∃ place, ∃ check : Check, check.place = place ∧
        ¬ check.Passes service request := by
      push Not at all
      obtain ⟨check, fails⟩ := all
      exact ⟨check.place, check, rfl, fails⟩
    classical
    obtain ⟨check, found, fails⟩ := Nat.find_spec failed
    refine ⟨check, fails, fun earlier before => ?_⟩
    by_contra earlierFails
    rw [found] at before
    exact Nat.find_min failed before ⟨earlier, rfl, earlierFails⟩

end Check

/-! ## Queries -/

/-- A name that comes at most once has its value or none. -/
theorem Slot.ofFields?_of_le_one {β : Type} {fields : List (Option String × β)}
    {name : String} (once : (valuesOf name fields).length ≤ 1) :
    ∃ slot, ofFields? fields name = some slot ∧
      slot.orElse none (some ∘ some) = some (valuesOf name fields).head? := by
  unfold ofFields?
  match shape : valuesOf name fields with
  | [] =>
      exact ⟨.unnamed, rfl, rfl⟩
  | [value] =>
      exact ⟨.given value, rfl, rfl⟩
  | first :: second :: rest =>
      rw [shape] at once
      simp at once

theorem Slot.ofFields?_of_one_lt {β : Type} {fields : List (Option String × β)}
    {name : String} (several : 1 < (valuesOf name fields).length) :
    ofFields? fields name = none := by
  unfold ofFields?
  match shape : valuesOf name fields with
  | [] =>
      rw [shape] at several
      cases several
  | [value] =>
      rw [shape] at several
      exact absurd several (Nat.lt_irrefl 1)
  | first :: second :: rest =>
      rfl

namespace ActionQuery

variable {request : Http.Request}

theorem valuesOf_pairs (name : String) :
    Slot.valuesOf name ((Http.Form.pairs (request.target.query.getD [])).map
      fun pair => (some pair.1, pair.2)) = request.valuesOf name := by
  unfold Slot.valuesOf Http.Request.valuesOf
  rw [List.filter_map, List.map_map]
  rfl

theorem ofTarget?_of_passes
    (passes : (request.valuesOf "Action").length ≤ 1 ∧
      (request.valuesOf "Version").length ≤ 1) :
    ofTarget? request.target =
      some ⟨(request.valuesOf "Action").head?, (request.valuesOf "Version").head?⟩ := by
  obtain ⟨actionOnce, versionOnce⟩ := passes
  rw [← valuesOf_pairs] at actionOnce versionOnce
  obtain ⟨action, givesAction, readAction⟩ := Slot.ofFields?_of_le_one actionOnce
  obtain ⟨version, givesVersion, readVersion⟩ := Slot.ofFields?_of_le_one versionOnce
  rw [valuesOf_pairs] at readAction readVersion
  simp [ofTarget?, ofPairs?, givesAction, givesVersion, readAction, readVersion]

theorem ofTarget?_of_fails
    (fails : ¬ ((request.valuesOf "Action").length ≤ 1 ∧
      (request.valuesOf "Version").length ≤ 1)) :
    ofTarget? request.target = none := by
  rw [Classical.not_and_iff_not_or_not, Nat.not_le, Nat.not_le, ← valuesOf_pairs,
    ← valuesOf_pairs] at fails
  rcases fails with severalActions | severalVersions
  · simp [ofTarget?, ofPairs?, Slot.ofFields?_of_one_lt severalActions]
  · simp [ofTarget?, ofPairs?, Slot.ofFields?_of_one_lt severalVersions]

theorem metadata_heads : metadata ⟨(request.valuesOf "Action").head?,
    (request.valuesOf "Version").head?⟩ = request.metadata := by
  have head (name : String) : ((request.valuesOf name).head?).getD "" =
      request.valueOf name := (List.headD_eq_head?_getD).symm
  unfold metadata Http.Request.metadata
  simp only [head]
  congr 1
  split
  · rename_i unnamed
    rw [if_pos unnamed]
    rfl
  · rename_i named
    rw [if_neg named]

end ActionQuery

/-! ## Orders -/

/-- What comes of the body of a request for an operation: what is wrong with it, or an
order that meets what was asked for. -/
structure Operation.Judges {α : Type} (operation : Operation) (request : Http.Request)
    (Meets : α → Prop) (outcome : Except RequestFault α) : Prop where
  contentType : operation.ReadsBody → ¬ request.IsJson →
    outcome = .error (.unsupportedContentType request.contentType)
  body : (operation.ReadsBody → request.IsJson) → ¬ operation.Decodes request.body →
    outcome = .error (.malformedParameter "Body")
  identifier : (operation.ReadsBody → request.IsJson) → operation.Decodes request.body →
    ¬ operation.NamesBox request.body → outcome = .error (.malformedParameter "Id")
  order : (operation.ReadsBody → request.IsJson) → operation.Decodes request.body →
    operation.NamesBox request.body → ∃ order, outcome = .ok order ∧ Meets order

/-- A way to read actions that reads those of one service. -/
structure Service.Reads {α : Type} (service : Service) (request : Http.Request)
    (Meets : Operation → α → Prop)
    (read : String → Option (Except RequestFault α)) : Prop where
  served : ∀ operation ∈ Operation.servedBy service, ∃ outcome,
    read operation.name = some outcome ∧
      operation.Judges request (Meets operation) outcome
  unserved : ∀ action, (∀ operation ∈ Operation.servedBy service, operation.name ≠ action) →
    read action = none

section Reading

variable {α : Type} {service : Service} {request : Http.Request}
  {Meets : Operation → α → Prop} {read : String → Option (Except RequestFault α)}

theorem check_of_fails_query (fails : ¬ Check.query.Passes service request) :
    StalestFirst.check read request =
      ⟨Check.query.metadata request, .error (Check.query.fault request)⟩ := by
  rw [StalestFirst.check, ActionQuery.ofTarget?_of_fails fails]
  rfl

theorem check_of_once (once : Check.query.Passes service request) :
    StalestFirst.check read request =
      ⟨request.metadata,
        (if request.valueOf "Version" = "2021-12-23" then read (request.valueOf "Action")
          else none).getD (.error (Check.action.fault request))⟩ := by
  have head (name : String) : ((request.valuesOf name).head?).getD "" =
      request.valueOf name := (List.headD_eq_head?_getD).symm
  rw [StalestFirst.check, ActionQuery.ofTarget?_of_passes once]
  simp only [ActionQuery.metadata_heads, ActionQuery.unsupported, head]
  rfl

/-- An action that is not served in the version that is asked for. -/
theorem check_of_fails_action (reads : service.Reads request Meets read)
    (once : Check.query.Passes service request)
    (fails : ¬ Check.action.Passes service request) :
    StalestFirst.check read request =
      ⟨request.metadata, .error (Check.action.fault request)⟩ := by
  rw [check_of_once once]
  by_cases version : request.valueOf "Version" = "2021-12-23"
  · have unread := reads.unserved (request.valueOf "Action") fun operation served same =>
      fails ⟨operation, served, same.symm, version⟩
    rw [if_pos version, unread, Option.getD_none]
  · rw [if_neg version, Option.getD_none]

/-- The action that is asked for is read. -/
theorem check_of_asksFor (reads : service.Reads request Meets read)
    (once : Check.query.Passes service request) {operation : Operation}
    (asks : request.AsksFor service operation) :
    ∃ outcome, StalestFirst.check read request = ⟨request.metadata, outcome⟩ ∧
      operation.Judges request (Meets operation) outcome := by
  obtain ⟨outcome, given, judges⟩ := reads.served operation asks.served
  refine ⟨outcome, ?_, judges⟩
  rw [check_of_once once, if_pos asks.version, asks.action, given, Option.getD_some]

/-- The first check that fails decides what is wrong. -/
theorem check_of_firstFailed (reads : service.Reads request Meets read) {check : Check}
    (first : check.FirstFailed service request) :
    StalestFirst.check read request = ⟨check.metadata request, .error (check.fault request)⟩ := by
  have once (later : 0 < check.place) : Check.query.Passes service request :=
    first.passes .query later
  cases check with
  | query =>
      exact check_of_fails_query first.fails
  | action =>
      exact check_of_fails_action reads (once (by decide)) first.fails
  | contentType =>
      have fails := first.fails
      simp only [Check.Passes, not_forall] at fails
      obtain ⟨operation, asks, readsBody, notJson⟩ := fails
      obtain ⟨outcome, checked, judges⟩ := check_of_asksFor reads (once (by decide)) asks
      rw [checked, judges.contentType readsBody notJson]
      rfl
  | body =>
      have fails := first.fails
      simp only [Check.Passes, not_forall] at fails
      obtain ⟨operation, asks, garbled⟩ := fails
      have json := first.passes .contentType (by decide) operation asks
      obtain ⟨outcome, checked, judges⟩ := check_of_asksFor reads (once (by decide)) asks
      rw [checked, judges.body json garbled]
      rfl
  | identifier =>
      have fails := first.fails
      simp only [Check.Passes, not_forall] at fails
      obtain ⟨operation, asks, unnamed⟩ := fails
      have json := first.passes .contentType (by decide) operation asks
      have decodes := first.passes .body (by decide) operation asks
      obtain ⟨outcome, checked, judges⟩ := check_of_asksFor reads (once (by decide)) asks
      rw [checked, judges.identifier json decodes unnamed]
      rfl

/-- A request that passes all checks is an order for what it asks. -/
theorem check_of_passes (reads : service.Reads request Meets read)
    (passes : ∀ check : Check, check.Passes service request) :
    ∃ operation order, request.AsksFor service operation ∧ Meets operation order ∧
      StalestFirst.check read request = ⟨request.metadata, .ok order⟩ := by
  obtain ⟨operation, asks⟩ := passes .action
  obtain ⟨outcome, checked, judges⟩ := check_of_asksFor reads (passes .query) asks
  obtain ⟨order, rfl, meets⟩ := judges.order (passes .contentType operation asks)
    (passes .body operation asks) (passes .identifier operation asks)
  exact ⟨operation, order, asks, meets, checked⟩

end Reading

/-! ### The orders of the queue service and of the box service -/

/-- The order that an operation of the queue service is. -/
def QueueOrder.Meets (request : Http.Request) : Operation → QueueOrder → Prop
  | .sync, .accept item => Wire.ofBytes? request.body = some item
  | .dequeue, .draw => True
  | _, _ => False

/-- The order that an operation of the box service is. -/
def BoxOrder.Meets (request : Http.Request) : Operation → BoxOrder → Prop
  | .createBox, .create draft => Wire.ofBytes? request.body = some draft
  | .addBoxEmoji, .react reactions => Wire.ofBytes? request.body = some reactions
  | .viewBox, .view => True
  | _, _ => False

section Parameters

variable {α β : Type} [Wire α] {request : Http.Request}

theorem parameter_of_not_isJson (notJson : ¬ request.IsJson) :
    (parameter request : Except RequestFault α) =
      .error (.unsupportedContentType request.contentType) :=
  if_neg notJson

theorem parameter_of_isJson (json : request.IsJson) :
    (parameter request : Except RequestFault α) =
      match (Wire.ofBytes? request.body : Option α) with
      | some value => .ok value
      | none => .error (.malformedParameter "Body") :=
  if_pos json

/-- An operation that reads the body judges it by what it makes of the value there. -/
theorem judges_parameter {operation : Operation} {Meets : β → Prop}
    {next : α → Except RequestFault β} (readsBody : operation.ReadsBody)
    (decodes : operation.Decodes request.body ↔
      (Wire.ofBytes? request.body : Option α).isSome = true)
    (unnamed : ∀ value : α, Wire.ofBytes? request.body = some value →
      ¬ operation.NamesBox request.body → next value = .error (.malformedParameter "Id"))
    (named : ∀ value : α, Wire.ofBytes? request.body = some value →
      operation.NamesBox request.body → ∃ order, next value = .ok order ∧ Meets order) :
    operation.Judges request Meets ((parameter request).bind next) where
  contentType _ notJson := by
    rw [parameter_of_not_isJson notJson]
    rfl
  body json garbled := by
    rw [decodes, Bool.not_eq_true, Option.isSome_eq_false_iff, Option.isNone_iff_eq_none]
      at garbled
    rw [parameter_of_isJson (json readsBody), garbled]
    rfl
  identifier json isDecoded isUnnamed := by
    obtain ⟨value, read⟩ := Option.isSome_iff_exists.1 (decodes.1 isDecoded)
    rw [parameter_of_isJson (json readsBody), read]
    exact unnamed value read isUnnamed
  order json isDecoded isNamed := by
    obtain ⟨value, read⟩ := Option.isSome_iff_exists.1 (decodes.1 isDecoded)
    rw [parameter_of_isJson (json readsBody), read]
    exact named value read isNamed

/-- An operation whose value names a box judges the name, too. -/
theorem judges_named {operation : Operation} {Meets : β → Prop} {identifier : α → String}
    {order : α → β} (readsBody : operation.ReadsBody)
    (decodes : operation.Decodes request.body ↔
      (Wire.ofBytes? request.body : Option α).isSome = true)
    (names : operation.NamesBox request.body ↔
      ∀ value : α, Wire.ofBytes? request.body = some value → identifier value ≠ "")
    (meets : ∀ value : α, Wire.ofBytes? request.body = some value → Meets (order value)) :
    operation.Judges request Meets ((parameter request).bind fun value =>
      if identifier value = "" then .error (.malformedParameter "Id")
      else .ok (order value)) := by
  refine judges_parameter readsBody decodes ?_ ?_
  · intro value read isUnnamed
    refine if_pos ?_
    by_contra present
    refine isUnnamed (names.2 fun other again => ?_)
    rw [read] at again
    cases again
    exact present
  · intro value read isNamed
    exact ⟨order value, if_neg (names.1 isNamed value read), meets value read⟩

end Parameters

/-- An operation that reads no body has its order whatever the body is. -/
theorem judges_ok {β : Type} {operation : Operation} {request : Http.Request}
    {Meets : β → Prop} {order : β} (readsNone : ¬ operation.ReadsBody)
    (decodes : operation.Decodes request.body) (names : operation.NamesBox request.body)
    (meets : Meets order) : operation.Judges request Meets (.ok order) where
  contentType readsBody := absurd readsBody readsNone
  body _ garbled := absurd decodes garbled
  identifier _ _ unnamed := absurd names unnamed
  order _ _ _ := ⟨order, rfl, meets⟩

theorem reads_queue (request : Http.Request) :
    Service.queue.Reads request (QueueOrder.Meets request) (QueueOrder.ofAction? request) where
  served operation served := by
    simp only [Operation.servedBy, List.mem_cons, List.not_mem_nil, or_false] at served
    rcases served with rfl | rfl
    · exact ⟨(parameter request).bind QueueOrder.ofItem, rfl,
        judges_named trivial Iff.rfl Iff.rfl fun _ read => read⟩
    · exact ⟨.ok .draw, rfl, judges_ok id trivial trivial trivial⟩
  unserved action other := by
    have notSync : action ≠ "Sync" := fun same => other .sync (by decide) same.symm
    have notDequeue : action ≠ "Dequeue" := fun same => other .dequeue (by decide) same.symm
    rw [QueueOrder.ofAction?, if_neg notSync, if_neg notDequeue]

theorem reads_box (request : Http.Request) :
    Service.box.Reads request (BoxOrder.Meets request) (BoxOrder.ofAction? request) where
  served operation served := by
    simp only [Operation.servedBy, List.mem_cons, List.not_mem_nil, or_false] at served
    rcases served with rfl | rfl | rfl
    · have ofDraft : (parameter request).map BoxOrder.create =
          (parameter request).bind fun draft => .ok (.create draft) := by
        cases (parameter request : Except RequestFault BoxDraft) with
        | _ =>
            rfl
      refine ⟨(parameter request).map .create, rfl, ?_⟩
      rw [ofDraft]
      refine judges_parameter trivial Iff.rfl ?_ ?_
      · intro draft read unnamed
        exact absurd trivial unnamed
      · intro draft read named
        exact ⟨.create draft, rfl, read⟩
    · exact ⟨(parameter request).bind BoxOrder.ofReactions, rfl,
        judges_named trivial Iff.rfl Iff.rfl fun _ read => read⟩
    · exact ⟨.ok .view, rfl, judges_ok id trivial trivial trivial⟩
  unserved action other := by
    have notCreate : action ≠ "CreateBox" := fun same => other .createBox (by decide) same.symm
    have notReact : action ≠ "AddBoxEmoji" :=
      fun same => other .addBoxEmoji (by decide) same.symm
    have notView : action ≠ "ViewBox" := fun same => other .viewBox (by decide) same.symm
    rw [BoxOrder.ofAction?, if_neg notCreate, if_neg notReact, if_neg notView]

/-! ## What checks do to the state -/

/-- A request that comes to the handler of its service. -/
def Service.Handles (service : Service) (request : Http.Request) : Prop :=
  service ≠ .telemetry ∧ Reply.beforehand? request = none

/-- A service answers a request at once and nothing else happens, whatever the state
that it is in, the queue that it asks and the request's number. -/
structure Service.Refuses (service : Service) (request : Http.Request)
    (response : Http.Response) : Prop where
  deployed : ∀ (deployment : Deployment) (number : Nat) (freshId : String),
    deployment.isTaken number = false →
      deployment.stepArrive number service request freshId =
        (deployment, [.replied number response])
  queue : service = .queue → ∀ (world : World) (occasion : Occasion),
    QueueService.answer world occasion request = (world, response)
  desk : service = .box → ∀ (link : Link) (desk : Desk) (occasion : Occasion),
    desk.answer link occasion request = (desk, response)

theorem refuses_of_firstFailed {service : Service} {request : Http.Request}
    (handles : service.Handles request) {check : Check}
    (first : check.FirstFailed service request) :
    service.Refuses request
      ((Reply.ofFault (check.metadata request) (check.fault request)).forMethod
        request.method) := by
  obtain ⟨serves, within⟩ := handles
  cases service with
  | telemetry =>
      exact absurd rfl serves
  | queue =>
      have checked : QueueOrder.ofRequest request =
          ⟨check.metadata request, .error (check.fault request)⟩ :=
        check_of_firstFailed (reads_queue request) first
      refine ⟨fun deployment number freshId free => ?_, fun _ world occasion => ?_, nofun⟩
      · simp only [Deployment.stepArrive, free, Deployment.meet, within, checked]
        rfl
      · simp only [QueueService.answer, within, checked]
  | box =>
      have checked : BoxOrder.ofRequest request =
          ⟨check.metadata request, .error (check.fault request)⟩ :=
        check_of_firstFailed (reads_box request) first
      refine ⟨fun deployment number freshId free => ?_, nofun, fun _ link desk occasion => ?_⟩
      · simp only [Deployment.stepArrive, free, Deployment.meet, within, checked]
        rfl
      · simp only [Desk.answer, within, checked]

/-! ## Requests that are told apart by their targets only -/

theorem Http.Request.valuesOf_congr {first second : Http.Request}
    (sameTarget : first.target = second.target) (name : String) :
    first.valuesOf name = second.valuesOf name := by
  rw [valuesOf, valuesOf, sameTarget]

theorem Http.Request.valueOf_congr {first second : Http.Request}
    (sameTarget : first.target = second.target) (name : String) :
    first.valueOf name = second.valueOf name := by
  rw [valueOf, valueOf, valuesOf_congr sameTarget]

theorem Http.Request.metadata_congr {first second : Http.Request}
    (sameTarget : first.target = second.target) : first.metadata = second.metadata := by
  rw [metadata, metadata, valueOf_congr sameTarget, valueOf_congr sameTarget]

theorem Http.Request.AsksFor.congr {first second : Http.Request} {service : Service}
    {operation : Operation} (asks : first.AsksFor service operation)
    (sameTarget : first.target = second.target) : second.AsksFor service operation where
  served := asks.served
  action := valueOf_congr sameTarget "Action" ▸ asks.action
  version := valueOf_congr sameTarget "Version" ▸ asks.version

theorem Check.passes_query_congr {service : Service} {first second : Http.Request}
    (once : Check.query.Passes service first) (sameTarget : first.target = second.target) :
    Check.query.Passes service second :=
  ⟨Http.Request.valuesOf_congr sameTarget "Action" ▸ once.1,
    Http.Request.valuesOf_congr sameTarget "Version" ▸ once.2⟩

/-- A service does the same for two requests, and says the same, each in the way of its
method. -/
structure Service.SameFor (service : Service) (first second : Http.Request) : Prop where
  deployed : first.method = second.method →
    ∀ (deployment : Deployment) (number : Nat) (freshId : String),
      deployment.stepArrive number service first freshId =
        deployment.stepArrive number service second freshId
  driven : ∀ (deployment : Deployment) (number : Nat) (freshId : String),
    (deployment.stepArrive number service first freshId).1.world =
      (deployment.stepArrive number service second freshId).1.world
  queue : service = .queue → ∀ (world : World) (occasion : Occasion), ∃ next said,
    QueueService.answer world occasion first =
        (next, Http.Response.forMethod said first.method) ∧
      QueueService.answer world occasion second =
        (next, Http.Response.forMethod said second.method)
  desk : service = .box → ∀ (link : Link) (desk : Desk) (occasion : Occasion),
    ∃ next said,
      desk.answer link occasion first =
          (next, Http.Response.forMethod said first.method) ∧
        desk.answer link occasion second =
          (next, Http.Response.forMethod said second.method)

theorem ofRequest_of_dequeue {request : Http.Request}
    (once : Check.query.Passes .queue request) (asks : request.AsksFor .queue .dequeue) :
    QueueOrder.ofRequest request = ⟨request.metadata, .ok .draw⟩ := by
  rw [QueueOrder.ofRequest, check_of_once once, if_pos asks.version, asks.action]
  rfl

theorem ofRequest_of_viewBox {request : Http.Request}
    (once : Check.query.Passes .box request) (asks : request.AsksFor .box .viewBox) :
    BoxOrder.ofRequest request = ⟨request.metadata, .ok .view⟩ := by
  rw [BoxOrder.ofRequest, check_of_once once, if_pos asks.version, asks.action]
  rfl

section Targets

variable {first second : Http.Request}

theorem sameFor_of_dequeue (sameTarget : first.target = second.target)
    (firstWithin : Reply.beforehand? first = none)
    (secondWithin : Reply.beforehand? second = none)
    (once : Check.query.Passes .queue first) (asks : first.AsksFor .queue .dequeue) :
    Service.queue.SameFor first second := by
  have firstChecked := ofRequest_of_dequeue once asks
  have secondChecked : QueueOrder.ofRequest second = ⟨first.metadata, .ok .draw⟩ := by
    rw [Http.Request.metadata_congr sameTarget]
    exact ofRequest_of_dequeue (Check.passes_query_congr once sameTarget)
      (asks.congr sameTarget)
  refine ⟨fun sameMethod deployment number freshId => ?_, fun deployment number freshId => ?_,
    fun _ world occasion => ?_, nofun⟩
  · simp only [Deployment.stepArrive, Deployment.meet, firstWithin, secondWithin,
      firstChecked, secondChecked, sameMethod]
  · simp only [Deployment.stepArrive, Deployment.meet, firstWithin, secondWithin,
      firstChecked, secondChecked]
    split
    · rfl
    · simp only [Deployment.beginQueueOrder, Deployment.world_stepQueue]
      rfl
  · refine ⟨(QueueService.fulfil world occasion first.metadata .draw).1,
      (QueueService.fulfil world occasion first.metadata .draw).2, ?_, ?_⟩
    · simp only [QueueService.answer, firstWithin, firstChecked]
    · simp only [QueueService.answer, secondWithin, secondChecked]

theorem sameFor_of_viewBox (sameTarget : first.target = second.target)
    (firstWithin : Reply.beforehand? first = none)
    (secondWithin : Reply.beforehand? second = none)
    (once : Check.query.Passes .box first) (asks : first.AsksFor .box .viewBox) :
    Service.box.SameFor first second := by
  have firstChecked := ofRequest_of_viewBox once asks
  have secondChecked : BoxOrder.ofRequest second = ⟨first.metadata, .ok .view⟩ := by
    rw [Http.Request.metadata_congr sameTarget]
    exact ofRequest_of_viewBox (Check.passes_query_congr once sameTarget)
      (asks.congr sameTarget)
  refine ⟨fun sameMethod deployment number freshId => ?_, fun deployment number freshId => ?_,
    nofun, fun _ link desk occasion => ?_⟩
  · simp only [Deployment.stepArrive, Deployment.meet, firstWithin, secondWithin,
      firstChecked, secondChecked, sameMethod]
  · simp only [Deployment.stepArrive, Deployment.meet, firstWithin, secondWithin,
      firstChecked, secondChecked]
    split
    · rfl
    · simp only [Deployment.beginBoxOrder, Deployment.world_stepQueue]
      rfl
  · refine ⟨(desk.fulfil link occasion first.metadata .view).1,
      (desk.fulfil link occasion first.metadata .view).2, ?_, ?_⟩
    · simp only [Desk.answer, firstWithin, firstChecked]
    · simp only [Desk.answer, secondWithin, secondChecked]

theorem sameFor_of_not_readsBody {service : Service} {operation : Operation}
    (sameTarget : first.target = second.target) (firstHandled : service.Handles first)
    (secondHandled : service.Handles second) (once : Check.query.Passes service first)
    (asks : first.AsksFor service operation) (readsNone : ¬ operation.ReadsBody) :
    service.SameFor first second := by
  have served := asks.served
  cases service with
  | telemetry =>
      cases served
  | queue =>
      simp only [Operation.servedBy, List.mem_cons, List.not_mem_nil, or_false] at served
      rcases served with rfl | rfl
      · exact absurd trivial readsNone
      · exact sameFor_of_dequeue sameTarget firstHandled.2 secondHandled.2 once asks
  | box =>
      simp only [Operation.servedBy, List.mem_cons, List.not_mem_nil, or_false] at served
      rcases served with rfl | rfl | rfl
      · exact absurd trivial readsNone
      · exact absurd trivial readsNone
      · exact sameFor_of_viewBox sameTarget firstHandled.2 secondHandled.2 once asks

end Targets

/-- A request goes through its checks in one order. The first that it fails decides the
answer, and nothing else happens. A request that passes all is an order for what it asks
for. To draw a box and to view one is the same whatever the method, the headers and the
body of the request are. -/
theorem first_failed_check_decides :
    (∀ (service : Service) (request : Http.Request),
      (∀ check : Check, check.Passes service request) ∨
        ∃ check : Check, check.FirstFailed service request) ∧
    (∀ (service : Service) (request : Http.Request) (check : Check),
      service.Handles request → check.FirstFailed service request →
        service.Refuses request
          ((Reply.ofFault (check.metadata request) (check.fault request)).forMethod
            request.method)) ∧
    (∀ request : Http.Request, (∀ check : Check, check.Passes .queue request) →
      ∃ operation order, request.AsksFor .queue operation ∧
        QueueOrder.Meets request operation order ∧
        QueueOrder.ofRequest request = ⟨request.metadata, .ok order⟩) ∧
    (∀ request : Http.Request, (∀ check : Check, check.Passes .box request) →
      ∃ operation order, request.AsksFor .box operation ∧
        BoxOrder.Meets request operation order ∧
        BoxOrder.ofRequest request = ⟨request.metadata, .ok order⟩) ∧
    (∀ (service : Service) (operation : Operation) (first second : Http.Request),
      first.target = second.target → service.Handles first → service.Handles second →
        Check.query.Passes service first → first.AsksFor service operation →
          ¬ operation.ReadsBody → service.SameFor first second) := by
  refine ⟨Check.passes_or_exists_firstFailed, ?_, ?_, ?_, ?_⟩
  · intro service request check handles first
    exact refuses_of_firstFailed handles first
  · intro request passes
    exact check_of_passes (reads_queue request) passes
  · intro request passes
    exact check_of_passes (reads_box request) passes
  · intro service operation first second sameTarget firstHandled secondHandled once asks
      readsNone
    exact sameFor_of_not_readsBody sameTarget firstHandled secondHandled once asks readsNone

/-- A request to add reactions whose content type is wrong, and so is its body. -/
def requestInPlainText : Http.Request where
  method := "POST"
  target :=
    ⟨[Http.ascii '/'], some (Http.asciiBytes "Version=2021-12-23&Action=AddBoxEmoji")⟩
  headers := [("Content-Type", Http.asciiBytes "text/plain")]
  body := Http.asciiBytes "none"

/-- A request to view a box with another method, and with a body. -/
def requestToViewWithBody : Http.Request :=
  { Deployment.requestToView with method := "GET", body := Http.asciiBytes "none" }

theorem first_failed_check_decides_requestInPlainText :
    Service.box.Handles requestInPlainText ∧
    Check.contentType.FirstFailed .box requestInPlainText ∧
    ¬ Check.body.Passes .box requestInPlainText ∧
    Deployment.overOneBox.stepArrive 0 .box requestInPlainText "b" =
      (Deployment.overOneBox, [.replied 0 (Reply.ofFault ⟨"AddBoxEmoji", "2021-12-23"⟩
        (.unsupportedContentType "text/plain"))]) ∧
    Deployment.requestToView.AsksFor .box .viewBox ∧
    (Deployment.overOneBox.stepArrive 0 .box Deployment.requestToView "b").1.world =
      (Deployment.overOneBox.stepArrive 0 .box requestToViewWithBody "b").1.world := by
  have handled : Service.box.Handles requestInPlainText := ⟨nofun, by decide +kernel⟩
  have asks : requestInPlainText.AsksFor .box .addBoxEmoji :=
    ⟨by decide, by decide +kernel, by decide +kernel⟩
  have notJson : ¬ requestInPlainText.IsJson := by
    unfold Http.Request.IsJson
    decide +kernel
  have garbled : ¬ Operation.addBoxEmoji.Decodes requestInPlainText.body := by
    unfold Operation.Decodes
    decide +kernel
  have first : Check.contentType.FirstFailed .box requestInPlainText := by
    refine ⟨fun passes => notJson (passes _ asks trivial), fun earlier before => ?_⟩
    cases earlier with
    | query =>
        exact ⟨by decide +kernel, by decide +kernel⟩
    | action =>
        exact ⟨_, asks⟩
    | _ =>
        exact absurd before (by decide)
  obtain ⟨_, refuses, _, _, same⟩ := first_failed_check_decides
  have refused := (refuses .box requestInPlainText .contentType handled first).deployed
    Deployment.overOneBox 0 "b" (by decide +kernel)
  have views : Deployment.requestToView.AsksFor .box .viewBox :=
    ⟨by decide, by decide +kernel, by decide +kernel⟩
  have alike := (same .box .viewBox Deployment.requestToView requestToViewWithBody rfl
    ⟨nofun, by decide +kernel⟩ ⟨nofun, by decide +kernel⟩
    ⟨by decide +kernel, by decide +kernel⟩ views id).driven Deployment.overOneBox 0 "b"
  refine ⟨handled, first, fun passes => garbled (passes _ asks), ?_, views, alike⟩
  have metadata : Check.contentType.metadata requestInPlainText =
      ⟨"AddBoxEmoji", "2021-12-23"⟩ := by
    decide +kernel
  have contentType : requestInPlainText.contentType = "text/plain" := by
    decide +kernel
  rw [refused, metadata, Check.fault, contentType]
  rfl

end StalestFirst
