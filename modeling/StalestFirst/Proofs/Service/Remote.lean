import Mathlib
import StalestFirst.Proofs.Service.Standalone
import StalestFirst.Proofs.Wire
import StalestFirst.Service.Desk

namespace StalestFirst

/-! ## What a client asks passes the checks -/

/-- An identifier that can be sent: it is there, and the item of its box fits into a
request. The identifiers that new boxes get, with their 36 characters, all can. -/
structure Sendable (id : String) : Prop where
  present : id ≠ ""
  short : id.length ≤ 65536

namespace QueueClient

theorem body_acceptRequest (item : Item) :
    (acceptRequest item).body = Text.Utf8.encode (Wire.print item).toList := by
  rw [acceptRequest, request]

theorem length_print_item (item : Item) : (Wire.print item).toList.length =
    16 + (Json.quoted item.id).length + (Text.signedDecimal item.score.toInt).length := by
  have id : (Json.quoted "Id").length = 4 := by decide
  have score : (Json.quoted "Score").length = 7 := by decide
  simp [Wire.print, Wire.toJson, Json.print, Json.record, Json.written, Json.writtenFields,
    Json.writtenName, id, score]
  omega

theorem length_acceptRequest_body_le (item : Item) :
    (acceptRequest item).body.length ≤ 24 * item.id.length + 152 := by
  have bytes := Text.Utf8.length_encode_le (Wire.print item).toList
  have id := Json.length_quoted_le item.id
  have score := Text.length_signedDecimal_le item.score
  rw [length_print_item] at bytes
  rw [body_acceptRequest]
  omega

theorem beforehand?_drawRequest : Reply.beforehand? drawRequest = none := by
  decide +kernel

theorem beforehand?_acceptRequest {item : Item} (sendable : Sendable item.id) :
    Reply.beforehand? (acceptRequest item) = none := by
  have short := sendable.short
  have length := length_acceptRequest_body_le item
  have fits : ¬ bodyLimit < (acceptRequest item).body.length := by
    unfold bodyLimit
    omega
  have root : (acceptRequest item).target.path = [Http.ascii '/'] := rfl
  rw [Reply.beforehand?, if_pos root, if_neg fits]

theorem ofRequest_drawRequest :
    QueueOrder.ofRequest drawRequest = ⟨⟨"Dequeue", apiVersion⟩, .ok .draw⟩ := by
  have asked : ActionQuery.ofTarget? drawRequest.target =
      some ⟨some "Dequeue", some apiVersion⟩ := by
    decide +kernel
  rw [QueueOrder.ofRequest, check, asked]
  rfl

theorem parameter_acceptRequest (item : Item) :
    parameter (acceptRequest item) = .ok item := by
  have headers : (acceptRequest item).headers =
      [("content-type", Http.asciiBytes "application/json")] := rfl
  have json : Text.sameLetters (mediaType (acceptRequest item).contentType)
      "application/json".toList = true := by
    rw [Http.Request.contentType, headers]
    decide +kernel
  rw [parameter, if_pos json, body_acceptRequest, Wire.ofBytes?_encode_print]

theorem ofRequest_acceptRequest {item : Item} (sendable : Sendable item.id) :
    QueueOrder.ofRequest (acceptRequest item) =
      ⟨⟨"Sync", apiVersion⟩, .ok (.accept item)⟩ := by
  have target : (acceptRequest item).target =
      ⟨[Http.ascii '/'], some (Http.asciiBytes (queryOf "Sync"))⟩ := rfl
  have asked : ActionQuery.ofTarget? (acceptRequest item).target =
      some ⟨some "Sync", some apiVersion⟩ := by
    rw [target]
    decide +kernel
  have passes : QueueOrder.ofAction? (acceptRequest item) "Sync" =
      some (.ok (.accept item)) := by
    rw [QueueOrder.ofAction?, if_pos rfl, parameter_acceptRequest]
    exact congrArg some (if_neg sendable.present)
  simp [QueueOrder.ofRequest, check, asked, passes, ActionQuery.metadata]

/-! ## What the client hears is what the service said -/

/-- A result is heard, and of a failure all that the service tells. -/
theorem read_ofOutcome {α : Type} [Wire α] [LawfulWire α] (client : QueueClient)
    (action : String) (metadata : Metadata) (outcome : Except Failure α) :
    client.read action
        (.replied (Reply.ofOutcome metadata outcome).status
          (Text.Utf8.encode (Reply.ofOutcome metadata outcome).body.toList)) =
      outcome.mapError fun failure =>
        .remote (Refusal.ofFailure failure).status (Refusal.ofFailure failure).error := by
  cases outcome with
  | ok result =>
      have read := Wire.ofBytes?_encode_print (⟨metadata, some result, none⟩ : Envelope α)
      have success : Http.isSuccess 200 = true := rfl
      change client.read action (.replied 200 (Text.Utf8.encode
        (Wire.print (⟨metadata, some result, none⟩ : Envelope α)).toList)) = _
      simp [QueueClient.read, read, success, Except.mapError]
  | error failure =>
      have read := Wire.ofBytes?_encode_print
        (⟨metadata, none, some (Refusal.ofFailure failure).error⟩ : Envelope α)
      change client.read action (.replied (Refusal.ofFailure failure).status
        (Text.Utf8.encode (Wire.print (⟨metadata, none,
          some (Refusal.ofFailure failure).error⟩ : Envelope α)).toList)) = _
      simp [QueueClient.read, read, Except.mapError]

end QueueClient

/-- What a service says of a fault has a status that can be passed on. -/
theorem Refusal.ofClient_remote_ofFault (fault : Fault) :
    ofClient (.remote (ofFault fault).status (ofFault fault).error) = ofFault fault := by
  cases fault with
  | _ =>
      rfl

namespace QueueService

theorem answer_drawRequest (world : World) (occasion : Occasion) :
    answer world occasion QueueClient.drawRequest =
      fulfil world occasion ⟨"Dequeue", apiVersion⟩ .draw := by
  rw [answer, QueueClient.beforehand?_drawRequest, QueueClient.ofRequest_drawRequest]
  rfl

theorem answer_acceptRequest (world : World) (occasion : Occasion) {item : Item}
    (sendable : Sendable item.id) :
    answer world occasion (QueueClient.acceptRequest item) =
      fulfil world occasion ⟨"Sync", apiVersion⟩ (.accept item) := by
  rw [answer, QueueClient.beforehand?_acceptRequest sendable,
    QueueClient.ofRequest_acceptRequest sendable]
  rfl

end QueueService

/-! ## Links that are alike

A box service tells two failures to ask its queue apart only by what it passes on. -/

/-- Two links leave the queue in the same state, and the box service tells the same
over either. -/
structure Link.Alike (left right : Link) : Prop where
  queue (world : World) (occasion : Occasion) :
    (left.draw world occasion).1 = (right.draw world occasion).1
  told (world : World) (occasion : Occasion) :
    (left.draw world occasion).2.mapError Refusal.ofClient =
      (right.draw world occasion).2.mapError Refusal.ofClient
  accepts (world : World) (occasion : Occasion) {item : Item} (sendable : Sendable item.id) :
    (left.accept world occasion item).1 = (right.accept world occasion item).1

theorem Link.remote_alike_direct (client : QueueClient) :
    (Link.remote client Transport.faithful).Alike Link.direct where
  queue world occasion := by
    simp only [remote, direct, Transport.faithful, QueueService.answer_drawRequest,
      QueueService.fulfil]
  told world occasion := by
    simp only [remote, direct, Transport.faithful, QueueService.answer_drawRequest,
      QueueService.fulfil, QueueClient.readDraw, QueueClient.read_ofOutcome]
    cases (world.retrieve occasion.call occasion.drawNumber).2 with
    | ok id =>
        rfl
    | error fault =>
        exact congrArg Except.error (Refusal.ofClient_remote_ofFault fault)
  accepts world occasion item sendable := by
    simp only [remote, direct, Transport.faithful,
      QueueService.answer_acceptRequest world occasion sendable, QueueService.fulfil]

/-! ## Desks over links that are alike -/

namespace Desk

variable {left right : Link} {desk : Desk}

/-- Only the refusal for a failure to ask the queue goes into an answer. -/
theorem ofOutcome_congr {α : Type} [Wire α] (metadata : Metadata)
    {first second : Except ClientFault String}
    (told : first.mapError Refusal.ofClient = second.mapError Refusal.ofClient)
    (next : String → Except Failure α) :
    Reply.ofOutcome metadata ((first.mapError .client).bind next) =
      Reply.ofOutcome metadata ((second.mapError .client).bind next) := by
  cases first with
  | ok id =>
      cases second with
      | ok other =>
          cases told
          rfl
      | error fault =>
          cases told
  | error fault =>
      cases second with
      | ok other =>
          cases told
      | error other =>
          have same : Refusal.ofClient fault = Refusal.ofClient other := by
            simpa [Except.mapError] using told
          simp [Except.mapError, Except.bind, Reply.ofOutcome, Refusal.ofFailure, same]

theorem fulfil_congr (alike : left.Alike right) (occasion : Occasion)
    (metadata : Metadata) (order : BoxOrder) :
    desk.fulfil left occasion metadata order =
      desk.fulfil right occasion metadata order := by
  cases order with
  | create draft =>
      rfl
  | react reactions =>
      rfl
  | view =>
      simp only [fulfil, alike.queue]
      rw [ofOutcome_congr metadata (alike.told desk.world occasion)]

theorem answer_congr (alike : left.Alike right) (occasion : Occasion)
    (request : Http.Request) :
    desk.answer left occasion request = desk.answer right occasion request := by
  simp only [answer, fulfil_congr alike]

theorem announce_congr (alike : left.Alike right) (occasion : Occasion) (position : Nat)
    (sendable : ∀ item ∈ desk.announcements, Sendable item.id) :
    desk.announce left occasion position = desk.announce right occasion position := by
  unfold announce
  cases found : desk.announcements[position]? with
  | none =>
      rfl
  | some item =>
      have awaited := List.mem_of_getElem? found
      have same := alike.accepts desk.world occasion (sendable item awaited)
      simp only [same]

/-- An answer adds at most the item of the box that was made for it. -/
theorem mem_announcements_answer {link : Link} {occasion : Occasion}
    {request : Http.Request} {item : Item}
    (awaited : item ∈ (desk.answer link occasion request).1.announcements) :
    item ∈ desk.announcements ∨ item.id = occasion.freshId := by
  have fulfilled : ∀ metadata order,
      item ∈ (desk.fulfil link occasion metadata order).1.announcements →
        item ∈ desk.announcements ∨ item.id = occasion.freshId := by
    intro metadata order awaited
    cases order with
    | create draft =>
        unfold fulfil at awaited
        dsimp only at awaited
        split at awaited
        · exact Or.inl awaited
        · rcases List.mem_append.1 awaited with old | new
          · exact Or.inl old
          · rw [List.mem_singleton.1 new]
            exact Or.inr rfl
    | react reactions =>
        unfold fulfil at awaited
        dsimp only at awaited
        split at awaited
        · exact Or.inl awaited
        · exact Or.inl awaited
    | view =>
        exact Or.inl awaited
  unfold answer at awaited
  split at awaited
  · exact Or.inl awaited
  · split at awaited
    · exact Or.inl awaited
    · exact fulfilled _ _ awaited

theorem mem_announcements_step {link : Link} {turn : Turn} {item : Item}
    (awaited : item ∈ (desk.step link turn).1.announcements) :
    item ∈ desk.announcements ∨
      ∃ occasion request, turn = .request occasion request ∧ item.id = occasion.freshId := by
  cases turn with
  | request occasion request =>
      rcases mem_announcements_answer awaited with old | new
      · exact Or.inl old
      · exact Or.inr ⟨occasion, request, rfl, new⟩
  | announce occasion position =>
      change item ∈ (desk.announce link occasion position).announcements at awaited
      unfold announce at awaited
      split at awaited
      · exact Or.inl awaited
      · exact Or.inl (List.mem_of_mem_eraseIdx awaited)
  | queue action =>
      exact Or.inl awaited

theorem step_congr (alike : left.Alike right) (turn : Turn)
    (sendable : ∀ item ∈ desk.announcements, Sendable item.id) :
    desk.step left turn = desk.step right turn := by
  cases turn with
  | request occasion request =>
      simp only [step, answer_congr alike]
  | announce occasion position =>
      simp only [step, announce_congr alike occasion position sendable]
  | queue action =>
      rfl

/-- Over links that are alike a box service cannot be told apart. -/
theorem run_congr (alike : left.Alike right) (turns : List Turn)
    (sendable : ∀ item ∈ desk.announcements, Sendable item.id)
    (fresh : ∀ occasion request, .request occasion request ∈ turns →
      Sendable occasion.freshId) :
    desk.run left turns = desk.run right turns := by
  induction turns generalizing desk with
  | nil =>
      rfl
  | cons turn rest inductionHypothesis =>
      have stillSendable :
          ∀ item ∈ (desk.step right turn).1.announcements, Sendable item.id := by
        intro item awaited
        rcases mem_announcements_step awaited with old | ⟨occasion, request, rfl, new⟩
        · exact sendable item old
        · rw [new]
          exact fresh occasion request List.mem_cons_self
      have later := inductionHypothesis stillSendable fun occasion request member =>
        fresh occasion request (List.mem_cons_of_mem turn member)
      simp only [run, step_congr alike turn sendable, later]

/-- A box service over a queue behind a queue service cannot be told apart from one
over the same queue in its own process. It gives the same answers and leaves the
store, the queue and the items of new boxes the same. Whatever the failure of a draw
that the queue service tells of, the box service tells the same. -/
theorem run_remote_eq_run_direct (client : QueueClient) (desk : Desk) (turns : List Turn)
    (sendable : ∀ item ∈ desk.announcements, Sendable item.id)
    (fresh : ∀ occasion request, .request occasion request ∈ turns →
      Sendable occasion.freshId) :
    desk.run (Link.remote client Transport.faithful) turns = desk.run Link.direct turns ∧
    ∀ (queueMetadata boxMetadata : Metadata) (fault : Fault),
      let said := Reply.ofOutcome queueMetadata (.error (.fault fault) : Except Failure Drawn)
      ∃ heard,
        client.readDraw (.replied said.status (Text.Utf8.encode said.body.toList)) =
          .error heard ∧
        Reply.ofOutcome boxMetadata (.error (.client heard) : Except Failure MessageBox) =
          Reply.ofEnvelope (Refusal.ofFault fault).status
            ((Refusal.ofFault fault).envelope boxMetadata) := by
  refine ⟨run_congr (Link.remote_alike_direct client) turns sendable fresh, ?_⟩
  intro queueMetadata boxMetadata fault
  refine ⟨.remote (Refusal.ofFault fault).status (Refusal.ofFault fault).error, ?_, ?_⟩
  · rw [QueueClient.readDraw, QueueClient.read_ofOutcome]
    rfl
  · simp only [Reply.ofOutcome, Refusal.ofFailure, Refusal.ofClient_remote_ofFault]

/-- A box service over a new queue and an empty store. -/
def overNothing : Desk :=
  ⟨World.start .standard Store.empty Moment.epoch, []⟩

/-- A view is asked for before the queue is ready, when its pool is empty, and after a
box was made and announced. -/
def viewedThrice : List Turn :=
  [.request ⟨0, 0, "a"⟩ Deployment.requestToView, .queue .spawn, .queue .fireTimer,
    .queue (.list 0), .queue (.receive 0), .queue (.install 0), .queue (.announce 0),
    .request ⟨1, 0, "b"⟩ Deployment.requestToView,
    .request ⟨2, 0, "c"⟩ Deployment.requestToCreate, .announce ⟨3, 0, "d"⟩ 0, .queue .take,
    .queue .apply, .request ⟨4, 0, "e"⟩ Deployment.requestToView]

theorem run_remote_eq_run_direct_viewedThrice :
    (∀ item ∈ overNothing.announcements, Sendable item.id) ∧
    (∀ occasion request, .request occasion request ∈ viewedThrice →
      Sendable occasion.freshId) ∧
    overNothing.run (Link.remote ⟨"http://queue"⟩ Transport.faithful) viewedThrice =
      overNothing.run Link.direct viewedThrice ∧
    (overNothing.run Link.direct viewedThrice).2.map (·.status) = [503, 503, 200, 200] ∧
    (overNothing.run Link.direct viewedThrice).1.world.shelf.lastServed = some "c" := by
  have sendable : ∀ item ∈ overNothing.announcements, Sendable item.id :=
    nofun
  have fresh : ∀ occasion request, .request occasion request ∈ viewedThrice →
      Sendable occasion.freshId := by
    intro occasion request member
    have one : occasion.freshId ∈ ["a", "b", "c", "e"] := by
      simp only [viewedThrice, List.mem_cons, Turn.request.injEq, reduceCtorEq, false_or,
        List.not_mem_nil, or_false] at member
      rcases member with ⟨rfl, _⟩ | ⟨rfl, _⟩ | ⟨rfl, _⟩ | ⟨rfl, _⟩
      all_goals decide
    have present : ∀ id ∈ ["a", "b", "c", "e"], id ≠ "" := by decide
    have short : ∀ id ∈ ["a", "b", "c", "e"], id.length ≤ 65536 := by decide
    exact ⟨present _ one, short _ one⟩
  exact ⟨sendable, fresh,
    (run_remote_eq_run_direct ⟨"http://queue"⟩ overNothing viewedThrice sendable fresh).1,
    by decide +kernel, by decide +kernel⟩

end Desk

end StalestFirst
