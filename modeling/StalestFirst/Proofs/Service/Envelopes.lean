import Mathlib
import StalestFirst.Proofs.Service.Checks
import StalestFirst.Proofs.Wire
import StalestFirst.Service.Desk

namespace StalestFirst

/-! ## Statuses and envelopes -/

/-- The envelope holds a result or an error and not both, the status is 200 with a
result only, and it is none of a success with an error. -/
structure Envelope.Fits {α : Type} (envelope : Envelope α) (status : Nat) : Prop where
  one : envelope.result.isSome ≠ envelope.error.isSome
  success : status = 200 ↔ envelope.result.isSome = true
  failure : envelope.error.isSome = true → Http.isSuccess status = false

/-- Whoever reads a response finds an envelope that fits its status. -/
def Http.Response.Coherent (response : Http.Response) : Prop :=
  ∃ envelope : Envelope Json,
    Wire.ofText? response.body = some envelope ∧ envelope.Fits response.status

namespace Reply

theorem coherent_ofOutcome_ok {α : Type} [Wire α] [PlainWire α] (metadata : Metadata)
    (result : α) :
    (ofOutcome metadata (.ok result : Except Failure α)).Coherent := by
  refine ⟨⟨metadata, some (Wire.toJson result), none⟩, ?_, ?_⟩
  · refine Envelope.ofText?_print_json ?_ ?_
    · rintro json ⟨⟩
      exact PlainWire.plain result
    · rintro json ⟨⟩
      exact PlainWire.present result
  · exact ⟨nofun, ⟨fun _ => rfl, fun _ => rfl⟩, nofun⟩

/-- A failure is told coherently unless it is told with the status of a success. -/
theorem coherent_ofOutcome_error_iff {α : Type} [Wire α] {metadata : Metadata}
    {failure : Failure} :
    (ofOutcome metadata (.error failure : Except Failure α)).Coherent ↔
      Http.isSuccess (Refusal.ofFailure failure).status = false := by
  have read : Wire.ofText? (ofOutcome metadata (.error failure : Except Failure α)).body =
      some ((Refusal.ofFailure failure).envelope metadata) :=
    Envelope.ofText?_print_json nofun nofun
  constructor
  · rintro ⟨envelope, told, fits⟩
    rw [read] at told
    cases told
    exact fits.failure rfl
  · intro refused
    refine ⟨_, read, nofun, ⟨fun success => ?_, nofun⟩, fun _ => refused⟩
    change (Refusal.ofFailure failure).status = 200 at success
    rw [success] at refused
    cases refused

theorem coherent_ofOutcome_iff {α : Type} [Wire α] [PlainWire α] {metadata : Metadata}
    {outcome : Except Failure α} :
    (ofOutcome metadata outcome).Coherent ↔ ∀ failure, outcome = .error failure →
      Http.isSuccess (Refusal.ofFailure failure).status = false := by
  cases outcome with
  | ok result =>
      exact ⟨fun _ => nofun, fun _ => coherent_ofOutcome_ok metadata result⟩
  | error failure =>
      rw [coherent_ofOutcome_error_iff]
      refine ⟨?_, fun refused => refused failure rfl⟩
      rintro refused other ⟨⟩
      exact refused

end Reply

namespace Refusal

theorem isSuccess_ofFault (fault : Fault) :
    Http.isSuccess (ofFault fault).status = false := by
  cases fault with
  | _ =>
      rfl

theorem isSuccess_ofRequest (fault : RequestFault) :
    Http.isSuccess (ofRequest fault).status = false := by
  cases fault with
  | _ =>
      rfl

/-- Of all failures to ask a queue, only what a queue service told with a success is
told with a success. -/
theorem isSuccess_ofClient_iff {fault : ClientFault} :
    Http.isSuccess (ofClient fault).status = true ↔
      ∃ status error, fault = .remote status error ∧ Http.isSuccess status = true := by
  constructor
  · intro success
    cases fault with
    | remote status error =>
        refine ⟨status, error, rfl, ?_⟩
        by_cases passed : 100 ≤ status ∧ status ≤ 999
        · have kept : (ofClient (.remote status error)).status = status := if_pos passed
          rw [← kept]
          exact success
        · have replaced : (ofClient (.remote status error)).status = 500 := if_neg passed
          rw [replaced] at success
          cases success
    | queue fault =>
        have refused := isSuccess_ofFault fault
        exact absurd success (ne_true_of_eq_false refused)
    | exchange timedOut reason =>
        cases timedOut with
        | _ =>
            cases success
    | _ =>
        cases success
  · rintro ⟨status, error, rfl, success⟩
    have bounds : 200 ≤ status ∧ status ≤ 299 := by
      simpa [Http.isSuccess] using success
    have kept : (ofClient (.remote status error)).status = status :=
      if_pos ⟨by omega, by omega⟩
    rw [kept]
    exact success

end Refusal

/-! ## Replies over a queue in the same process -/

namespace BoxService

theorem isSuccess_create {store : Store} {draft : BoxDraft} {id : String} {now : Moment}
    {failure : Failure} (failed : create store draft id now = .error failure) :
    Http.isSuccess (Refusal.ofFailure failure).status = false := by
  unfold create at failed
  dsimp only at failed
  split at failed
  · cases failed
  · cases failed
    exact Refusal.isSuccess_ofFault _

theorem isSuccess_addReactions {store : Store} {reactions : Reactions} {failure : Failure}
    (failed : addReactions store reactions = .error failure) :
    Http.isSuccess (Refusal.ofFailure failure).status = false := by
  unfold addReactions at failed
  split at failed
  · cases failed
  · cases answer : store.react reactions.id reactions.tallies with
    | ok later =>
        rw [answer] at failed
        cases failed
    | error fault =>
        rw [answer] at failed
        cases failed
        exact Refusal.isSuccess_ofFault fault

theorem isSuccess_readReactions {store : Store} {id : String} {failure : Failure}
    (failed : readReactions store id = .error failure) :
    Http.isSuccess (Refusal.ofFailure failure).status = false := by
  unfold readReactions at failed
  split at failed
  · cases failed
  · cases failed
    exact Refusal.isSuccess_ofFault _

theorem isSuccess_readBox {store : Store} {id : String} {failure : Failure}
    (failed : readBox store id = .error failure) :
    Http.isSuccess (Refusal.ofFailure failure).status = false := by
  unfold readBox at failed
  cases answer : store.get id with
  | ok box =>
      rw [answer] at failed
      cases failed
  | error fault =>
      rw [answer] at failed
      cases failed
      exact Refusal.isSuccess_ofFault fault

end BoxService

namespace Deployment

variable {asked : Nat → String → Prop} {fine : Nat → Http.Response → Prop}
  {deployment : Deployment}

/-- All requests that are pending were asked, each under its number and with its
method. -/
def Asked (asked : Nat → String → Prop) (deployment : Deployment) : Prop :=
  ∀ request ∈ deployment.pending, asked request.number request.method

/-- After a step all that is pending was asked, and the replies are fine. -/
structure Serves (asked : Nat → String → Prop) (fine : Nat → Http.Response → Prop)
    (result : Deployment × List Notice) : Prop where
  pending : result.1.Asked asked
  replies : ∀ number response, .replied number response ∈ result.2 → fine number response

/-- What is asked and told coherently is fine. -/
def Fair (asked : Nat → String → Prop) (fine : Nat → Http.Response → Prop) : Prop :=
  ∀ number method (said : Http.Response), asked number method → said.Coherent →
    fine number (said.forMethod method)

theorem Serves.silent (pending : deployment.Asked asked) :
    Serves asked fine (deployment, []) :=
  ⟨pending, fun _ _ seen => absurd seen List.not_mem_nil⟩

theorem Serves.reply (pending : deployment.Asked asked) {number : Nat}
    {response : Http.Response} (told : fine number response) :
    Serves asked fine (deployment, [.replied number response]) := by
  refine ⟨pending, fun other later seen => ?_⟩
  cases List.mem_singleton.1 seen
  exact told

theorem Serves.andThen {first second : Deployment × List Notice}
    (served : Serves asked fine first)
    (later : first.1.Asked asked → Serves asked fine second) :
    Serves asked fine (second.1, first.2 ++ second.2) := by
  have last := later served.pending
  refine ⟨last.pending, fun number response seen => ?_⟩
  rcases List.mem_append.1 seen with early | late
  · exact served.replies number response early
  · exact last.replies number response late

theorem Asked.without (pending : deployment.Asked asked) (number : Nat) :
    (deployment.without number).Asked asked :=
  fun request member => pending request (List.mem_filter.1 member).1

theorem Asked.await (pending : deployment.Asked asked) {request : Pending}
    (asks : asked request.number request.method) (errand : Errand) :
    (deployment.await request errand).Asked asked := by
  intro other member
  rcases List.mem_append.1 member with before | fresh
  · exact pending.without request.number other before
  · rw [List.mem_singleton.1 fresh]
    exact asks

theorem serves_answer {α : Type} [Wire α] [PlainWire α] (fair : Fair asked fine)
    (pending : deployment.Asked asked) {request : Pending}
    (asks : asked request.number request.method) {outcome : Except Failure α}
    (refused : ∀ failure, outcome = .error failure →
      Http.isSuccess (Refusal.ofFailure failure).status = false) :
    Serves asked fine (deployment.answer request outcome) :=
  .reply (pending.without request.number)
    (fair _ _ _ asks (Reply.coherent_ofOutcome_iff.2 refused))

theorem serves_absorbAnswer (fair : Fair asked fine) (pending : deployment.Asked asked)
    (call : Nat) (result : Except Fault String) :
    Serves asked fine (deployment.absorbAnswer call result) := by
  unfold absorbAnswer
  split
  · exact .silent pending
  · rename_i request found
    have asks := pending request (List.mem_of_find?_eq_some found)
    split
    · exact serves_answer fair pending asks nofun
    · refine serves_answer fair pending asks ?_
      rintro failure ⟨⟩
      exact Refusal.isSuccess_ofFault _
    · exact .silent (pending.await asks _)
    · refine serves_answer fair pending asks ?_
      rintro failure ⟨⟩
      exact Refusal.isSuccess_ofFault _
    · exact .silent pending

theorem serves_absorb (fair : Fair asked fine) (pending : deployment.Asked asked)
    (events : List Event) : Serves asked fine (deployment.absorb events) := by
  induction events generalizing deployment with
  | nil =>
      exact .silent pending
  | cons event rest inductionHypothesis =>
      have first : Serves asked fine (deployment.absorbEvent event) := by
        cases event with
        | answered call result =>
            exact serves_absorbAnswer fair pending call result
        | _ =>
            exact .silent pending
      have both := first.andThen inductionHypothesis
      rw [absorb_cons]
      refine ⟨both.pending, fun number response seen => both.replies number response ?_⟩
      rcases List.mem_cons.1 seen with event | reply
      · cases event
      · exact reply

theorem serves_stepQueue (fair : Fair asked fine) (pending : deployment.Asked asked)
    (action : Action) : Serves asked fine (deployment.stepQueue action) := by
  have moved : ({ deployment with world := (deployment.world.step action).1 } :
      Deployment).Asked asked := pending
  exact serves_absorb fair moved _

/-- A request that comes to a handler is answered coherently or waits. -/
theorem serves_beginQueueOrder (fair : Fair asked fine) (pending : deployment.Asked asked)
    {request : Pending} (asks : asked request.number request.method)
    (order : QueueOrder) :
    Serves asked fine (deployment.beginQueueOrder request order) := by
  cases order with
  | accept item =>
      have answered (later : (deployment.stepQueue (.submit item)).1.Asked asked) :
          Serves asked fine ((deployment.stepQueue (.submit item)).1.answer request
            (.ok Accepted.mk)) :=
        serves_answer fair later asks nofun
      exact (serves_stepQueue fair pending (.submit item)).andThen answered
  | draw =>
      exact serves_stepQueue fair (pending.await asks .draw) (.call request.number)

theorem serves_beginBoxOrder (fair : Fair asked fine) (pending : deployment.Asked asked)
    {request : Pending} (asks : asked request.number request.method) (freshId : String)
    (order : BoxOrder) :
    Serves asked fine (deployment.beginBoxOrder request freshId order) := by
  cases order with
  | create draft =>
      unfold beginBoxOrder
      dsimp only
      split
      · rename_i failure failed
        refine serves_answer fair pending asks ?_
        rintro other ⟨⟩
        exact BoxService.isSuccess_create failed
      · rename_i grown box created
        have told : ({ deployment with
            world := (({ deployment.world with store := grown } : World).step .cloneHandle).1
            announcements := deployment.announcements ++
              [BoxService.announcement freshId deployment.world.clock] } :
            Deployment).Asked asked := pending
        exact serves_answer fair told asks nofun
  | react reactions =>
      unfold beginBoxOrder
      dsimp only
      split
      · rename_i failure failed
        refine serves_answer fair pending asks ?_
        rintro other ⟨⟩
        exact BoxService.isSuccess_addReactions failed
      · rename_i grown added
        have stored : ({ deployment with world := { deployment.world with store := grown } } :
            Deployment).Asked asked := pending
        exact .silent (stored.await asks _)
  | view =>
      exact serves_stepQueue fair (pending.await asks .drawToView) (.call request.number)

theorem serves_readBack (fair : Fair asked fine) (pending : deployment.Asked asked)
    (number : Nat) : Serves asked fine (deployment.stepReadBack number) := by
  unfold stepReadBack
  split
  · exact .silent pending
  · rename_i request found
    have asks := pending request (List.mem_of_find?_eq_some found)
    split
    · exact serves_answer fair pending asks fun _ => BoxService.isSuccess_readBox
    · exact serves_answer fair pending asks fun _ => BoxService.isSuccess_readReactions
    · exact .silent pending

/-- A request arrives. At a handler it is fair game for the steps above; elsewhere it
has its answer at once. -/
theorem serves_arrive (fair : Fair asked fine) (pending : deployment.Asked asked)
    {number : Nat} {service : Service} {request : Http.Request} (freshId : String)
    (asks : asked number request.method)
    (elsewhere : ¬ service.Handles request → ∀ said : Http.Response,
      fine number (said.forMethod request.method)) :
    Serves asked fine (deployment.stepArrive number service request freshId) := by
  have refused (metadata : Metadata) (fault : RequestFault) :
      fine number ((Reply.ofFault metadata fault).forMethod request.method) :=
    fair _ _ _ asks
      (Reply.coherent_ofOutcome_error_iff.2 (Refusal.isSuccess_ofRequest fault))
  unfold stepArrive
  split
  · exact .silent pending
  · unfold meet
    split
    · exact .reply pending (elsewhere (fun handles => handles.1 rfl) _)
    · split
      · rename_i response beforehand
        refine .reply pending (elsewhere (fun handles => ?_) _)
        rw [handles.2] at beforehand
        cases beforehand
      · split
        · exact .reply pending (refused _ _)
        · exact serves_beginQueueOrder fair pending asks _
    · split
      · rename_i response beforehand
        refine .reply pending (elsewhere (fun handles => ?_) _)
        rw [handles.2] at beforehand
        cases beforehand
      · split
        · exact .reply pending (refused _ _)
        · exact serves_beginBoxOrder fair pending asks _ _

theorem serves_step (fair : Fair asked fine) (pending : deployment.Asked asked)
    {move : Move}
    (arrives : ∀ number service request freshId,
      move = .arrive number service request freshId →
        asked number request.method ∧
        (¬ service.Handles request → ∀ said : Http.Response,
          fine number (said.forMethod request.method)))
    (cut : ∀ number method, move = .cutOff number → asked number method →
      fine number (Reply.cutOff.forMethod method)) :
    Serves asked fine (deployment.step move) := by
  cases move with
  | arrive number service request freshId =>
      obtain ⟨asks, elsewhere⟩ := arrives number service request freshId rfl
      exact serves_arrive fair pending freshId asks elsewhere
  | readBack number =>
      exact serves_readBack fair pending number
  | cutOff number =>
      simp only [step, stepCutOff]
      split
      · exact .silent pending
      · rename_i request found
        have asks := pending request (List.mem_of_find?_eq_some found)
        have same : request.number = number := by
          simpa using List.find?_some found
        rw [same] at asks
        have abandoned : (deployment.abandon number).Asked asked := pending.without number
        exact .reply abandoned (cut number _ rfl asks)
  | leave number =>
      simp only [step, stepLeave]
      split
      · exact .silent pending
      · have abandoned : (deployment.abandon number).Asked asked := pending.without number
        exact .silent abandoned
  | announce position =>
      simp only [step, stepAnnounce]
      split
      · exact .silent pending
      · rename_i item found
        have told : ({ deployment with
            announcements := deployment.announcements.eraseIdx position } :
            Deployment).Asked asked := pending
        exact (serves_stepQueue fair told (.submit item)).andThen fun later =>
          serves_stepQueue fair later .dropHandle
  | queue action =>
      exact serves_stepQueue fair pending action

theorem serves_run (fair : Fair asked fine) (pending : deployment.Asked asked)
    (moves : List Move)
    (arrives : ∀ number service request freshId,
      .arrive number service request freshId ∈ moves →
        asked number request.method ∧
        (¬ service.Handles request → ∀ said : Http.Response,
          fine number (said.forMethod request.method)))
    (cut : ∀ number method, .cutOff number ∈ moves → asked number method →
      fine number (Reply.cutOff.forMethod method)) :
    Serves asked fine (deployment.run moves) := by
  induction moves generalizing deployment with
  | nil =>
      exact .silent pending
  | cons move rest inductionHypothesis =>
      have first : Serves asked fine (deployment.step move) := by
        refine serves_step fair pending ?_ ?_
        · rintro number service request freshId rfl
          exact arrives number service request freshId List.mem_cons_self
        · rintro number method rfl
          exact cut number method List.mem_cons_self
      exact first.andThen fun later => inductionHypothesis later
        (fun number service request freshId member =>
          arrives number service request freshId (List.mem_cons_of_mem move member))
        (fun number method member => cut number method (List.mem_cons_of_mem move member))

/-- In a run every reply is one to a request that arrived, for its method. If the
request came to a handler, its reply is coherent or the request was cut off. -/
theorem exists_request_of_replied (world : World) (moves : List Move) {number : Nat}
    {response : Http.Response}
    (seen : .replied number response ∈ ((ofWorld world).run moves).2) :
    ∃ service request freshId said, .arrive number service request freshId ∈ moves ∧
      response = said.forMethod request.method ∧
      (service.Handles request →
        said.Coherent ∨ (said = Reply.cutOff ∧ .cutOff number ∈ moves)) := by
  let asked (number : Nat) (method : String) : Prop :=
    ∃ service request freshId, .arrive number service request freshId ∈ moves ∧
      request.method = method
  let fine (number : Nat) (response : Http.Response) : Prop :=
    ∃ service request freshId said, .arrive number service request freshId ∈ moves ∧
      response = said.forMethod request.method ∧
      (service.Handles request →
        said.Coherent ∨ (said = Reply.cutOff ∧ .cutOff number ∈ moves))
  have fair : Fair asked fine := by
    rintro number method said ⟨service, request, freshId, member, rfl⟩ coherent
    exact ⟨service, request, freshId, said, member, rfl, fun _ => Or.inl coherent⟩
  have nothing : (ofWorld world).Asked asked := nofun
  refine (serves_run fair nothing moves ?_ ?_).replies number response seen
  · intro number service request freshId member
    exact ⟨⟨service, request, freshId, member, rfl⟩, fun elsewhere said =>
      ⟨service, request, freshId, said, member, rfl, fun handles =>
        absurd handles elsewhere⟩⟩
  · rintro number method cutOff ⟨service, request, freshId, member, rfl⟩
    exact ⟨service, request, freshId, Reply.cutOff, member, rfl, fun _ =>
      Or.inr ⟨rfl, cutOff⟩⟩

end Deployment

/-! ## Replies over any link -/

/-- The exchange brings an error with the status of a success. -/
def Exchange.Contradictory : Exchange → Prop
  | .failed _ _ => False
  | .replied status body =>
      Http.isSuccess status = true ∧
        ∃ error, (Wire.ofBytes? body : Option (Envelope Drawn)).bind Envelope.error =
          some error

/-- An error in an envelope is passed on, whatever the status. -/
theorem QueueClient.readDraw_of_error {client : QueueClient} {status : Nat}
    {body : List UInt8} {error : ErrorBody}
    (told : (Wire.ofBytes? body : Option (Envelope Drawn)).bind Envelope.error =
      some error) :
    client.readDraw (.replied status body) = .error (.remote status error) := by
  simp only [readDraw, read, told]
  rfl

theorem QueueClient.readDraw_ne_remote {client : QueueClient} {status : Nat}
    {body : List UInt8}
    (untold : (Wire.ofBytes? body : Option (Envelope Drawn)).bind Envelope.error = none)
    (other : Nat) (error : ErrorBody) :
    client.readDraw (.replied status body) ≠ .error (.remote other error) := by
  simp only [readDraw, read, untold]
  cases Http.isSuccess status with
  | false =>
      nofun
  | true =>
      rw [if_pos rfl]
      cases (Wire.ofBytes? body : Option (Envelope Drawn)) with
      | none =>
          nofun
      | some envelope =>
          cases result : envelope.result with
          | none =>
              simp [result, Except.map]
          | some drawn =>
              simp [result, Except.map]

/-- A failed draw is told as a success only if the exchange contradicts itself. -/
theorem QueueClient.isSuccess_readDraw_iff {client : QueueClient} {exchange : Exchange} :
    (∃ fault, client.readDraw exchange = .error fault ∧
      Http.isSuccess (Refusal.ofClient fault).status = true) ↔ exchange.Contradictory := by
  constructor
  · rintro ⟨fault, failed, success⟩
    obtain ⟨status, error, rfl, claimed⟩ := Refusal.isSuccess_ofClient_iff.1 success
    cases exchange with
    | failed timedOut reason =>
        cases failed
    | replied claim body =>
        cases told : (Wire.ofBytes? body : Option (Envelope Drawn)).bind Envelope.error with
        | none =>
            exact absurd failed (readDraw_ne_remote told status error)
        | some said =>
            rw [readDraw_of_error told] at failed
            cases failed
            exact ⟨claimed, _, told⟩
  · intro contradictory
    cases exchange with
    | failed timedOut reason =>
        exact contradictory.elim
    | replied status body =>
        obtain ⟨claimed, error, told⟩ := contradictory
        exact ⟨_, readDraw_of_error told,
          Refusal.isSuccess_ofClient_iff.2 ⟨status, error, rfl, claimed⟩⟩

namespace Desk

/-- What a box service answers is coherent, unless it was to view a box and its queue
could not be asked for a reason that is told as a success. -/
theorem coherent_fulfil_iff (link : Link) (desk : Desk) (occasion : Occasion)
    (metadata : Metadata) (order : BoxOrder) :
    (desk.fulfil link occasion metadata order).2.Coherent ↔
      ¬ (order = .view ∧ ∃ fault, (link.draw desk.world occasion).2 = .error fault ∧
        Http.isSuccess (Refusal.ofClient fault).status = true) := by
  cases order with
  | create draft =>
      refine iff_of_true ?_ nofun
      unfold fulfil
      dsimp only
      split
      · rename_i failure failed
        change (Reply.ofOutcome metadata
          (.error failure : Except Failure MessageBox)).Coherent
        exact Reply.coherent_ofOutcome_error_iff.2 (BoxService.isSuccess_create failed)
      · exact Reply.coherent_ofOutcome_ok metadata _
  | react reactions =>
      refine iff_of_true ?_ nofun
      unfold fulfil
      dsimp only
      split
      · rename_i failure failed
        change (Reply.ofOutcome metadata
          (.error failure : Except Failure Reactions)).Coherent
        exact Reply.coherent_ofOutcome_error_iff.2 (BoxService.isSuccess_addReactions failed)
      · exact Reply.coherent_ofOutcome_iff.2 fun _ => BoxService.isSuccess_readReactions
  | view =>
      have drawn : (desk.fulfil link occasion metadata .view).2 =
          Reply.ofOutcome metadata
            (((link.draw desk.world occasion).2.mapError Failure.client).bind
              (BoxService.readBox (link.draw desk.world occasion).1.store)) := rfl
      rw [drawn, Reply.coherent_ofOutcome_iff]
      cases asked : (link.draw desk.world occasion).2 with
      | ok id =>
          refine iff_of_true (fun failure => BoxService.isSuccess_readBox) ?_
          rintro ⟨_, fault, ⟨⟩, _⟩
      | error fault =>
          constructor
          · rintro refused ⟨_, other, ⟨⟩, success⟩
            have failure := refused (.client fault) rfl
            rw [Refusal.ofFailure, success] at failure
            cases failure
          · rintro truthful failure ⟨⟩
            refine Bool.eq_false_iff.2 fun success => ?_
            exact truthful ⟨rfl, fault, rfl, success⟩

theorem coherent_answer_iff (link : Link) (desk : Desk) (occasion : Occasion)
    {request : Http.Request} (handled : Reply.beforehand? request = none) :
    ∃ said : Http.Response,
      (desk.answer link occasion request).2 = said.forMethod request.method ∧
      (said.Coherent ↔ ¬ ((BoxOrder.ofRequest request).outcome = .ok .view ∧
        ∃ fault, (link.draw desk.world occasion).2 = .error fault ∧
          Http.isSuccess (Refusal.ofClient fault).status = true)) := by
  unfold answer
  rw [handled]
  cases checked : BoxOrder.ofRequest request with
  | mk metadata outcome =>
      cases outcome with
      | error fault =>
          refine ⟨Reply.ofFault metadata fault, rfl, iff_of_true ?_ nofun⟩
          exact Reply.coherent_ofOutcome_error_iff.2 (Refusal.isSuccess_ofRequest fault)
      | ok order =>
          refine ⟨(desk.fulfil link occasion metadata order).2, rfl, ?_⟩
          have coherent := coherent_fulfil_iff link desk occasion metadata order
          simpa using coherent

end Desk

/-- Whoever asks the queue service or the box service is told with a status that fits
the envelope, and so it is over any queue service that is asked, whatever becomes of the
request to it. Only if that service tells of an error with the status of a success does
the box service do the same when it is asked to view a box. -/
theorem reply_coherent_iff (world : World) (moves : List Move) (client : QueueClient)
    (transport : Transport) (desk : Desk) (occasion : Occasion) :
    (∀ number response,
      .replied number response ∈ ((Deployment.ofWorld world).run moves).2 →
        ∃ service request freshId said, .arrive number service request freshId ∈ moves ∧
          response = said.forMethod request.method ∧
          (service.Handles request →
            said.Coherent ∨ (said = Reply.cutOff ∧ .cutOff number ∈ moves))) ∧
    (∀ request, Service.box.Handles request →
      ∃ said : Http.Response,
        (Desk.answer (Link.remote client transport) desk occasion request).2 =
          said.forMethod request.method ∧
        (said.Coherent ↔ ¬ ((BoxOrder.ofRequest request).outcome = .ok .view ∧
          (transport desk.world occasion QueueClient.drawRequest).2.Contradictory))) := by
  constructor
  · intro number response
    exact Deployment.exists_request_of_replied world moves
  · intro request handled
    obtain ⟨said, answered, coherent⟩ :=
      Desk.coherent_answer_iff (Link.remote client transport) desk occasion handled.2
    have drawn : ((Link.remote client transport).draw desk.world occasion).2 =
        client.readDraw (transport desk.world occasion QueueClient.drawRequest).2 := rfl
    rw [drawn, QueueClient.isSuccess_readDraw_iff] at coherent
    exact ⟨said, answered, coherent⟩

/-- A notice brings a response only as a reply. -/
theorem Notice.eq_of_responseTo? {number : Nat} {notice : Notice}
    {response : Http.Response} (brings : notice.responseTo? number = some response) :
    notice = .replied number response := by
  unfold responseTo? at brings
  split at brings
  · split at brings
    · rename_i same
      cases brings
      rw [same]
    · cases brings
  · cases brings

/-- A queue service that is not ready, and says so with the status of a success. -/
def Transport.overclaiming : Transport := fun world _ _ =>
  (world, .replied 200 (Text.Utf8.encode (Wire.print (⟨⟨"Dequeue", apiVersion⟩, none,
    some ⟨"ServiceUnavailable", Fault.notReady.message, NameMap.empty⟩⟩ :
      Envelope Drawn)).toList))

/-- A box service at its desk, with one box in the store. -/
def Desk.overOneBox : Desk := ⟨Deployment.overOneBox.world, []⟩

theorem reply_coherent_iff_createdAndViewed :
    (∃ response,
      .replied 1 response ∈ (Deployment.overOneBox.run Deployment.createdAndViewed).2 ∧
        response.Coherent) ∧
    Service.box.Handles Deployment.requestToView ∧
    (Desk.overOneBox.answer (Link.remote ⟨"http://queue"⟩ Transport.unreachable) ⟨0, 0, "b"⟩
      Deployment.requestToView).2.Coherent := by
  have handles : Service.box.Handles Deployment.requestToView := ⟨nofun, by decide +kernel⟩
  have answered : ((Deployment.overOneBox.run Deployment.createdAndViewed).2.findSome?
      (Notice.responseTo? 1)).isSome = true := by
    decide +kernel
  obtain ⟨response, last⟩ := Option.isSome_iff_exists.1 answered
  obtain ⟨notice, seen, brings⟩ := List.exists_of_findSome?_eq_some last
  rw [Notice.eq_of_responseTo? brings] at seen
  obtain ⟨direct, remote⟩ := reply_coherent_iff Deployment.overOneBox.world
    Deployment.createdAndViewed ⟨"http://queue"⟩ Transport.unreachable Desk.overOneBox
    ⟨0, 0, "b"⟩
  refine ⟨⟨response, seen, ?_⟩, handles, ?_⟩
  · obtain ⟨service, request, freshId, said, arrived, rfl, coherent⟩ :=
      direct 1 response seen
    obtain ⟨rfl, rfl, rfl⟩ : service = .box ∧ request = Deployment.requestToView ∧
        freshId = "" := by
      simpa [Deployment.createdAndViewed] using arrived
    rcases coherent handles with coherent | ⟨_, cutOff⟩
    · exact coherent
    · simp [Deployment.createdAndViewed] at cutOff
  · obtain ⟨said, answered, coherent⟩ := remote Deployment.requestToView handles
    rw [answered]
    refine coherent.2 fun contradicted => contradicted.2

/-- The box service, too, then says with the status of a success that the queue is not
ready. -/
theorem error_told_as_success :
    let response := (Desk.overOneBox.answer
      (Link.remote ⟨"http://queue"⟩ Transport.overclaiming) ⟨0, 0, "b"⟩
      Deployment.requestToView).2
    Service.box.Handles Deployment.requestToView ∧ response.status = 200 ∧
      Wire.ofText? response.body =
        some (⟨⟨"ViewBox", apiVersion⟩, none,
          some ⟨"ServiceUnavailable", Fault.notReady.message, NameMap.empty⟩⟩ :
            Envelope Json) ∧
      ¬ response.Coherent := by
  have handles : Service.box.Handles Deployment.requestToView := ⟨nofun, by decide +kernel⟩
  have passedOn : (Desk.overOneBox.answer
      (Link.remote ⟨"http://queue"⟩ Transport.overclaiming) ⟨0, 0, "b"⟩
      Deployment.requestToView).2 =
      Reply.ofOutcome ⟨"ViewBox", apiVersion⟩ (.error (.client (.remote 200
        ⟨"ServiceUnavailable", Fault.notReady.message, NameMap.empty⟩)) :
        Except Failure MessageBox) := by
    decide +kernel
  intro response
  have incoherent : ¬ response.Coherent := by
    rw [show response = _ from passedOn, Reply.coherent_ofOutcome_error_iff]
    nofun
  refine ⟨handles, congrArg Http.Response.status passedOn, ?_, incoherent⟩
  rw [show response = _ from passedOn]
  exact Envelope.ofText?_print_json nofun nofun

end StalestFirst
