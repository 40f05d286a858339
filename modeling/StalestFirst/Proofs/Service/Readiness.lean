import Mathlib
import StalestFirst.Proofs.Queue.Gate
import StalestFirst.Proofs.Service.Checks

namespace StalestFirst.Deployment

/-! ## Services before and after the queue is ready -/

variable {deployment : Deployment}

theorem queue_mem_iff {notices : List Notice} {event : Event} :
    .queue event ∈ notices ↔ event ∈ notices.filterMap Notice.event? := by
  rw [List.mem_filterMap]
  constructor
  · exact fun member => ⟨.queue event, member, rfl⟩
  · rintro ⟨notice, member, told⟩
    cases notice with
    | replied number response =>
        cases told
    | queue other =>
        cases told
        exact member

theorem gated_of_run (settings : QueueSettings) (store : Store) (clock : Moment)
    (moves : List Move) :
    ((ofWorld (World.start settings store clock)).run moves).1.world.Gated
      (((ofWorld (World.start settings store clock)).run moves).2.filterMap Notice.event?) := by
  obtain ⟨actions, drives, _⟩ :=
    exists_drives_run (ofWorld (World.start settings store clock)) moves
  rw [drives.world, drives.events]
  exact World.gated_run settings store clock actions

theorem installed_iff {notices : List Notice} :
    Event.Installed (notices.filterMap Notice.event?) ↔
      ∃ number listing, .queue (.installed number listing) ∈ notices := by
  simp only [Event.Installed, queue_mem_iff]

theorem without_of_free {number : Nat} (free : deployment.isTaken number = false) :
    deployment.without number = deployment := by
  have absent : ∀ request ∈ deployment.pending, request.number ≠ number := by
    simpa [isTaken, pending?] using (Bool.or_eq_false_iff.1 free).1
  have kept : deployment.pending.filter (fun request => request.number != number) =
      deployment.pending := by
    rw [List.filter_eq_self]
    intro request member
    simpa using absent request member
  rw [without, kept]

/-- A queue that is not ready refuses what is submitted, and nothing changes. -/
theorem stepQueue_submit (closed : deployment.world.ready = false) (item : Item) :
    deployment.stepQueue (.submit item) =
      (deployment, if deployment.world.handles = 0 then [] else [.queue (.refused item)]) := by
  by_cases none : deployment.world.handles = 0
  · simp [stepQueue, World.step, World.stepSubmit, none, absorb]
  · simp [stepQueue, World.step, World.stepSubmit, none, closed, absorb]

theorem sync_of_closed (closed : deployment.world.ready = false) {number : Nat}
    (free : deployment.isTaken number = false) {request : Http.Request}
    (handled : Service.queue.Handles request)
    (passes : ∀ check : Check, check.Passes .queue request)
    (asks : request.AsksFor .queue .sync) (freshId : String) :
    (deployment.step (.arrive number .queue request freshId)).1 = deployment ∧
      .replied number ((Reply.ofOutcome request.metadata
        (.ok Accepted.mk : Except Failure Accepted)).forMethod request.method) ∈
          (deployment.step (.arrive number .queue request freshId)).2 := by
  obtain ⟨outcome, checked, judges⟩ :=
    check_of_asksFor (reads_queue request) (passes .query) asks
  obtain ⟨order, rfl, meets⟩ := judges.order (passes .contentType _ asks) (passes .body _ asks)
    (passes .identifier _ asks)
  cases order with
  | draw =>
      cases meets
  | accept item =>
      have ordered : QueueOrder.ofRequest request = ⟨request.metadata, .ok (.accept item)⟩ :=
        checked
      have told : (deployment.step (.arrive number .queue request freshId)) =
          (deployment.without number, (deployment.stepQueue (.submit item)).2 ++
            [.replied number ((Reply.ofOutcome request.metadata
              (.ok Accepted.mk : Except Failure Accepted)).forMethod request.method)]) := by
        simp only [step, stepArrive, free, meet, handled.2, ordered, beginQueueOrder,
          stepQueue_submit closed, answer]
        rfl
      rw [told]
      exact ⟨without_of_free free, List.mem_append_right _ (List.mem_singleton_self _)⟩

theorem health_step {number : Nat} (free : deployment.isTaken number = false)
    {request : Http.Request} (gets : request.method = "GET")
    (asksHealth : request.target.path = Http.asciiBytes "/healthz") (freshId : String) :
    deployment.step (.arrive number .telemetry request freshId) =
      (deployment, [.replied number
        (if deployment.world.ready then .text 200 "ok"
          else .text 500 "queue: queue is not ready")]) := by
  have failure : ∀ ready, (Health.standard.withQueue ready).firstFailure =
      if ready then none else some "queue: queue is not ready" := by
    decide +kernel
  simp only [step, stepArrive, free, meet, Reply.ofHealth, asksHealth, gets, health, failure]
  cases deployment.world.ready with
  | true => rfl
  | false => rfl

/-- In every run, whatever is asked of the services and whatever happens to the queue:
before some rebuild has installed its listing the queue is not ready, its pool and its
buffer are empty, and it remembers no served box. As long as it is not ready it has no item
and no retrieval under way, refuses every item, fails every retrieval at once and without
the store, and accepts an item over the wire without any effect. It is ready only when a
listing was installed, and then unless that has not been announced yet. Then it stays
ready, and fails no retrieval for not being so. The health page tells at any time whether
the queue is ready. -/
theorem readiness_gate (settings : QueueSettings) (store : Store) (clock : Moment)
    (moves : List Move) :
    let first := ofWorld (World.start settings store clock)
    let last := (first.run moves).1
    let seen := (first.run moves).2
    ((∀ number listing, .queue (.installed number listing) ∉ seen) →
      last.world.ready = false ∧ last.world.shelf = .empty ∧ last.world.buffer = []) ∧
    (last.world.ready = false →
      last.world.Untouched ∧
      (∀ item, last.world.handles ≠ 0 →
        last.step (.queue (.submit item)) = (last, [.queue (.refused item)])) ∧
      (∀ call, last.world.handles ≠ 0 →
        last.world.step (.call call) =
          (last.world, [.answered call (.error .notReady)])) ∧
      ∀ number request freshId, last.isTaken number = false →
        Service.queue.Handles request → (∀ check : Check, check.Passes .queue request) →
        request.AsksFor .queue .sync →
          (last.step (.arrive number .queue request freshId)).1 = last ∧
            .replied number ((Reply.ofOutcome request.metadata
              (.ok Accepted.mk : Except Failure Accepted)).forMethod request.method) ∈
                (last.step (.arrive number .queue request freshId)).2) ∧
    (last.world.ready = true ∨ last.world.Swapped ↔
      ∃ number listing, .queue (.installed number listing) ∈ seen) ∧
    (last.world.ready = true → ∀ more,
      (last.run more).1.world.ready = true ∧
        ∀ call, .queue (.answered call (.error .notReady)) ∉ (last.run more).2) ∧
    ∀ number (request : Http.Request) freshId, last.isTaken number = false →
      request.method = "GET" → request.target.path = Http.asciiBytes "/healthz" →
        last.step (.arrive number .telemetry request freshId) =
          (last, [.replied number
            (if last.world.ready then .text 200 "ok"
              else .text 500 "queue: queue is not ready")]) := by
  intro first last seen
  have gated : last.world.Gated (seen.filterMap Notice.event?) :=
    gated_of_run settings store clock moves
  refine ⟨fun uninstalled => ?_, fun closed => ⟨gated.untouched closed, fun item held => ?_,
    fun call held => ?_, fun number request freshId free handled passes asks =>
      sync_of_closed closed free handled passes asks freshId⟩,
    ⟨fun opened => installed_iff.1 (gated.earlier opened),
      fun installed => gated.opens (installed_iff.2 installed)⟩, fun ready more => ?_,
    fun number request freshId free gets asksHealth =>
      health_step free gets asksHealth freshId⟩
  · have none : ¬ Event.Installed (seen.filterMap Notice.event?) := by
      rw [installed_iff]
      rintro ⟨number, listing, installed⟩
      exact uninstalled number listing installed
    have closed : last.world.ready = false := by
      rw [← Bool.not_eq_true]
      exact fun ready => none (gated.earlier (Or.inl ready))
    have untouched := gated.untouched closed
    have shelf : last.world.shelf = ⟨last.world.shelf.pool, last.world.shelf.lastServed⟩ := rfl
    rw [gated.empty none, untouched.noneServed] at shelf
    exact ⟨closed, shelf, (List.append_eq_nil_iff.1 untouched.noItems).2⟩
  · rw [step, stepQueue_submit closed, if_neg held]
  · have noCall : last.world.calling call = false := by
      simp [World.calling, (gated.untouched closed).noneWait, (gated.untouched closed).free]
    simp [World.step, World.stepCall, held, noCall, closed]
  · obtain ⟨actions, drives, _⟩ := exists_drives_run last more
    refine ⟨?_, fun call => ?_⟩
    · rw [drives.world]
      exact World.ready_run ready actions
    · rw [queue_mem_iff, drives.events]
      exact World.notReady_unseen_run ready actions call

end StalestFirst.Deployment
