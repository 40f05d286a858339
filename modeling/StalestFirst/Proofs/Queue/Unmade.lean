import Mathlib
import StalestFirst.Proofs.Pool
import StalestFirst.Proofs.Queue.Callers
import StalestFirst.Proofs.Queue.Exclusion

namespace StalestFirst

/-! ## As if a call had not been made

A call that is given up, or fails for another reason than a missing box, leaves no
trace. What the others do meanwhile is what they would have done without it, but for
those steps that they could not take while the call had the shelf. -/

/-- The step is one of a call. -/
def Action.isOf (call : Nat) : Action → Bool
  | .call other | .enter other _ | .record other | .expire other | .abandon other =>
      other == call
  | _ => false

/-- The event answers a call. -/
def Event.isTo (call : Nat) : Event → Bool
  | .answered other _ => other == call
  | _ => false

/-- The event tells that the store has recorded the view of a call, or that it does not
know the box of the call. -/
def Event.Settles (call : Nat) : Event → Prop
  | .answered other (.ok _) | .answered other (.error (.boxNotFound _)) => other = call
  | _ => False

/-- What became of the shelf, and what the caller is told, is what the store said of
the view of the chosen box: only the entry of that box may differ. -/
def Shelf.Settled (shelf : Shelf) (id : String) (viewedAt : Moment)
    (outcome : Except Fault Unit) (next : Shelf) (answer : Except Fault String) : Prop :=
  (∀ other, other ≠ id → next.pool.get? other = shelf.pool.get? other) ∧
    match outcome with
    | .ok _ =>
        next.pool.get? id = some viewedAt.score ∧ next.lastServed = some id ∧ answer = .ok id
    | .error (.boxNotFound _) =>
        next.pool.get? id = none ∧ next.lastServed = shelf.lastServed ∧
          answer = .error (.boxNotFound id)
    | .error fault =>
        next = shelf ∧ answer = .error fault

/-- The store has one more view of a box if it says so, and is the same if not. -/
def Store.Settled (store : Store) (id : String) (viewedAt : Moment)
    (outcome : Except Fault Unit) (next : Store) : Prop :=
  match outcome with
  | .ok _ =>
      (∃ stored, store.boxes.get? id = some stored ∧
        next.boxes.get? id = some (stored.withView viewedAt)) ∧
      (∀ other, other ≠ id → next.boxes.get? other = store.boxes.get? other) ∧
      next.offline = store.offline
  | .error _ =>
      next = store

theorem Shelf.settled_conclude (shelf : Shelf) (id : String) (viewedAt : Moment)
    (outcome : Except Fault Unit) :
    shelf.Settled id viewedAt outcome (shelf.conclude id viewedAt outcome)
      (verdict id outcome) := by
  cases outcome with
  | ok _ =>
      refine ⟨fun other another => ?_, ?_, rfl, rfl⟩
      · rw [conclude, serve, Pool.get?_upsert, if_neg another.symm]
      · rw [conclude, serve, Pool.get?_upsert, if_pos rfl]
  | error fault =>
      cases fault with
      | boxNotFound missing =>
          refine ⟨fun other another => ?_, ?_, rfl, rfl⟩
          · rw [conclude, discard, Pool.get?_erase, if_neg another.symm]
          · rw [conclude, discard, Pool.get?_erase, if_pos rfl]
      | _ =>
          exact ⟨fun other _ => rfl, rfl, rfl⟩

theorem Store.settled_recordView (store : Store) (id : String) (viewedAt : Moment) :
    store.Settled id viewedAt ((store.recordView id viewedAt).map fun _ => ())
      ((store.recordView id viewedAt).toOption.getD store) := by
  have recording := store.recording id viewedAt
  generalize store.recordView id viewedAt = result at recording ⊢
  cases recording with
  | @recorded stored found =>
      refine ⟨⟨stored, found, ?_⟩, fun other another => ?_, rfl⟩
      · simp [Except.toOption, put]
      · simp [Except.toOption, put, another.symm]
  | missing absent =>
      rfl
  | unreachable =>
      rfl

namespace World

variable {world : World} {call : Nat}

/-- Whether a step cannot be taken as long as a call goes on. -/
def holdsUp (world : World) (call : Nat) : Action → Bool
  | .enter _ _ | .apply | .install _ => world.visit.any fun visit => visit.call == call
  | .stop => world.calling call && !world.cancelled
  | _ => false

/-- The steps of a run but for those of a call and those that it holds up. -/
def unhinderedBy (world : World) (call : Nat) : List Action → List Action
  | [] => []
  | action :: rest =>
      let later := (world.step action).1.unhinderedBy call rest
      if action.isOf call || world.holdsUp call action then later else action :: later

theorem visit_withoutCall (elsewhere : (world.visit.any fun visit => visit.call == call) = false) :
    (world.withoutCall call).visit = world.visit := by
  cases guarded : world.visit with
  | none =>
      simp [withoutCall, guarded]
  | some visit =>
      rw [guarded, Option.any_some] at elsewhere
      simp [withoutCall, guarded, Option.filter, bne, elsewhere]

theorem withoutCall_of_not_calling (absent : world.calling call = false) :
    world.withoutCall call = world := by
  rw [calling, Bool.or_eq_false_iff] at absent
  have sameWaiting : world.waiting.filter (· != call) = world.waiting := by
    rw [List.filter_eq_self]
    intro other member
    rw [bne_iff_ne]
    rintro rfl
    simp [member] at absent
  have sameVisit : (world.visit.filter fun visit => visit.call != call) = world.visit :=
    visit_withoutCall absent.2
  rw [withoutCall, sameWaiting, sameVisit]

theorem contains_withoutCall {other : Nat} (another : other ≠ call) :
    (world.withoutCall call).waiting.contains other = world.waiting.contains other := by
  rw [Bool.eq_iff_iff]
  simp [withoutCall, another]

theorem calling_withoutCall {other : Nat} (another : other ≠ call) :
    (world.withoutCall call).calling other = world.calling other := by
  rw [calling, calling, contains_withoutCall another]
  cases guarded : world.visit with
  | none =>
      simp [withoutCall, guarded]
  | some visit =>
      by_cases ofCall : visit.call = call
      · have notOther : visit.call ≠ other := by
          rw [ofCall]
          exact another.symm
        simp [withoutCall, guarded, Option.filter, ofCall, another.symm]
      · simp [withoutCall, guarded, Option.filter, ofCall]

theorem withoutCall_comm (world : World) (call other : Nat) :
    (world.withoutCall call).withoutCall other =
      (world.withoutCall other).withoutCall call := by
  simp only [withoutCall, List.filter_filter, Option.filter_filter, Bool.and_comm]

/-! ## One step -/

/-- Whoever goes on has not left the queue. -/
theorem not_deserted_of_calling (goesOn : world.calling call = true) :
    world.deserted = false := by
  rw [calling, Bool.or_eq_true] at goesOn
  cases deserted : world.deserted with
  | false =>
      rfl
  | true =>
      simp only [World.deserted, Bool.and_eq_true, List.isEmpty_iff,
        Option.isNone_iff_eq_none] at deserted
      simp [deserted] at goesOn

theorem step_of_holdsUp {action : Action} (heldUp : world.holdsUp call action = true) :
    world.step action = (world, []) := by
  have guarded_of_any (any : (world.visit.any fun visit => visit.call == call) = true) :
      ∃ visit, world.visit = some visit := by
    cases present : world.visit with
    | none =>
        rw [present] at any
        cases any
    | some visit =>
        exact ⟨visit, rfl⟩
  cases action with
  | enter other number =>
      obtain ⟨visit, guarded⟩ := guarded_of_any heldUp
      simp [step, stepEnter, guarded]
  | apply =>
      obtain ⟨visit, guarded⟩ := guarded_of_any heldUp
      simp only [step, stepApply, guarded]
      split
      · rfl
      · rfl
  | install number =>
      obtain ⟨visit, guarded⟩ := guarded_of_any heldUp
      simp only [step, stepInstall, guarded]
  | stop =>
      simp only [holdsUp, Bool.and_eq_true, Bool.not_eq_true'] at heldUp
      have notDeserted := not_deserted_of_calling heldUp.1
      simp only [step, stepStop, heldUp.2, notDeserted]
      split
      · rfl
      · rfl
  | _ =>
      cases heldUp

/-! ### Steps of other calls -/

section

variable {other : Nat} (another : other ≠ call)

include another

theorem call_of_other :
    (world.withoutCall call).stepCall other =
      ((world.stepCall other).1.withoutCall call, (world.stepCall other).2) := by
  have sameHandles : (world.withoutCall call).handles = world.handles := rfl
  have sameReady : (world.withoutCall call).ready = world.ready := rfl
  have joins : (world.waiting ++ [other]).filter (· != call) =
      world.waiting.filter (· != call) ++ [other] := by
    simp [another]
  simp only [stepCall, calling_withoutCall another, sameHandles, sameReady]
  split
  · rfl
  · split
    · simp only [withoutCall, joins]
    · rfl

theorem enter_of_other (number : Nat)
    (free : (world.visit.any fun visit => visit.call == call) = false) :
    (world.withoutCall call).stepEnter other number =
      ((world.stepEnter other number).1.withoutCall call,
        (world.stepEnter other number).2) := by
  have sameShelf : (world.withoutCall call).shelf = world.shelf := rfl
  have sameWindow : (world.withoutCall call).window = world.window := rfl
  simp only [stepEnter, contains_withoutCall another, visit_withoutCall free, sameShelf,
    sameWindow]
  split
  · rfl
  · split
    · rw [withoutCall_comm]
    · simp [withoutCall, Option.filter, another, List.filter_filter, Bool.and_comm]

theorem record_of_other :
    (world.withoutCall call).stepRecord other =
      ((world.stepRecord other).1.withoutCall call, (world.stepRecord other).2) := by
  cases guarded : world.visit with
  | none =>
      simp [stepRecord, withoutCall, guarded]
  | some visit =>
      by_cases ofCall : visit.call = call
      · simp [stepRecord, withoutCall, guarded, Option.filter, ofCall, another.symm]
      · have present : (world.withoutCall call).visit = some visit := by
          simp [withoutCall, guarded, Option.filter, ofCall]
        simp only [stepRecord, guarded, present]
        split
        · rfl
        · rfl

theorem expire_of_other :
    (world.withoutCall call).stepExpire other =
      ((world.stepExpire other).1.withoutCall call, (world.stepExpire other).2) := by
  simp only [stepExpire, calling_withoutCall another, withoutCall_comm world call other]
  split
  · rfl
  · rfl

end

/-! ### Steps of the loop and of rebuilds -/

/-- A loop that is not cancelled stops only when no call is going on. -/
theorem stop_of_other (free : world.holdsUp call .stop = false) :
    (world.withoutCall call).stepStop =
      (world.stepStop.1.withoutCall call, world.stepStop.2) := by
  cases goesOn : world.calling call with
  | false =>
      have alone : world.stepStop.1.calling call = false := by
        simp only [stepStop, endLoop]
        split
        · split
          · exact goesOn
          · split
            · exact goesOn
            · exact goesOn
        · exact goesOn
      rw [withoutCall_of_not_calling goesOn, withoutCall_of_not_calling alone]
  | true =>
      have cancelled : world.cancelled = true := by
        simpa [holdsUp, goesOn] using free
      have sameCancelled : (world.withoutCall call).cancelled = world.cancelled := rfl
      have sameLoop : (world.withoutCall call).loop = world.loop := rfl
      simp only [stepStop, sameLoop, sameCancelled, cancelled]
      split
      · rfl
      · rfl

theorem step_of_other {action : Action} (notOwn : action.isOf call = false)
    (free : world.holdsUp call action = false) :
    (world.withoutCall call).step action =
      ((world.step action).1.withoutCall call, (world.step action).2) := by
  have sameHandles : (world.withoutCall call).handles = world.handles := rfl
  have sameReady : (world.withoutCall call).ready = world.ready := rfl
  have sameBuffer : (world.withoutCall call).buffer = world.buffer := rfl
  have sameCancelled : (world.withoutCall call).cancelled = world.cancelled := rfl
  have sameLoop : (world.withoutCall call).loop = world.loop := rfl
  have sameNow : (world.withoutCall call).now = world.now := rfl
  have sameOpening : (world.withoutCall call).receiving = world.receiving := rfl
  have sameCapacity : (world.withoutCall call).capacity = world.capacity := rfl
  have sameRebuild (number : Nat) :
      (world.withoutCall call).rebuild? number = world.rebuild? number := rfl
  have samePause (outcome : Outcome) :
      (world.withoutCall call).pause outcome = world.pause outcome := rfl
  cases action with
  | call other =>
      exact call_of_other (by simpa [Action.isOf] using notOwn)
  | enter other number =>
      exact enter_of_other (by simpa [Action.isOf] using notOwn) number free
  | record other =>
      exact record_of_other (by simpa [Action.isOf] using notOwn)
  | expire other =>
      exact expire_of_other (by simpa [Action.isOf] using notOwn)
  | abandon other =>
      simp only [step, withoutCall_comm world call other]
  | submit item =>
      simp only [step, stepSubmit, sameHandles, sameReady, sameOpening, sameBuffer,
        sameCapacity]
      split
      · rfl
      · split
        · rfl
        · rfl
  | take =>
      simp only [step, stepTake, sameLoop, sameBuffer, sameCancelled]
      split
      · split
        · rfl
        · rfl
      · rfl
  | apply =>
      have alone : (world.visit.filter fun visit => visit.call != call) = world.visit :=
        visit_withoutCall free
      simp only [step, stepApply, sameLoop, visit_withoutCall free]
      split
      · split
        · rfl
        · simp only [withoutCall, alone]
      · rfl
  | spawn =>
      simp only [step, stepSpawn, sameLoop]
      split
      · rfl
      · rfl
  | dropLoop =>
      simp only [step, stepDropLoop, sameLoop]
      split
      · rfl
      · rfl
  | cloneHandle =>
      simp only [step, sameHandles]
      split
      · rfl
      · rfl
  | fireTimer =>
      simp only [step, stepFireTimer, sameLoop, sameCancelled, sameNow]
      split
      · split
        · rfl
        · rfl
      · rfl
  | observe =>
      simp only [step, stepObserve, sameLoop, sameCancelled, sameRebuild, samePause,
        sameNow, endLoop]
      split
      · split
        · split
          · rfl
          · rfl
        · rfl
      · rfl
  | stop =>
      exact stop_of_other free
  | list number =>
      simp only [step, stepList, sameRebuild]
      split
      · rfl
      · rfl
  | panic number =>
      simp only [step, stepPanic, sameRebuild]
      split
      · rfl
      · rfl
  | receive number =>
      simp only [step, stepReceive, sameRebuild]
      split
      · rfl
      · rfl
      · rfl
  | install number =>
      have alone : (world.visit.filter fun visit => visit.call != call) = world.visit :=
        visit_withoutCall free
      simp only [step, stepInstall, sameRebuild, visit_withoutCall free]
      split
      · simp only [withoutCall, setStage, alone]
      · rfl
  | announce number =>
      simp only [step, stepAnnounce, sameRebuild]
      split
      · rfl
      · rfl
  | cancel | dropHandle | write | setClock | pass =>
      rfl

/-! ### Steps of the call itself -/

theorem withoutCall_withoutCall (world : World) (call : Nat) :
    (world.withoutCall call).withoutCall call = world.withoutCall call := by
  simp only [withoutCall, List.filter_filter, Option.filter_filter, Bool.and_self]

theorem step_of_own {action : Action} (own : action.isOf call = true)
    (quiet : ∀ event ∈ (world.step action).2, ¬event.Settles call) :
    (world.step action).1.withoutCall call = world.withoutCall call ∧
      ∀ event ∈ (world.step action).2, event.isTo call = true := by
  cases action with
  | call other =>
      obtain rfl : other = call := by
        simpa [Action.isOf] using own
      simp only [step, stepCall]
      split
      · simp
      · split
        · simp [withoutCall]
        · simp [Event.isTo]
  | enter other number =>
      obtain rfl : other = call := by
        simpa [Action.isOf] using own
      simp only [step, stepEnter]
      split
      · simp
      · rename_i goes
        have free : world.visit = none := by
          simp only [Bool.or_eq_true, not_or, Bool.not_eq_true] at goes
          simpa using goes.2
        split
        · simp [withoutCall_withoutCall, Event.isTo]
        · simp [withoutCall, free, Option.filter]
  | record other =>
      obtain rfl : other = call := by
        simpa [Action.isOf] using own
      simp only [step, stepRecord] at quiet ⊢
      split at quiet
      · rename_i free
        simp
      · rename_i visit guarded
        split at quiet
        · rename_i sameCall
          have recording := world.store.recording visit.chosen visit.viewedAt
          generalize world.store.recordView visit.chosen visit.viewedAt = outcome
            at quiet recording ⊢
          cases recording with
          | recorded found =>
              simp [Except.map, Shelf.verdict, Event.Settles] at quiet
          | missing absent =>
              simp [Except.map, Shelf.verdict, Event.Settles] at quiet
          | unreachable =>
              simp [guarded, sameCall, Except.map, Except.toOption, Store.outage,
                Shelf.conclude, withoutCall, Option.filter, Event.isTo]
        · rename_i notCall
          simp [notCall]
  | expire other =>
      obtain rfl : other = call := by
        simpa [Action.isOf] using own
      simp only [step, stepExpire]
      split
      · simp [withoutCall_withoutCall, Event.isTo]
      · simp
  | abandon other =>
      obtain rfl : other = call := by
        simpa [Action.isOf] using own
      simp [step, withoutCall_withoutCall]
  | _ =>
      cases own

theorem isOf_of_answered {action : Action} {result : Except Fault String}
    (seen : .answered call result ∈ (world.step action).2) : action.isOf call = true := by
  cases answers_of_seen seen with
  | _ =>
      simp [Action.isOf]

theorem not_isTo_of_other {action : Action} (another : action.isOf call = false) :
    ∀ event ∈ (world.step action).2, event.isTo call = false := by
  intro event seen
  cases event with
  | answered other result =>
      have own := isOf_of_answered seen
      by_contra toCall
      rw [Bool.not_eq_false] at toCall
      have sameCall : other = call := by
        simpa [Event.isTo] using toCall
      rw [sameCall, another] at own
      cases own
  | _ =>
      rfl

/-! ## A run -/

/-- A call that the store does not settle might as well not have been made: without it
the others would have got as far, and would have been told the same. -/
theorem run_withoutCall {actions : List Action}
    (quiet : ∀ event ∈ (world.run actions).2, ¬event.Settles call) :
    (world.run actions).1.withoutCall call =
        ((world.withoutCall call).run (world.unhinderedBy call actions)).1 ∧
      (world.run actions).2.filter (fun event => !event.isTo call) =
        ((world.withoutCall call).run (world.unhinderedBy call actions)).2 := by
  induction actions generalizing world with
  | nil =>
      exact ⟨rfl, rfl⟩
  | cons action rest inductionHypothesis =>
      simp only [run_cons, List.mem_append] at quiet
      have laterAlike := inductionHypothesis fun event member => quiet event (.inr member)
      cases own : action.isOf call with
      | true =>
          obtain ⟨noTrace, toCall⟩ :=
            step_of_own own fun event member => quiet event (.inl member)
          have dropped : (world.step action).2.filter (fun event => !event.isTo call) = [] := by
            rw [List.filter_eq_nil_iff]
            intro event member
            simp [toCall event member]
          rw [noTrace] at laterAlike
          simp only [run_cons, unhinderedBy, own, Bool.true_or, if_true,
            List.filter_append, dropped, List.nil_append]
          exact laterAlike
      | false =>
          cases heldUp : world.holdsUp call action with
          | true =>
              have stays := step_of_holdsUp heldUp
              simp only [run_cons, unhinderedBy, own, heldUp, Bool.or_true, if_true, stays,
                List.nil_append] at laterAlike ⊢
              exact laterAlike
          | false =>
              have alike := step_of_other own heldUp
              have kept : (world.step action).2.filter (fun event => !event.isTo call) =
                  (world.step action).2 := by
                rw [List.filter_eq_self]
                intro event member
                simp [not_isTo_of_other own event member]
              have left : world.unhinderedBy call (action :: rest) =
                  action :: (world.step action).1.unhinderedBy call rest := by
                simp [unhinderedBy, own, heldUp]
              rw [left, run_cons, run_cons, alike, List.filter_append, kept]
              exact ⟨laterAlike.1, by rw [laterAlike.2]⟩

/-! ## What a retrieval leaves behind -/

theorem drawn_of_reachable (reached : world.Reachable) : world.Drawn := by
  obtain ⟨settings, store, clock, actions, rfl⟩ := reached
  refine run_invariant_of_all drawn_step actions ?_
  intro visit guarded
  cases guarded

/-- A retrieval leaves no more behind than what the store has confirmed. Without that it
might as well not have been made. -/
theorem retrieval_frame (reached : world.Reachable) :
    (∀ call actions, world.calling call = false →
      (∀ event ∈ (world.run actions).2, ¬event.Settles call) →
      (world.run actions).1.withoutCall call =
          (world.run (world.unhinderedBy call actions)).1 ∧
        (world.run actions).2.filter (fun event => !event.isTo call) =
          (world.run (world.unhinderedBy call actions)).2) ∧
    (∀ visit, world.visit = some visit →
      (∃ number, world.shelf.draw world.window number = some visit.chosen) ∧
      ∃ shelf store answer,
        world.step (.record visit.call) =
          ({ world with visit := none, shelf, store }, [.answered visit.call answer]) ∧
        world.shelf.Settled visit.chosen visit.viewedAt
          ((world.store.recordView visit.chosen visit.viewedAt).map fun _ => ())
          shelf answer ∧
        world.store.Settled visit.chosen visit.viewedAt
          ((world.store.recordView visit.chosen visit.viewedAt).map fun _ => ()) store) ∧
    (∀ shelf id viewedAt outcome,
      Shelf.Settled shelf id viewedAt outcome (shelf.conclude id viewedAt outcome)
        (Shelf.verdict id outcome)) := by
  refine ⟨fun call actions absent quiet => ?_, fun visit guarded => ⟨?_, ?_⟩,
    Shelf.settled_conclude⟩
  · have asUnmade := run_withoutCall quiet
    rw [withoutCall_of_not_calling absent] at asUnmade
    exact asUnmade
  · exact drawn_of_reachable reached visit guarded
  · refine ⟨_, _, _, ?_, Shelf.settled_conclude .., Store.settled_recordView ..⟩
    simp [step, stepRecord, guarded]

/-- The first rebuild, and the call of a retrieval. -/
def readiedForSecond : List Action :=
  [.spawn, .fireTimer, .list 0, .receive 0, .install 0, .announce 0, .observe, .call 2]

/-- Another retrieval gets ahead of it, and is dropped while the store writes. -/
def firstAbandoned : List Action :=
  [.call 1, .enter 1 0, .enter 2 0, .abandon 1, .enter 2 0, .record 2]

theorem retrieval_frame_firstAbandoned :
    let world := ((start ⟨900, 10, 1000, 0⟩ (Store.ofWrites
      [.insert (MessageBox.create "a" "" Moment.epoch),
        .insert (MessageBox.create "b" "" Moment.epoch)]) Moment.epoch).run
      readiedForSecond).1
    world.Reachable ∧ world.unhinderedBy 1 firstAbandoned = [.enter 2 0, .record 2] ∧
      (world.run firstAbandoned).1.withoutCall 1 =
        (world.run [.enter 2 0, .record 2]).1 ∧
      (world.run firstAbandoned).2 = [.answered 2 (.ok "a")] := by
  intro world
  have reached : world.Reachable := ⟨_, _, _, _, rfl⟩
  have steps : world.unhinderedBy 1 firstAbandoned = [.enter 2 0, .record 2] := by
    rfl
  have seen : (world.run firstAbandoned).2 = [.answered 2 (.ok "a")] := by
    rfl
  have absent : world.calling 1 = false := by
    rfl
  have quiet : ∀ event ∈ (world.run firstAbandoned).2, ¬event.Settles 1 := by
    simp only [seen, List.mem_singleton, forall_eq, Event.Settles]
    decide
  have alike := (retrieval_frame reached).1 1 firstAbandoned absent quiet
  rw [steps] at alike
  exact ⟨reached, steps, alike.1, seen⟩

end World

end StalestFirst
