import Mathlib
import StalestFirst.Proofs.Queue.Change
import StalestFirst.Proofs.Queue.Items

namespace StalestFirst.World

/-! ## Accepted items are applied once and in order

Of the items that were accepted, the first ones were applied, the next one may be in
the hands of the loop, and the others wait in the buffer. -/

variable {world next : World} {accepted applied : List Item}

theorem capacity_eq (world : World) :
    world.capacity = max world.settings.bufferCapacity.toNat 1 :=
  UInt64.toNat_max ..

/-- An item is accepted exactly when the queue is ready, the loop can still take it and
there is room for it. Otherwise the submission changes nothing. -/
theorem step_submit (held : world.handles ≠ 0) (item : Item) :
    (world.ready = true ∧ (∀ ending, world.loop ≠ .ended ending) ∧
        world.buffer.length < max world.settings.bufferCapacity.toNat 1 →
      world.step (.submit item) =
        ({ world with buffer := world.buffer ++ [item] }, [.accepted item])) ∧
    (¬ (world.ready = true ∧ (∀ ending, world.loop ≠ .ended ending) ∧
        world.buffer.length < max world.settings.bufferCapacity.toNat 1) →
      world.step (.submit item) = (world, [.refused item])) := by
  rw [← capacity_eq, ← receiving_eq_true_iff, ← and_assoc]
  have opens : (world.ready && world.receiving &&
      decide (world.buffer.length < world.capacity)) = true ↔
      (world.ready = true ∧ world.receiving = true) ∧
        world.buffer.length < world.capacity := by
    simp
  constructor
  · intro free
    simp only [step, stepSubmit, if_neg held, if_pos (opens.2 free)]
  · intro full
    simp only [step, stepSubmit, if_neg held]
    rw [if_neg (mt opens.1 full)]

/-- An item that is seen to be applied has got its score in the pool. -/
theorem shelf_of_applied {action : Action} {item : Item}
    (seen : .applied item ∈ (world.step action).2) :
    (world.step action).1.shelf = world.shelf.apply item := by
  have change := world.change action
  generalize (world.step action).1 = next at change ⊢
  generalize (world.step action).2 = events at change seen
  cases change with
  | aside idle alike silent =>
      cases silent _ seen
  | leaves guarded leaving silent =>
      cases silent _ seen
  | applies free taken =>
      rw [List.mem_singleton] at seen
      cases seen
      rfl
  | observes waits finished silent =>
      rcases List.mem_cons.1 seen with same | later
      · cases same
      · cases silent _ later
  | _ =>
      simp at seen

/-- How far the items have come that were accepted up to now, if those in `applied`
were applied. -/
structure Delivered (world : World) (accepted applied : List Item) : Prop where
  inOrder : applied <+: accepted
  whole : world.receiving = true → accepted = applied ++ world.items
  emptied : world.loop = .ended .deserted → accepted = applied

/-- While the loop receives, items come in at the end and leave at the front. -/
private theorem Delivered.of_conveyed (delivered : world.Delivered accepted applied)
    (receiving : world.receiving = true) (nextReceiving : next.receiving = true)
    {incoming outgoing : List Item}
    (conveyed : world.items ++ incoming = outgoing ++ next.items) :
    next.Delivered (accepted ++ incoming) (applied ++ outgoing) := by
  have whole : accepted ++ incoming = applied ++ outgoing ++ next.items := by
    rw [delivered.whole receiving, List.append_assoc, conveyed, List.append_assoc]
  refine ⟨⟨next.items, whole.symm⟩, fun _ => whole, fun ended => ?_⟩
  exact absurd ended (receiving_eq_true_iff.1 nextReceiving .deserted)

/-- When the loop ends, the items that it has not applied are lost. There are none if
it ends for want of handles. -/
private theorem Delivered.of_ended (delivered : world.Delivered accepted applied)
    (receiving : world.receiving = true) {ending : Ending}
    (ended : next.loop = .ended ending) (emptied : ending = .deserted → world.items = [])
    {events : List Event} (noneAccepted : events.filterMap Event.accepted? = [])
    (noneApplied : events.filterMap Event.applied? = []) :
    next.Delivered (accepted ++ events.filterMap Event.accepted?)
      (applied ++ events.filterMap Event.applied?) := by
  rw [noneAccepted, noneApplied, List.append_nil, List.append_nil]
  refine ⟨delivered.inOrder, fun open_ => ?_, fun deserted => ?_⟩
  · exact absurd ended (receiving_eq_true_iff.1 open_ ending)
  · rw [ended] at deserted
    rw [delivered.whole receiving, emptied (Loop.ended.inj deserted), List.append_nil]

/-- A loop that may end still receives. It has no items left if it ends for want of
handles. -/
private theorem MayEnd.receiving {ending : Ending} (mayEnd : world.MayEnd ending) :
    world.receiving = true ∧ (ending = .deserted → world.items = []) := by
  cases mayEnd with
  | dropped unstarted =>
      exact ⟨by simp [World.receiving, unstarted], nofun⟩
  | cancelled cancelled resting =>
      exact ⟨by simp [World.receiving, resting], nofun⟩
  | deserted empty resting =>
      exact ⟨by simp [World.receiving, resting], fun _ => by
        simp [items, taken?, resting, empty]⟩

theorem delivered_step (action : Action) (delivered : world.Delivered accepted applied) :
    (world.step action).1.Delivered
      (accepted ++ (world.step action).2.filterMap Event.accepted?)
      (applied ++ (world.step action).2.filterMap Event.applied?) := by
  have conveys := world.conveys_step action
  have motion := world.motion action
  generalize (world.step action).1 = next at conveys motion ⊢
  generalize (world.step action).2 = events at conveys motion ⊢
  -- While the loop goes on, the equation between the rows is the one of the step.
  have goesOn (receiving : world.receiving = true) (nextReceiving : next.receiving = true) :
      next.Delivered (accepted ++ events.filterMap Event.accepted?)
        (applied ++ events.filterMap Event.applied?) := by
    refine delivered.of_conveyed receiving nextReceiving (conveys.resolve_left ?_)
    simp [nextReceiving]
  cases motion with
  | beside same silent =>
      rw [accepted_of_besideLoop silent, applied_of_besideLoop silent, List.append_nil,
        List.append_nil]
      refine ⟨delivered.inOrder, fun receiving => ?_, fun ended => ?_⟩
      · rw [items_of_same same]
        refine delivered.whole ?_
        rw [receiving_eq_true_iff] at receiving ⊢
        rw [← same.loop]
        exact receiving
      · exact delivered.emptied (same.loop ▸ ended)
  | accepts ready receiving room =>
      exact goesOn receiving receiving
  | takes resting waiting =>
      exact goesOn (by simp [receiving, resting]) rfl
  | applies taken =>
      exact goesOn (by simp [receiving, taken]) rfl
  | spawns unstarted =>
      exact goesOn (by simp [receiving, unstarted]) rfl
  | starts resting reached =>
      exact goesOn (by simp [receiving, resting]) rfl
  | observes waits finished =>
      exact goesOn (by simp [receiving, waits]) rfl
  | overflows waits finished beyond =>
      have notDeserted : Ending.overflowed = .deserted → world.items = [] := nofun
      exact delivered.of_ended (by simp [receiving, waits]) rfl notDeserted rfl rfl
  | ends mayEnd =>
      exact delivered.of_ended mayEnd.receiving.1 rfl mayEnd.receiving.2 rfl rfl

theorem delivered_run (actions : List Action) (delivered : world.Delivered [] []) :
    (world.run actions).1.Delivered
      ((world.run actions).2.filterMap Event.accepted?)
      ((world.run actions).2.filterMap Event.applied?) := by
  have kept (world : World) (seen : List Event) (action : Action)
      (delivered : world.Delivered (seen.filterMap Event.accepted?)
        (seen.filterMap Event.applied?)) :
      (world.step action).1.Delivered
        ((seen ++ (world.step action).2).filterMap Event.accepted?)
        ((seen ++ (world.step action).2).filterMap Event.applied?) := by
    rw [List.filterMap_append, List.filterMap_append]
    exact delivered_step action delivered
  exact run_history kept [] actions delivered

theorem delivered_start (settings : QueueSettings) (store : Store) (clock : Moment) :
    (start settings store clock).Delivered [] [] :=
  ⟨List.prefix_rfl, fun _ => rfl, nofun⟩

/-- In every run an item is accepted exactly when the queue is ready, the loop can still
take it and the buffer has room, and a refused one changes nothing. While there is a
loop, the accepted items are those applied, then the one that the loop has taken, if
any, and then those in the buffer, each in its place. When the loop ends for want of
handles, all of them were applied. When it ends for another reason, those applied were
accepted first, and none is applied later. Each item that is seen to be applied is put
into the pool by that step. -/
theorem accepted_items_delivered (settings : QueueSettings) (store : Store)
    (clock : Moment) (actions : List Action) :
    let first := start settings store clock
    let last := (first.run actions).1
    let accepted := (first.run actions).2.filterMap Event.accepted?
    let applied := (first.run actions).2.filterMap Event.applied?
    (∀ item, last.handles ≠ 0 →
      (last.ready = true ∧ (∀ ending, last.loop ≠ .ended ending) ∧
          last.buffer.length < max settings.bufferCapacity.toNat 1 →
        last.step (.submit item) =
          ({ last with buffer := last.buffer ++ [item] }, [.accepted item])) ∧
      (¬ (last.ready = true ∧ (∀ ending, last.loop ≠ .ended ending) ∧
          last.buffer.length < max settings.bufferCapacity.toNat 1) →
        last.step (.submit item) = (last, [.refused item]))) ∧
    ((∀ ending, last.loop ≠ .ended ending) →
      accepted = applied ++ last.taken?.toList ++ last.buffer) ∧
    (last.loop = .ended .deserted → applied = accepted) ∧
    (∀ ending, last.loop = .ended ending → applied <+: accepted ∧
      ∀ more, (last.run more).2.filterMap Event.applied? = []) ∧
    ∀ before action after item, actions = before ++ action :: after →
      .applied item ∈ ((first.run before).1.step action).2 →
      ((first.run before).1.step action).1.shelf =
        (first.run before).1.shelf.apply item := by
  intro first last accepted applied
  have delivered : last.Delivered accepted applied :=
    delivered_run actions (delivered_start settings store clock)
  have sameSettings : last.settings = settings := settings_run first actions
  refine ⟨fun item held => ?_, fun receiving => ?_, fun deserted => ?_,
    fun ending ended => ⟨delivered.inOrder, fun more => ?_⟩, ?_⟩
  · rw [← sameSettings]
    exact step_submit held item
  · rw [delivered.whole (receiving_eq_true_iff.2 receiving), items, List.append_assoc]
  · exact (delivered.emptied deserted).symm
  · exact applied_of_besideLoop (beside_of_ended_run ended more)
  · intro before action after item _ seen
    exact shelf_of_applied seen

end StalestFirst.World
