import Mathlib
import StalestFirst.Proofs.Queue.Loop

namespace StalestFirst

/-! ## The way of the items

An accepted item waits in the buffer, is taken by the loop, and is applied. It
overtakes no other one. -/

/-- The item that an event accepts. -/
def Event.accepted? : Event → Option Item
  | .accepted item => some item
  | _ => none

/-- The item that an event applies. -/
def Event.applied? : Event → Option Item
  | .applied item => some item
  | _ => none

namespace World

/-- The item that the loop has taken and not yet applied. -/
def taken? (world : World) : Option Item :=
  match world.loop with
  | .running _ _ held => held
  | _ => none

/-- The accepted items that wait to be applied, the next one first. -/
def items (world : World) : List Item := world.taken?.toList ++ world.buffer

variable {world next : World} {events : List Event}

theorem items_of_same (same : world.SameLoop next) : next.items = world.items := by
  rw [items, items, taken?, taken?, same.loop, same.buffer]

theorem accepted_of_besideLoop (silent : ∀ event ∈ events, event.BesideLoop) :
    events.filterMap Event.accepted? = [] :=
  Event.filterMap_of_blind (fun _ beside => by cases beside <;> rfl) silent

theorem applied_of_besideLoop (silent : ∀ event ∈ events, event.BesideLoop) :
    events.filterMap Event.applied? = [] :=
  Event.filterMap_of_blind (fun _ beside => by cases beside <;> rfl) silent

/-- Between the two worlds items came in at the end and left at the front, unless
the loop is gone and has lost them. -/
def Conveys (world next : World) (events : List Event) : Prop :=
  (next.receiving = false ∧ next.items = []) ∨
    world.items ++ events.filterMap Event.accepted? =
      events.filterMap Event.applied? ++ next.items

theorem conveys_of_same (sameItems : next.items = world.items)
    (noneAccepted : events.filterMap Event.accepted? = [])
    (noneApplied : events.filterMap Event.applied? = []) :
    world.Conveys next events := by
  refine Or.inr ?_
  rw [sameItems, noneAccepted, noneApplied, List.append_nil, List.nil_append]

/-- What is applied is what was accepted first. -/
theorem conveys_step (world : World) (action : Action) :
    world.Conveys (world.step action).1 (world.step action).2 := by
  have motion := world.motion action
  generalize (world.step action).1 = next at motion ⊢
  generalize (world.step action).2 = events at motion ⊢
  cases motion with
  | beside same silent =>
      exact conveys_of_same (items_of_same same) (accepted_of_besideLoop silent)
        (applied_of_besideLoop silent)
  | accepts ready receiving room =>
      exact Or.inr (List.append_assoc ..)
  | takes resting waiting =>
      refine conveys_of_same ?_ rfl rfl
      simp [items, taken?, resting, waiting]
  | applies taken =>
      refine Or.inr ?_
      simp [items, taken?, taken, Event.accepted?, Event.applied?]
  | spawns unstarted =>
      refine conveys_of_same ?_ rfl rfl
      simp [items, taken?, unstarted]
  | starts resting reached =>
      refine conveys_of_same ?_ rfl rfl
      simp [items, taken?, resting]
  | observes waits finished =>
      refine conveys_of_same ?_ rfl rfl
      simp [items, taken?, waits]
  | overflows waits finished beyond =>
      exact Or.inl ⟨rfl, rfl⟩
  | ends mayEnd =>
      exact Or.inl ⟨rfl, rfl⟩

/-- Only what is submitted is accepted. -/
theorem submitted_of_accepted {action : Action} {item : Item}
    (member : item ∈ (world.step action).2.filterMap Event.accepted?) :
    action = .submit item := by
  have motion := world.motion action
  generalize (world.step action).1 = next at motion
  generalize (world.step action).2 = events at motion member
  cases motion with
  | beside same silent =>
      rw [accepted_of_besideLoop silent] at member
      cases member
  | accepts ready receiving room =>
      rw [List.mem_singleton.1 member]
  | _ =>
      cases member

theorem noneAccepted_step {action : Action}
    (unsubmitted : ∀ item, action ≠ .submit item) :
    (world.step action).2.filterMap Event.accepted? = [] :=
  List.eq_nil_iff_forall_not_mem.2 fun item member =>
    unsubmitted item (submitted_of_accepted member)

/-- Where nothing waits and nothing is submitted, nothing waits afterwards. -/
theorem items_eq_nil_step {action : Action}
    (unsubmitted : ∀ item, action ≠ .submit item) (none : world.items = []) :
    (world.step action).1.items = [] := by
  rcases world.conveys_step action with ⟨_, lost⟩ | kept
  · exact lost
  · rw [none, noneAccepted_step unsubmitted] at kept
    exact (List.append_eq_nil_iff.1 kept.symm).2

/-- Whatever the loop applies has been waiting. -/
theorem items_ne_nil_of_taken {due : Nat} {inFlight : Option Nat} {item : Item}
    (taken : world.loop = .running due inFlight (some item)) : world.items ≠ [] := by
  simp [items, taken?, taken]

end World

end StalestFirst
