import Mathlib
import StalestFirst.Queue.World

namespace StalestFirst

/-- Where all events are of a kind that a view is blind for, it sees nothing. -/
theorem Event.filterMap_of_blind {β : Type} {view : Event → Option β}
    {kind : Event → Prop} (blind : ∀ event, kind event → view event = none)
    {events : List Event} (all : ∀ event ∈ events, kind event) :
    events.filterMap view = [] :=
  List.filterMap_eq_nil_iff.2 fun event member => blind event (all event member)

namespace World

/-! ## Runs

What one step preserves, a run preserves. -/

@[simp]
theorem run_nil (world : World) : world.run [] = (world, []) :=
  rfl

@[simp]
theorem run_cons (world : World) (action : Action) (rest : List Action) :
    world.run (action :: rest) =
      (((world.step action).1.run rest).1,
        (world.step action).2 ++ ((world.step action).1.run rest).2) :=
  rfl

theorem run_append (world : World) (first second : List Action) :
    world.run (first ++ second) =
      (((world.run first).1.run second).1,
        (world.run first).2 ++ ((world.run first).1.run second).2) := by
  induction first generalizing world with
  | nil =>
      rfl
  | cons action rest inductionHypothesis =>
      rw [List.cons_append, run_cons, inductionHypothesis, run_cons]
      simp only [List.append_assoc]

/-- What is seen of a run is seen of one of its steps. -/
theorem exists_step_of_seen {world : World} {actions : List Action}
    {earlier later : List Event} {event : Event}
    (seen : (world.run actions).2 = earlier ++ event :: later) :
    ∃ before action after front back,
      actions = before ++ action :: after ∧
      ((world.run before).1.step action).2 = front ++ event :: back ∧
      earlier = (world.run before).2 ++ front := by
  induction actions generalizing world earlier with
  | nil =>
      simp at seen
  | cons action rest inductionHypothesis =>
      rw [run_cons] at seen
      rcases List.append_eq_append_iff.1 seen with
        ⟨middle, rfl, inRest⟩ | ⟨middle, inStep, inRest⟩
      · obtain ⟨before, other, after, front, back, rfl, ofStep, rfl⟩ :=
          inductionHypothesis inRest
        exact ⟨action :: before, other, after, front, back, rfl, ofStep,
          (List.append_assoc ..).symm⟩
      · cases middle with
        | nil =>
            -- The event is the first one after this step.
            have atOnce : ((world.step action).1.run rest).2 = [] ++ event :: later :=
              inRest.symm
            obtain ⟨before, other, after, front, back, rfl, ofStep, none⟩ :=
              inductionHypothesis atOnce
            refine ⟨action :: before, other, after, front, back, rfl, ofStep, ?_⟩
            rw [run_cons, List.append_assoc, ← none, inStep, List.append_nil,
              List.append_nil]
        | cons first others =>
            obtain ⟨rfl, _⟩ := List.cons.inj inRest
            exact ⟨[], action, rest, earlier, others, rfl, inStep, rfl⟩

/-- Every step of a run is one that is allowed in the world it is taken in. -/
def Along (allowed : World → Action → Prop) (world : World) : List Action → Prop
  | [] => True
  | action :: rest =>
      allowed world action ∧ Along allowed (world.step action).1 rest

/-- Something holds in every world of a run, the first and the last one
included. -/
def Throughout (fact : World → Prop) (world : World) : List Action → Prop
  | [] => fact world
  | action :: rest => fact world ∧ Throughout fact (world.step action).1 rest

/-- The world of each step is known, so a run can be checked step by step. -/
def decidableAlong (allowed : World → Action → Prop)
    [∀ world action, Decidable (allowed world action)] (world : World) :
    (actions : List Action) → Decidable (world.Along allowed actions)
  | [] => inferInstanceAs (Decidable True)
  | action :: rest =>
      have := decidableAlong allowed (world.step action).1 rest
      inferInstanceAs (Decidable (allowed world action ∧ _))

instance (allowed : World → Action → Prop)
    [∀ world action, Decidable (allowed world action)] (world : World)
    (actions : List Action) : Decidable (world.Along allowed actions) :=
  decidableAlong allowed world actions

/-- What all allowed steps have in common, all steps of the run have. -/
theorem Along.forall_mem
    {allowed : World → Action → Prop} {common : Action → Prop}
    (implies : ∀ world action, allowed world action → common action)
    {world : World} {actions : List Action} (along : world.Along allowed actions) :
    ∀ action ∈ actions, common action := by
  induction actions generalizing world with
  | nil =>
      exact fun _ member => absurd member List.not_mem_nil
  | cons action rest inductionHypothesis =>
      intro other member
      rcases List.mem_cons.1 member with rfl | later
      · exact implies world other along.1
      · exact inductionHypothesis along.2 other later

theorem Throughout.first
    {fact : World → Prop} {world : World} {actions : List Action}
    (holds : world.Throughout fact actions) : fact world := by
  cases actions with
  | nil =>
      exact holds
  | cons action rest =>
      exact holds.1

theorem throughout_append
    {fact : World → Prop} {world : World} {first second : List Action} :
    world.Throughout fact (first ++ second) ↔
      world.Throughout fact first ∧ (world.run first).1.Throughout fact second := by
  induction first generalizing world with
  | nil =>
      simp only [List.nil_append, Throughout, run_nil]
      exact ⟨fun holds => ⟨holds.first, holds⟩, fun holds => holds.2⟩
  | cons action rest inductionHypothesis =>
      simp only [List.cons_append, Throughout, inductionHypothesis, run_cons, and_assoc]

/-- What holds in every world of a run may be used at every step. -/
theorem Throughout.along
    {fact : World → Prop} {world : World} {actions : List Action}
    (holds : world.Throughout fact actions) :
    world.Along (fun current _ => fact current) actions := by
  induction actions generalizing world with
  | nil =>
      trivial
  | cons action rest inductionHypothesis =>
      exact ⟨holds.1, inductionHypothesis holds.2⟩

/-- An invariant that every allowed step keeps holds at the end of every run of
allowed steps. -/
theorem run_invariant
    {allowed : World → Action → Prop} {invariant : World → Prop}
    (kept : ∀ world action, allowed world action → invariant world →
      invariant (world.step action).1)
    {world : World} {actions : List Action}
    (along : world.Along allowed actions) (holds : invariant world) :
    invariant (world.run actions).1 := by
  induction actions generalizing world with
  | nil =>
      exact holds
  | cons action rest inductionHypothesis =>
      exact inductionHypothesis along.2 (kept world action along.1 holds)

/-- An invariant that every step keeps holds at the end of every run. -/
theorem run_invariant_of_all
    {invariant : World → Prop}
    (kept : ∀ world action, invariant world → invariant (world.step action).1)
    {world : World} (actions : List Action) (holds : invariant world) :
    invariant (world.run actions).1 := by
  induction actions generalizing world with
  | nil =>
      exact holds
  | cons action rest inductionHypothesis =>
      exact inductionHypothesis (kept world action holds)

/-- What every step keeps of a world and all that was seen up to it, a run keeps. -/
theorem run_history
    {invariant : World → List Event → Prop}
    (kept : ∀ world seen action, invariant world seen →
      invariant (world.step action).1 (seen ++ (world.step action).2))
    {world : World} (seen : List Event) (actions : List Action)
    (holds : invariant world seen) :
    invariant (world.run actions).1 (seen ++ (world.run actions).2) := by
  induction actions generalizing world seen with
  | nil =>
      rw [run_nil, List.append_nil]
      exact holds
  | cons action rest inductionHypothesis =>
      rw [run_cons, ← List.append_assoc]
      exact inductionHypothesis _ (kept world seen action holds)

end World

end StalestFirst
