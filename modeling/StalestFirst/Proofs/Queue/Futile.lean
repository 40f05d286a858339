import Mathlib
import StalestFirst.Proofs.Queue.Twin

namespace StalestFirst

/-! ## Rebuilds that come to nothing

A rebuild whose listing fails, or that panics, leaves the queue alone. A run goes as it
would have gone without the steps of such rebuilds, but for their numbers. -/

namespace World

variable {world next : World} {futile : Nat → Bool} {loop : Loop} {buffer : List Item}

/-- The steps of a run but for those of the given rebuilds, and for those that the loop does
not take. -/
def sparing (futile : Nat → Bool) (world : World) : List Action → List Action
  | [] => []
  | action :: rest =>
      let later := sparing futile (world.step action).1 rest
      if world.rests action || (world.rebuildOf? action).any futile then later
      else action.renumber futile :: later

theorem twin_run {actions : List Action} {other : World} (sole : world.Sole)
    (numbered : world.Numbered) (foreseen : Foreseen futile world actions)
    (twin : Twin futile world other) :
    Twin futile (world.run actions).1 (other.run (sparing futile world actions)).1 := by
  induction actions generalizing world other with
  | nil =>
      exact twin
  | cons action rest inductionHypothesis =>
      have nextSole := sole_step world action sole
      have nextNumbered := numbered_step sole numbered action
      have nextForeseen := foreseen.step sole numbered
      rw [run_cons, sparing]
      cases goesOn : world.rests action with
      | true =>
          have still := step_of_rests goesOn
          rw [still] at nextForeseen ⊢
          exact inductionHypothesis sole numbered nextForeseen twin
      | false =>
          cases isFutile : (world.rebuildOf? action).any futile with
          | true =>
              obtain ⟨number, own, numberFutile⟩ := (Option.any_eq_true _ _).1 isFutile
              have noListing : ∀ rebuild ∈ world.rebuilds, rebuild.number = number →
                  rebuild.stage.succeeds = false := by
                intro rebuild member named
                rw [← named] at numberFutile
                exact foreseen.not_succeeds sole numbered member numberFutile
              exact inductionHypothesis nextSole nextNumbered nextForeseen
                (twin_step_of_futile twin own numberFutile noListing)
          | false =>
              have kept : ∀ number, world.rebuildOf? action = some number →
                  futile number = false := by
                intro number own
                rw [own] at isFutile
                exact isFutile
              exact inductionHypothesis nextSole nextNumbered nextForeseen
                (twin_step twin goesOn kept)

theorem twin_start (futile : Nat → Bool) (settings : QueueSettings) (store : Store)
    (clock : Moment) :
    Twin futile (start settings store clock) (start settings store clock) :=
  ⟨.unstarted, [], .unstarted, fun _ => rfl, rfl⟩

/-- The run without the steps of the rebuilds that fail in it. -/
def withoutFutile (world : World) (actions : List Action) : List Action :=
  sparing (fun number => world.comesToNothing number actions) world actions

/-- The two queues are in the same state, apart from their loops and rebuilds. -/
structure SameQueue (world other : World) : Prop where
  shelf : other.shelf = world.shelf
  ready : other.ready = world.ready
  store : other.store = world.store
  clock : other.clock = world.clock
  now : other.now = world.now
  waiting : other.waiting = world.waiting
  visit : other.visit = world.visit
  handles : other.handles = world.handles

theorem SameQueue.refl (world : World) : world.SameQueue world :=
  ⟨rfl, rfl, rfl, rfl, rfl, rfl, rfl, rfl⟩

theorem sameQueue_spared (world : World) (futile : Nat → Bool) (loop : Loop)
    (buffer : List Item) : world.SameQueue (world.spared futile loop buffer) :=
  ⟨rfl, rfl, rfl, rfl, rfl, rfl, rfl, rfl⟩

theorem sameQueue_of_spared_eq
    (same : next.spared futile loop buffer = world.spared futile loop buffer) :
    world.SameQueue next := by
  have alike := world.sameQueue_spared futile loop buffer
  rw [← same] at alike
  exact ⟨alike.shelf, alike.ready, alike.store, alike.clock, alike.now, alike.waiting,
    alike.visit, alike.handles⟩

/-- A run and the same run without the rebuilds that fail in it lead to the same state. -/
theorem sameQueue_withoutFutile (settings : QueueSettings) (store : Store) (clock : Moment)
    (actions : List Action) :
    let world := start settings store clock
    let last := (world.run actions).1
    let other := (world.run (world.withoutFutile actions)).1
    last.SameQueue other ∧ (last.loop ≠ .ended .overflowed → other.buffer = last.buffer) := by
  intro world last other
  have twin : Twin _ last other :=
    twin_run (sole_start settings store clock) (numbered_start settings store clock)
      (foreseen_of_comesToNothing world actions) (twin_start _ settings store clock)
  obtain ⟨loop, buffer, _, sameBuffer, same⟩ := twin
  rw [same]
  exact ⟨last.sameQueue_spared _ loop buffer, sameBuffer⟩

/-- After a panic the next rebuild is the first one that counts. -/
example :
    (start ⟨900, 10, 1000, 0⟩ Store.empty Moment.epoch).withoutFutile
      [.spawn, .fireTimer, .panic 0, .observe, .fireTimer, .pass 10000, .fireTimer, .list 1,
        .receive 1, .install 1, .announce 1] =
      [.spawn, .pass 10000, .fireTimer, .list 0, .receive 0, .install 0, .announce 0] := by
  rfl

theorem sameQueue_step_of_futile {action : Action} {number : Nat}
    (own : world.rebuildOf? action = some number)
    (noListing : ∀ rebuild ∈ world.rebuilds, rebuild.number = number →
      rebuild.stage.succeeds = false) :
    world.SameQueue (world.step action).1 := by
  by_cases ofLoop : action.isOfLoop = true
  · rcases world.still_or_loopStep ofLoop with still | moves
    · rw [still]
      exact .refl world
    · generalize (world.step action).1 = next at moves
      cases moves with
      | starts | observes | overflows =>
          exact ⟨rfl, rfl, rfl, rfl, rfl, rfl, rfl, rfl⟩
      | takes | applies | obeys | leaves =>
          cases own
  · -- Whoever counts this rebuild out does not notice the step.
    have aside : action.movesLoop = false := movesLoop_of_own own ofLoop
    have countedOut : (fun other => other == number) number = true := beq_self_eq_true number
    have same : (world.step action).1.spared (fun other => other == number) world.loop
        world.buffer = world.spared (fun other => other == number) world.loop world.buffer :=
      spared_step_of_futile aside own countedOut noListing
    exact sameQueue_of_spared_eq same

/-- No step of a rebuild that fails in a run changes the queue. -/
theorem sameQueue_of_futile (settings : QueueSettings) (store : Store) (clock : Moment)
    (earlier : List Action) (action : Action) (later : List Action) (number : Nat) :
    let world := start settings store clock
    let current := (world.run earlier).1
    current.rebuildOf? action = some number →
      world.comesToNothing number (earlier ++ action :: later) = true →
        current.SameQueue (current.step action).1 := by
  intro world current own fails
  obtain ⟨foreseen, sole, numbered⟩ :=
    (foreseen_of_comesToNothing world (earlier ++ action :: later)).run
      (sole_start settings store clock) (numbered_start settings store clock)
  apply sameQueue_step_of_futile own
  intro rebuild member named
  apply foreseen.not_succeeds sole numbered member
  rw [named]
  exact fails

/-- The rebuilds that fail in a run are told by what the loop observes of them. -/
theorem comesToNothing_iff_of_observed (settings : QueueSettings) (store : Store)
    (clock : Moment) (actions : List Action) (number time : Nat) (outcome : Outcome) :
    let world := start settings store clock
    .observed number outcome time ∈ (world.run actions).2 →
      (world.comesToNothing number actions = true ↔ ∀ count, outcome ≠ .installed count) := by
  intro world observed
  obtain ⟨seenBefore, seenAfter, seen⟩ := List.append_of_mem observed
  obtain ⟨before, action, after, front, back, rfl, inStep, _⟩ := exists_step_of_seen seen
  have inEvents : .observed number outcome time ∈ ((world.run before).1.step action).2 := by
    rw [inStep]
    exact List.mem_append_right front List.mem_cons_self
  have ended : ⟨number, .ended outcome⟩ ∈ (world.run before).1.rebuilds :=
    ended_of_observed inEvents
  have doomed_of_fails (fails : (Stage.ended outcome).fails = true) :
      world.comesToNothing number (before ++ action :: after) = true :=
    comesToNothing_append (comesToNothing_of_doomed
      (doomed_eq_true_iff.2 ⟨_, ended, rfl, fails⟩) (action :: after))
  cases outcome with
  | installed count =>
      obtain ⟨foreseen, sole, numbered⟩ :=
        (foreseen_of_comesToNothing world (before ++ action :: after)).run
          (sole_start settings store clock) (numbered_start settings store clock)
      refine ⟨fun fails => ?_, fun notInstalled => absurd rfl (notInstalled count)⟩
      cases foreseen.not_succeeds sole numbered ended fails
  | failed fault =>
      exact ⟨fun _ count => nofun, fun _ => doomed_of_fails rfl⟩
  | panicked =>
      exact ⟨fun _ count => nofun, fun _ => doomed_of_fails rfl⟩

end World

end StalestFirst
