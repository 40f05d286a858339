import Mathlib
import StalestFirst.Proofs.Queue.Spared

namespace StalestFirst

/-! ## A loop without some of its rebuilds

A loop that has not started some of its rebuilds would start the next one sooner. Apart
from that it does what the loop does that has. -/

/-- What the loop may be without the given rebuilds. A loop that would still wait for one of
those has its timer run out already. A loop whose timer cannot be set after such a rebuild
ends, and may go on without it. -/
inductive Loop.Shadows (futile : Nat → Bool) (now : Nat) : Loop → Loop → Prop where
  | unstarted : Shadows futile now .unstarted .unstarted
  | resting {due earlier : Nat} (sooner : earlier ≤ due) (held : Option Item) :
      Shadows futile now (.running due none held) (.running earlier none held)
  | waiting {number : Nat} (kept : futile number = false) (due other : Nat)
      (held : Option Item) :
      Shadows futile now (.running due (some number) held)
        (.running other (some (Rebuild.rank futile number)) held)
  | passing {number earlier : Nat} (isFutile : futile number = true) (reached : earlier ≤ now)
      (due : Nat) (held : Option Item) :
      Shadows futile now (.running due (some number) held) (.running earlier none held)
  | ended (ending : Ending) : Shadows futile now (.ended ending) (.ended ending)
  | overflowed (loop : Loop) : Shadows futile now (.ended .overflowed) loop

namespace Loop.Shadows

variable {futile : Nat → Bool} {now later : Nat} {loop shadow : Loop}

theorem mono (shadows : Shadows futile now loop shadow) (passes : now ≤ later) :
    Shadows futile later loop shadow := by
  cases shadows with
  | unstarted =>
      exact .unstarted
  | resting sooner held =>
      exact .resting sooner held
  | waiting kept due other held =>
      exact .waiting kept due other held
  | passing isFutile reached due held =>
      exact .passing isFutile (reached.trans passes) due held
  | ended ending =>
      exact .ended ending
  | overflowed =>
      exact .overflowed shadow

/-- A loop that runs has one beside it that holds the same item, whichever that is. -/
theorem exists_holding {due : Nat} {inFlight : Option Nat} {held : Option Item}
    (shadows : Shadows futile now (.running due inFlight held) shadow) :
    ∃ other otherInFlight, shadow = .running other otherInFlight held ∧
      ∀ item, Shadows futile now (.running due inFlight item)
        (.running other otherInFlight item) := by
  cases shadows with
  | resting sooner =>
      exact ⟨_, _, rfl, .resting sooner⟩
  | waiting kept =>
      exact ⟨_, _, rfl, .waiting kept _ _⟩
  | passing isFutile reached =>
      exact ⟨_, _, rfl, .passing isFutile reached _⟩

theorem eq_unstarted_iff (shadows : Shadows futile now loop shadow)
    (alive : loop ≠ .ended .overflowed) : shadow = .unstarted ↔ loop = .unstarted := by
  cases shadows with
  | overflowed =>
      exact absurd rfl alive
  | _ =>
      simp

theorem eq_ended_iff (shadows : Shadows futile now loop shadow)
    (alive : loop ≠ .ended .overflowed) (ending : Ending) :
    shadow = .ended ending ↔ loop = .ended ending := by
  cases shadows with
  | overflowed =>
      exact absurd rfl alive
  | _ =>
      simp

end Loop.Shadows

namespace World

variable {world next : World} {futile : Nat → Bool} {loop : Loop} {buffer : List Item}

/-- The other world is this one without the given rebuilds. -/
def Twin (futile : Nat → Bool) (world other : World) : Prop :=
  ∃ loop buffer, Loop.Shadows futile world.now world.loop loop ∧
    (world.loop ≠ .ended .overflowed → buffer = world.buffer) ∧
    other = world.spared futile loop buffer

/-- After an overflow the other loop may be any. -/
theorem twin_of_overflowed (gone : world.loop = .ended .overflowed) (loop : Loop)
    (buffer : List Item) : Twin futile world (world.spared futile loop buffer) := by
  refine ⟨loop, buffer, ?_, fun alive => absurd gone alive, rfl⟩
  rw [gone]
  exact .overflowed loop

/-! ### The steps of a loop that runs -/

/-- The loop does not take this step of its own. -/
def rests (world : World) (action : Action) : Bool :=
  action.isOfLoop && decide ((world.step action).1.loop = world.loop)

/-- What a loop that runs can do, with all that must hold for it. -/
inductive LoopStep (world : World) : Action → World → Prop where
  | takes {due : Nat} {inFlight : Option Nat} {item : Item} {rest : List Item}
      (resting : world.loop = .running due inFlight none)
      (waiting : world.buffer = item :: rest) (goesOn : world.cancelled = false) :
      LoopStep world .take
        { world with buffer := rest, loop := .running due inFlight (some item) }
  | applies {due : Nat} {inFlight : Option Nat} {item : Item}
      (taken : world.loop = .running due inFlight (some item)) (free : world.visit = none) :
      LoopStep world .apply
        { world with shelf := world.shelf.apply item, loop := .running due inFlight none }
  | starts {due : Nat} (resting : world.loop = .running due none none)
      (goesOn : world.cancelled = false) (reached : due ≤ world.now) :
      LoopStep world .fireTimer
        { world with
          loop := .running due (some world.started) none
          rebuilds := world.rebuilds ++ [⟨world.started, .begun⟩]
          started := world.started + 1 }
  | observes {due number found : Nat} {outcome : Outcome}
      (waits : world.loop = .running due (some number) none) (goesOn : world.cancelled = false)
      (finished : world.rebuild? number = some ⟨found, .ended outcome⟩)
      (within : world.now + world.pause outcome < horizon) :
      LoopStep world .observe
        { world with
          rebuilds := world.rebuilds.filter fun rebuild => rebuild.number != number
          loop := .running (world.now + world.pause outcome) none none }
  | overflows {due number found : Nat} {outcome : Outcome}
      (waits : world.loop = .running due (some number) none) (goesOn : world.cancelled = false)
      (finished : world.rebuild? number = some ⟨found, .ended outcome⟩)
      (beyond : horizon ≤ world.now + world.pause outcome) :
      LoopStep world .observe
        { world with
          rebuilds := world.rebuilds.filter fun rebuild => rebuild.number != number
          loop := .ended .overflowed
          buffer := [] }
  | obeys {due : Nat} {inFlight : Option Nat}
      (resting : world.loop = .running due inFlight none) (cancelled : world.cancelled = true) :
      LoopStep world .stop { world with loop := .ended .cancelled, buffer := [] }
  | leaves {due : Nat} {inFlight : Option Nat}
      (resting : world.loop = .running due inFlight none) (goesOn : world.cancelled = false)
      (alone : world.deserted = true) (empty : world.buffer = []) :
      LoopStep world .stop { world with loop := .ended .deserted, buffer := [] }

theorem LoopStep.step_eq {action : Action} {next : World} (moves : world.LoopStep action next) :
    (world.step action).1 = next := by
  cases moves with
  | takes resting waiting goesOn =>
      simp [step, stepTake, resting, waiting, goesOn]
  | applies taken free =>
      simp [step, stepApply, taken, free]
  | starts resting goesOn reached =>
      simp [step, stepFireTimer, resting, goesOn, Nat.not_lt.2 reached]
  | observes waits goesOn finished within =>
      simp [step, stepObserve, waits, goesOn, finished, Nat.not_le.2 within]
  | overflows waits goesOn finished beyond =>
      simp [step, stepObserve, waits, goesOn, finished, beyond, endLoop]
  | obeys resting cancelled =>
      simp [step, stepStop, resting, cancelled, endLoop]
  | leaves resting goesOn alone empty =>
      simp [step, stepStop, resting, goesOn, alone, empty, endLoop]

theorem LoopStep.moves {action : Action} {next : World} (moves : world.LoopStep action next) :
    next.loop ≠ world.loop := by
  cases moves with
  | takes resting waiting goesOn =>
      simp [resting]
  | applies taken free =>
      simp [taken]
  | starts resting goesOn reached =>
      simp [resting]
  | observes waits goesOn finished within =>
      simp [waits]
  | overflows waits goesOn finished beyond =>
      simp [waits]
  | obeys resting cancelled =>
      simp [resting]
  | leaves resting goesOn alone empty =>
      simp [resting]

/-- The loop takes a step of its own, or nothing happens. -/
theorem still_or_loopStep (world : World) {action : Action} (own : action.isOfLoop = true) :
    world.step action = (world, []) ∨ world.LoopStep action (world.step action).1 := by
  cases action with
  | take =>
      simp only [step, stepTake]
      split
      · rename_i resting waiting
        split
        · exact Or.inl rfl
        · rename_i goesOn
          exact Or.inr (.takes resting waiting (Bool.eq_false_iff.2 goesOn))
      · exact Or.inl rfl
  | apply =>
      simp only [step, stepApply]
      split
      · rename_i taken
        split
        · exact Or.inl rfl
        · rename_i free
          exact Or.inr (.applies taken (Option.not_isSome_iff_eq_none.1 free))
      · exact Or.inl rfl
  | fireTimer =>
      simp only [step, stepFireTimer]
      split
      · rename_i resting
        split
        · exact Or.inl rfl
        · rename_i fires
          simp only [Bool.or_eq_true, decide_eq_true_eq, not_or, Bool.not_eq_true,
            Nat.not_lt] at fires
          exact Or.inr (.starts resting fires.1 fires.2)
      · exact Or.inl rfl
  | observe =>
      simp only [step, stepObserve]
      split
      · rename_i waits
        split
        · rename_i goesOn finished
          refine Or.inr ?_
          split
          · rename_i beyond
            exact .overflows waits goesOn finished beyond
          · rename_i within
            exact .observes waits goesOn finished (Nat.not_le.1 within)
        · exact Or.inl rfl
      · exact Or.inl rfl
  | stop =>
      simp only [step, stepStop]
      split
      · rename_i resting
        split
        · rename_i cancelled
          exact Or.inr (.obeys resting cancelled)
        · rename_i goesOn
          split
          · rename_i deserted
            simp only [Bool.and_eq_true, List.isEmpty_iff] at deserted
            exact Or.inr (.leaves resting (Bool.eq_false_iff.2 goesOn) deserted.1 deserted.2)
          · exact Or.inl rfl
      · exact Or.inl rfl
  | _ =>
      cases own

theorem step_of_rests {action : Action} (rests : world.rests action = true) :
    world.step action = (world, []) := by
  rw [World.rests, Bool.and_eq_true, decide_eq_true_eq] at rests
  rcases world.still_or_loopStep rests.1 with still | moves
  · exact still
  · exact absurd rests.2 moves.moves

/-! ### One step of the loop -/

theorem receiving_congr {other : World}
    (same : ∀ ending, other.loop = .ended ending ↔ world.loop = .ended ending) :
    other.receiving = world.receiving := by
  rw [Bool.eq_iff_iff, receiving_eq_true_iff, receiving_eq_true_iff]
  simp only [ne_eq, same]

theorem twin_submit {other : World} (twin : Twin futile world other) (item : Item) :
    Twin futile (world.stepSubmit item).1 (other.stepSubmit item).1 := by
  obtain ⟨loop, buffer, shadows, sameBuffer, rfl⟩ := twin
  by_cases gone : world.loop = .ended .overflowed
  · have refused : (world.stepSubmit item).1 = world := by
      simp only [stepSubmit, receiving, gone, Bool.and_false, Bool.false_and]
      split
      · rfl
      · rfl
    rw [refused]
    simp only [stepSubmit]
    split
    · exact twin_of_overflowed gone loop buffer
    · split
      · exact twin_of_overflowed gone loop (buffer ++ [item])
      · exact twin_of_overflowed gone loop buffer
  · obtain rfl := sameBuffer gone
    have sameReceiving : (world.spared futile loop world.buffer).receiving = world.receiving :=
      receiving_congr (shadows.eq_ended_iff gone)
    have sameHandles : (world.spared futile loop world.buffer).handles = world.handles := rfl
    have sameReady : (world.spared futile loop world.buffer).ready = world.ready := rfl
    have sameRow : (world.spared futile loop world.buffer).buffer = world.buffer := rfl
    have sameCapacity : (world.spared futile loop world.buffer).capacity = world.capacity := rfl
    simp only [stepSubmit, sameHandles, sameReady, sameRow, sameCapacity, sameReceiving]
    split
    · exact ⟨loop, _, shadows, fun _ => rfl, rfl⟩
    · split
      · exact ⟨loop, _, shadows, fun _ => rfl, rfl⟩
      · exact ⟨loop, _, shadows, fun _ => rfl, rfl⟩

theorem stepSpawn_of_ne (started : world.loop ≠ .unstarted) : world.stepSpawn = (world, []) := by
  unfold stepSpawn
  split
  · rename_i unstarted
    exact absurd unstarted started
  · rfl

theorem stepDropLoop_of_ne (started : world.loop ≠ .unstarted) :
    world.stepDropLoop = (world, []) := by
  unfold stepDropLoop
  split
  · rename_i unstarted
    exact absurd unstarted started
  · rfl

theorem twin_spawn {other : World} (twin : Twin futile world other) :
    Twin futile world.stepSpawn.1 other.stepSpawn.1 := by
  obtain ⟨loop, buffer, shadows, sameBuffer, rfl⟩ := twin
  by_cases unstarted : world.loop = .unstarted
  · rw [unstarted] at shadows
    cases shadows
    obtain rfl := sameBuffer (by simp [unstarted])
    refine ⟨.running world.now none none, world.buffer, ?_, ?_, ?_⟩
    · simp only [stepSpawn, unstarted]
      exact .resting (Nat.le_refl _) none
    · simp [stepSpawn, unstarted]
    · simp [stepSpawn, unstarted, spared]
  · rw [stepSpawn_of_ne unstarted]
    by_cases gone : world.loop = .ended .overflowed
    · simp only [stepSpawn]
      split
      · exact twin_of_overflowed gone (.running world.now none none) buffer
      · exact twin_of_overflowed gone loop buffer
    · have otherStarted : (world.spared futile loop buffer).loop ≠ .unstarted :=
        fun same => unstarted ((shadows.eq_unstarted_iff gone).1 same)
      rw [stepSpawn_of_ne otherStarted]
      exact ⟨loop, buffer, shadows, sameBuffer, rfl⟩

theorem twin_dropLoop {other : World} (twin : Twin futile world other) :
    Twin futile world.stepDropLoop.1 other.stepDropLoop.1 := by
  obtain ⟨loop, buffer, shadows, sameBuffer, rfl⟩ := twin
  by_cases unstarted : world.loop = .unstarted
  · rw [unstarted] at shadows
    cases shadows
    refine ⟨.ended .dropped, [], ?_, ?_, ?_⟩
    · simp only [stepDropLoop, unstarted, endLoop]
      exact .ended _
    · simp [stepDropLoop, unstarted, endLoop]
    · simp [stepDropLoop, unstarted, endLoop, spared]
  · rw [stepDropLoop_of_ne unstarted]
    by_cases gone : world.loop = .ended .overflowed
    · simp only [stepDropLoop]
      split
      · exact twin_of_overflowed gone (.ended .dropped) []
      · exact twin_of_overflowed gone loop buffer
    · have otherStarted : (world.spared futile loop buffer).loop ≠ .unstarted :=
        fun same => unstarted ((shadows.eq_unstarted_iff gone).1 same)
      rw [stepDropLoop_of_ne otherStarted]
      exact ⟨loop, buffer, shadows, sameBuffer, rfl⟩

/-- The loop takes the same step in the world without the given rebuilds. -/
theorem twin_loopStep {action : Action} {other : World} (moves : world.LoopStep action next)
    (twin : Twin futile world other)
    (kept : ∀ number, world.rebuildOf? action = some number → futile number = false) :
    Twin futile next (other.step action).1 := by
  obtain ⟨loop, buffer, shadows, sameBuffer, rfl⟩ := twin
  cases moves with
  | takes resting waiting goesOn =>
      obtain rfl := sameBuffer (by simp [resting])
      rw [resting] at shadows
      obtain ⟨due, inFlight, rfl, holds⟩ := shadows.exists_holding
      exact ⟨_, _, holds _, fun _ => rfl, LoopStep.step_eq (.takes rfl waiting goesOn)⟩
  | applies taken free =>
      have alive : world.loop ≠ .ended .overflowed := by simp [taken]
      rw [taken] at shadows
      obtain ⟨due, inFlight, rfl, holds⟩ := shadows.exists_holding
      exact ⟨_, _, holds _, fun _ => sameBuffer alive, LoopStep.step_eq (.applies rfl free)⟩
  | starts resting goesOn reached =>
      have alive : world.loop ≠ .ended .overflowed := by simp [resting]
      have startedKept := kept world.started rfl
      rw [resting] at shadows
      cases shadows with
      | @resting _ earlier sooner =>
          -- The other timer was due no later, so it has run out as well.
          refine ⟨_, _, .waiting startedKept _ earlier none, fun _ => sameBuffer alive, ?_⟩
          refine Eq.trans (LoopStep.step_eq (.starts rfl goesOn (sooner.trans reached))) ?_
          simp only [spared, Rebuild.counted_append, Rebuild.rank_succ_of_kept startedKept]
          rw [Rebuild.counted_cons_of_kept startedKept]
          rfl
  | @observes _ number found outcome waits goesOn finished within =>
      have alive : world.loop ≠ .ended .overflowed := by simp [waits]
      have observedKept : futile number = false :=
        kept number (by simp [rebuildOf?, waits, Loop.inFlight?])
      rw [waits] at shadows
      cases shadows with
      | waiting _ _ due =>
          refine ⟨_, _, .resting (Nat.le_refl _) none, fun _ => sameBuffer alive, ?_⟩
          refine Eq.trans (LoopStep.step_eq
            (.observes rfl goesOn (finished_spared observedKept finished) within)) ?_
          simp only [spared, Rebuild.counted_filter_of_kept observedKept]
          rfl
      | passing isFutile =>
          rw [observedKept] at isFutile
          cases isFutile
  | @overflows _ number found outcome waits goesOn finished beyond =>
      have observedKept : futile number = false :=
        kept number (by simp [rebuildOf?, waits, Loop.inFlight?])
      rw [waits] at shadows
      cases shadows with
      | waiting _ _ due =>
          refine ⟨_, _, .ended _, fun _ => rfl, ?_⟩
          refine Eq.trans (LoopStep.step_eq
            (.overflows rfl goesOn (finished_spared observedKept finished) beyond)) ?_
          simp only [spared, Rebuild.counted_filter_of_kept observedKept]
      | passing isFutile =>
          rw [observedKept] at isFutile
          cases isFutile
  | obeys resting cancelled =>
      rw [resting] at shadows
      obtain ⟨due, inFlight, rfl, _⟩ := shadows.exists_holding
      exact ⟨_, _, .ended _, fun _ => rfl, LoopStep.step_eq (.obeys rfl cancelled)⟩
  | leaves resting goesOn alone empty =>
      obtain rfl := sameBuffer (by simp [resting])
      rw [resting] at shadows
      obtain ⟨due, inFlight, rfl, _⟩ := shadows.exists_holding
      exact ⟨_, _, .ended _, fun _ => rfl, LoopStep.step_eq (.leaves rfl goesOn alone empty)⟩

/-- What the loop does about a rebuild that comes to nothing, it might leave undone. -/
theorem twin_loopStep_of_futile {action : Action} {other : World} {number : Nat}
    (moves : world.LoopStep action next) (twin : Twin futile world other)
    (own : world.rebuildOf? action = some number) (isFutile : futile number = true) :
    Twin futile next other := by
  obtain ⟨loop, buffer, shadows, sameBuffer, rfl⟩ := twin
  cases moves with
  | starts resting goesOn reached =>
      have alive : world.loop ≠ .ended .overflowed := by simp [resting]
      obtain rfl := Option.some.inj own
      rw [resting] at shadows
      cases shadows with
      | resting sooner =>
          refine ⟨_, _, .passing isFutile (sooner.trans reached) _ none,
            fun _ => sameBuffer alive, ?_⟩
          simp only [spared, Rebuild.counted_append, Rebuild.rank_succ_of_futile isFutile]
          rw [Rebuild.counted_cons_of_futile isFutile, Rebuild.counted_nil, List.append_nil]
  | observes waits goesOn finished within =>
      have alive : world.loop ≠ .ended .overflowed := by simp [waits]
      rw [rebuildOf?, waits] at own
      obtain rfl := Option.some.inj own
      rw [waits] at shadows
      cases shadows with
      | waiting kept =>
          rw [isFutile] at kept
          cases kept
      | passing _ reached =>
          -- This loop pauses now, while the other timer has run out before.
          refine ⟨_, _, .resting (reached.trans (Nat.le_add_right _ _)) none,
            fun _ => sameBuffer alive, ?_⟩
          simp only [spared, Rebuild.counted_filter_of_futile isFutile]
  | overflows waits goesOn finished beyond =>
      rw [rebuildOf?, waits] at own
      obtain rfl := Option.some.inj own
      refine ⟨loop, buffer, .overflowed loop, fun alive => absurd rfl alive, ?_⟩
      simp only [spared, Rebuild.counted_filter_of_futile isFutile]
  | takes =>
      cases own
  | applies =>
      cases own
  | obeys =>
      cases own
  | leaves =>
      cases own

/-! ### One step -/

theorem loop_step (world : World) {action : Action} (aside : action.movesLoop = false) :
    (world.step action).1.loop = world.loop ∧ (world.step action).1.buffer = world.buffer ∧
      world.now ≤ (world.step action).1.now := by
  have motion := world.motion action
  generalize (world.step action).1 = next at motion ⊢
  generalize (world.step action).2 = events at motion
  cases motion with
  | beside same silent =>
      exact ⟨same.loop, same.buffer, same.now⟩
  | ends mayEnd own =>
      rcases own with rfl | rfl
      · cases aside
      · cases aside
  | _ =>
      cases aside

theorem movesLoop_of_own {action : Action} {number : Nat}
    (own : world.rebuildOf? action = some number) (notOfLoop : ¬ action.isOfLoop = true) :
    action.movesLoop = false := by
  cases action with
  | submit | spawn | dropLoop =>
      cases own
  | _ =>
      exact Bool.eq_false_iff.2 notOfLoop

theorem twin_step_of_futile {action : Action} {other : World} {number : Nat}
    (twin : Twin futile world other) (own : world.rebuildOf? action = some number)
    (isFutile : futile number = true)
    (noListing : ∀ rebuild ∈ world.rebuilds, rebuild.number = number →
      rebuild.stage.succeeds = false) :
    Twin futile (world.step action).1 other := by
  by_cases ofLoop : action.isOfLoop = true
  · rcases world.still_or_loopStep ofLoop with still | moves
    · rw [still]
      exact twin
    · exact twin_loopStep_of_futile moves twin own isFutile
  · have aside := movesLoop_of_own own ofLoop
    obtain ⟨loop, buffer, shadows, sameBuffer, rfl⟩ := twin
    obtain ⟨sameLoop, sameRow, later⟩ := world.loop_step aside
    refine ⟨loop, buffer, ?_, ?_, (spared_step_of_futile aside own isFutile noListing).symm⟩
    · rw [sameLoop]
      exact shadows.mono later
    · rw [sameLoop, sameRow]
      exact sameBuffer

theorem twin_step {action : Action} {other : World} (twin : Twin futile world other)
    (goesOn : world.rests action = false)
    (kept : ∀ number, world.rebuildOf? action = some number → futile number = false) :
    Twin futile (world.step action).1 (other.step (action.renumber futile)).1 := by
  by_cases aside : action.movesLoop = false
  · obtain ⟨loop, buffer, shadows, sameBuffer, rfl⟩ := twin
    obtain ⟨sameLoop, sameRow, later⟩ := world.loop_step aside
    refine ⟨loop, buffer, ?_, ?_, step_spared aside kept⟩
    · rw [sameLoop]
      exact shadows.mono later
    · rw [sameLoop, sameRow]
      exact sameBuffer
  · have ofLoop_twin (ofLoop : action.isOfLoop = true) :
        Twin futile (world.step action).1 (other.step action).1 := by
      rcases world.still_or_loopStep ofLoop with still | moves
      · simp [rests, ofLoop, still] at goesOn
      · exact twin_loopStep moves twin kept
    cases action with
    | submit item =>
        exact twin_submit twin item
    | spawn =>
        exact twin_spawn twin
    | dropLoop =>
        exact twin_dropLoop twin
    | take | apply | fireTimer | observe | stop =>
        exact ofLoop_twin rfl
    | _ =>
        exact absurd rfl aside

end World

end StalestFirst
