import Mathlib
import StalestFirst.Proofs.Queue.Run

namespace StalestFirst

/-! ## What a step can do to the loop

Retrievals and rebuilds go on beside the loop. The steps that move the loop, its timer
or its buffer are told apart here, with all that must hold for the loop to take them. -/

/-- The event says nothing about the loop or its items. -/
inductive Event.BesideLoop : Event → Prop where
  | answered (call : Nat) (result : Except Fault String) :
      BesideLoop (.answered call result)
  | refused (item : Item) : BesideLoop (.refused item)
  | listed (rebuild : Nat) (result : Except Fault (List ViewedBox)) :
      BesideLoop (.listed rebuild result)
  | installed (rebuild : Nat) (listing : List ViewedBox) :
      BesideLoop (.installed rebuild listing)

attribute [simp] Event.BesideLoop.answered Event.BesideLoop.refused
  Event.BesideLoop.listed Event.BesideLoop.installed

namespace World

/-- The loop is at the same point in both worlds, with the same items waiting and the
same rebuilds at work. Time may have passed, and a rebuild may have announced that the
queue is ready. -/
structure SameLoop (world next : World) : Prop where
  settings : next.settings = world.settings
  loop : next.loop = world.loop
  buffer : next.buffer = world.buffer
  started : next.started = world.started
  rebuilds : next.rebuilds.map Rebuild.number = world.rebuilds.map Rebuild.number
  now : world.now ≤ next.now
  ready : next.ready = true → world.ready = true ∨ world.rebuilds ≠ []

theorem SameLoop.refl (world : World) : world.SameLoop world :=
  ⟨rfl, rfl, rfl, rfl, rfl, Nat.le_refl _, Or.inl⟩

theorem SameLoop.setStage {world next : World} (same : world.SameLoop next)
    (number : Nat) (stage : Stage) : world.SameLoop (next.setStage number stage) where
  settings := same.settings
  loop := same.loop
  buffer := same.buffer
  started := same.started
  rebuilds := by
    rw [← same.rebuilds, World.setStage, List.map_map]
    refine List.map_congr_left fun rebuild _ => ?_
    rw [Function.comp_apply]
    split
    · rfl
    · rfl
  now := same.now
  ready := same.ready

theorem SameLoop.withoutCall (world : World) (call : Nat) :
    world.SameLoop (world.withoutCall call) :=
  ⟨rfl, rfl, rfl, rfl, rfl, Nat.le_refl _, Or.inl⟩

/-- Why a loop that is not busy may end. -/
inductive MayEnd (world : World) : Ending → Prop where
  | dropped (unstarted : world.loop = .unstarted) : MayEnd world .dropped
  | cancelled {due : Nat} {inFlight : Option Nat} (cancelled : world.cancelled = true)
      (resting : world.loop = .running due inFlight none) : MayEnd world .cancelled
  | deserted {due : Nat} {inFlight : Option Nat} (empty : world.buffer = [])
      (resting : world.loop = .running due inFlight none)
      (alone : world.deserted = true) : MayEnd world .deserted

/-- What a step can do to the loop. -/
inductive Motion (world : World) : Action → World → List Event → Prop where
  | beside {action : Action} {next : World} {events : List Event}
      (same : world.SameLoop next)
      (silent : ∀ event ∈ events, event.BesideLoop) :
      Motion world action next events
  | accepts {item : Item} (ready : world.ready = true)
      (receiving : world.receiving = true)
      (room : world.buffer.length < world.capacity) :
      Motion world (.submit item) { world with buffer := world.buffer ++ [item] }
        [.accepted item]
  | takes {due : Nat} {inFlight : Option Nat} {item : Item} {rest : List Item}
      (resting : world.loop = .running due inFlight none)
      (waiting : world.buffer = item :: rest) :
      Motion world .take
        { world with buffer := rest, loop := .running due inFlight (some item) } []
  | applies {due : Nat} {inFlight : Option Nat} {item : Item}
      (taken : world.loop = .running due inFlight (some item)) :
      Motion world .apply
        { world with
          shelf := world.shelf.apply item
          loop := .running due inFlight none }
        [.applied item]
  | spawns (unstarted : world.loop = .unstarted) :
      Motion world .spawn { world with loop := .running world.now none none } []
  | starts {due : Nat} (resting : world.loop = .running due none none)
      (reached : due ≤ world.now) :
      Motion world .fireTimer
        { world with
          loop := .running due (some world.started) none
          rebuilds := world.rebuilds ++ [⟨world.started, .begun⟩]
          started := world.started + 1 }
        [.started world.started world.now]
  | observes {due number found : Nat} {outcome : Outcome}
      (waits : world.loop = .running due (some number) none)
      (finished : world.rebuild? number = some ⟨found, .ended outcome⟩)
      (within : world.now + world.pause outcome < horizon) :
      Motion world .observe
        { world with
          rebuilds := world.rebuilds.filter fun rebuild => rebuild.number != number
          loop := .running (world.now + world.pause outcome) none none }
        [.observed number outcome world.now]
  | overflows {due number found : Nat} {outcome : Outcome}
      (waits : world.loop = .running due (some number) none)
      (finished : world.rebuild? number = some ⟨found, .ended outcome⟩)
      (beyond : horizon ≤ world.now + world.pause outcome) :
      Motion world .observe
        { world with
          rebuilds := world.rebuilds.filter fun rebuild => rebuild.number != number
          loop := .ended .overflowed
          buffer := [] }
        [.observed number outcome world.now, .ended .overflowed]
  | ends {action : Action} {ending : Ending} (mayEnd : world.MayEnd ending)
      (own : action = .dropLoop ∨ action = .stop) :
      Motion world action { world with loop := .ended ending, buffer := [] }
        [.ended ending]

namespace Motion

variable {world : World}

private theorem still (action : Action) : Motion world action world [] :=
  .beside (.refl world) fun _ member => absurd member List.not_mem_nil

private theorem ofCall (call : Nat) :
    Motion world (.call call) (world.stepCall call).1 (world.stepCall call).2 := by
  unfold stepCall
  split
  · exact still _
  · split
    · exact .beside ⟨rfl, rfl, rfl, rfl, rfl, Nat.le_refl _, Or.inl⟩ (by simp)
    · exact .beside (.refl world) (by simp)

private theorem ofEnter (call number : Nat) :
    Motion world (.enter call number)
      (world.stepEnter call number).1 (world.stepEnter call number).2 := by
  unfold stepEnter
  split
  · exact still _
  · split
    · exact .beside (.withoutCall world call) (by simp)
    · exact .beside ⟨rfl, rfl, rfl, rfl, rfl, Nat.le_refl _, Or.inl⟩ (by simp)

private theorem ofRecord (call : Nat) :
    Motion world (.record call)
      (world.stepRecord call).1 (world.stepRecord call).2 := by
  unfold stepRecord
  split
  · exact still _
  · split
    · exact .beside ⟨rfl, rfl, rfl, rfl, rfl, Nat.le_refl _, Or.inl⟩ (by simp)
    · exact still _

private theorem ofExpire (call : Nat) :
    Motion world (.expire call)
      (world.stepExpire call).1 (world.stepExpire call).2 := by
  unfold stepExpire
  split
  · exact .beside (.withoutCall world call) (by simp)
  · exact still _

private theorem ofSubmit (item : Item) :
    Motion world (.submit item)
      (world.stepSubmit item).1 (world.stepSubmit item).2 := by
  unfold stepSubmit
  split
  · exact still _
  · split
    · rename_i open_
      simp only [Bool.and_eq_true, decide_eq_true_eq] at open_
      exact .accepts open_.1.1 open_.1.2 open_.2
    · exact .beside (.refl world) (by simp)

private theorem ofTake : Motion world .take world.stepTake.1 world.stepTake.2 := by
  unfold stepTake
  split
  · rename_i resting waiting
    split
    · exact still _
    · exact .takes resting waiting
  · exact still _

private theorem ofApply : Motion world .apply world.stepApply.1 world.stepApply.2 := by
  unfold stepApply
  split
  · rename_i taken
    split
    · exact still _
    · exact .applies taken
  · exact still _

private theorem ofSpawn : Motion world .spawn world.stepSpawn.1 world.stepSpawn.2 := by
  unfold stepSpawn
  split
  · rename_i unstarted
    exact .spawns unstarted
  · exact still _

private theorem ofDropLoop :
    Motion world .dropLoop world.stepDropLoop.1 world.stepDropLoop.2 := by
  unfold stepDropLoop
  split
  · rename_i unstarted
    exact .ends (.dropped unstarted) (Or.inl rfl)
  · exact still _

private theorem ofFireTimer :
    Motion world .fireTimer world.stepFireTimer.1 world.stepFireTimer.2 := by
  unfold stepFireTimer
  split
  · rename_i resting
    split
    · exact still _
    · rename_i fires
      simp only [Bool.or_eq_true, decide_eq_true_eq, not_or, Nat.not_lt] at fires
      exact .starts resting fires.2
  · exact still _

private theorem ofObserve :
    Motion world .observe world.stepObserve.1 world.stepObserve.2 := by
  unfold stepObserve
  split
  · rename_i waits
    split
    · rename_i finished
      dsimp only
      split
      · rename_i beyond
        exact .overflows waits finished beyond
      · rename_i within
        exact .observes waits finished (Nat.not_le.1 within)
    · exact still _
  · exact still _

private theorem ofStop : Motion world .stop world.stepStop.1 world.stepStop.2 := by
  unfold stepStop
  split
  · rename_i resting
    split
    · rename_i cancelled
      exact .ends (.cancelled cancelled resting) (Or.inr rfl)
    · split
      · rename_i deserted
        simp only [Bool.and_eq_true, List.isEmpty_iff] at deserted
        exact .ends (.deserted deserted.2 resting deserted.1) (Or.inr rfl)
      · exact still _
  · exact still _

end Motion

/-- Every step moves the loop in one of these ways. -/
theorem motion (world : World) (action : Action) :
    Motion world action (world.step action).1 (world.step action).2 := by
  cases action with
  | submit item =>
      exact Motion.ofSubmit item
  | take =>
      exact Motion.ofTake
  | apply =>
      exact Motion.ofApply
  | spawn =>
      exact Motion.ofSpawn
  | dropLoop =>
      exact Motion.ofDropLoop
  | fireTimer =>
      exact Motion.ofFireTimer
  | observe =>
      exact Motion.ofObserve
  | stop =>
      exact Motion.ofStop
  | list number =>
      simp only [step, stepList]
      split
      · exact .beside ((SameLoop.refl world).setStage number _) (by simp)
      · exact Motion.still _
  | panic number =>
      simp only [step, stepPanic]
      split
      · exact .beside ((SameLoop.refl world).setStage number _) (by simp)
      · exact Motion.still _
  | receive number =>
      simp only [step, stepReceive]
      split
      · exact .beside ((SameLoop.refl world).setStage number _) (by simp)
      · exact .beside ((SameLoop.refl world).setStage number _) (by simp)
      · exact Motion.still _
  | install number =>
      simp only [step, stepInstall]
      split
      · rename_i listing _ _
        have same : world.SameLoop { world with shelf := world.shelf.install listing } :=
          ⟨rfl, rfl, rfl, rfl, rfl, Nat.le_refl _, Or.inl⟩
        exact .beside (same.setStage number _) (by simp)
      · exact Motion.still _
  | announce number =>
      simp only [step, stepAnnounce]
      split
      · rename_i swapped
        have present : world.rebuilds ≠ [] :=
          List.ne_nil_of_mem (List.mem_of_find?_eq_some swapped)
        have same : world.SameLoop { world with ready := true } :=
          ⟨rfl, rfl, rfl, rfl, rfl, Nat.le_refl _, fun _ => Or.inr present⟩
        exact .beside (same.setStage number _) (by simp)
      · exact Motion.still _
  | pass milliseconds =>
      exact .beside ⟨rfl, rfl, rfl, rfl, rfl, Nat.le_add_right _ _, Or.inl⟩
        (by simp [step])
  | call call =>
      exact Motion.ofCall call
  | enter call number =>
      exact Motion.ofEnter call number
  | record call =>
      exact Motion.ofRecord call
  | expire call =>
      exact Motion.ofExpire call
  | cloneHandle =>
      simp only [step]
      split
      · exact Motion.still _
      · exact .beside ⟨rfl, rfl, rfl, rfl, rfl, Nat.le_refl _, Or.inl⟩ (by simp)
  | abandon call =>
      exact .beside (.withoutCall world call) (by simp [step])
  | cancel =>
      exact .beside ⟨rfl, rfl, rfl, rfl, rfl, Nat.le_refl _, Or.inl⟩ (by simp [step])
  | dropHandle =>
      exact .beside ⟨rfl, rfl, rfl, rfl, rfl, Nat.le_refl _, Or.inl⟩ (by simp [step])
  | write write =>
      exact .beside ⟨rfl, rfl, rfl, rfl, rfl, Nat.le_refl _, Or.inl⟩ (by simp [step])
  | setClock clock =>
      exact .beside ⟨rfl, rfl, rfl, rfl, rfl, Nat.le_refl _, Or.inl⟩ (by simp [step])

/-- No step changes the settings. -/
theorem settings_step (world : World) (action : Action) :
    (world.step action).1.settings = world.settings := by
  have motion := world.motion action
  generalize (world.step action).1 = next at motion ⊢
  generalize (world.step action).2 = events at motion
  cases motion with
  | beside same silent =>
      exact same.settings
  | _ =>
      rfl

theorem settings_run (world : World) (actions : List Action) :
    (world.run actions).1.settings = world.settings := by
  have kept : ∀ (current : World) (action : Action),
      current.settings = world.settings →
        (current.step action).1.settings = world.settings :=
    fun current action same => (settings_step current action).trans same
  exact run_invariant_of_all kept actions rfl

theorem receiving_eq_true_iff {world : World} :
    world.receiving = true ↔ ∀ ending, world.loop ≠ .ended ending := by
  unfold receiving
  split
  · rename_i ending ended
    simp [ended]
  · rename_i otherwise
    exact iff_of_true rfl otherwise

/-! ## A loop that is gone -/

/-- Once the loop is gone, everything happens beside it. -/
theorem beside_of_ended {world : World} {ending : Ending}
    (ended : world.loop = .ended ending) (action : Action) :
    (world.step action).1.loop = .ended ending ∧
      ∀ event ∈ (world.step action).2, event.BesideLoop := by
  have motion := world.motion action
  generalize (world.step action).1 = next at motion ⊢
  generalize (world.step action).2 = events at motion ⊢
  cases motion with
  | beside same silent =>
      exact ⟨same.loop.trans ended, silent⟩
  | accepts ready receiving room =>
      exact absurd ended (receiving_eq_true_iff.1 receiving ending)
  | takes resting waiting =>
      simp [ended] at resting
  | applies taken =>
      simp [ended] at taken
  | spawns unstarted =>
      simp [ended] at unstarted
  | starts resting reached =>
      simp [ended] at resting
  | observes waits finished =>
      simp [ended] at waits
  | overflows waits finished beyond =>
      simp [ended] at waits
  | ends mayEnd =>
      cases mayEnd with
      | dropped unstarted =>
          simp [ended] at unstarted
      | cancelled _ resting =>
          simp [ended] at resting
      | deserted _ resting =>
          simp [ended] at resting

theorem beside_of_ended_run {world : World} {ending : Ending}
    (ended : world.loop = .ended ending) (actions : List Action) :
    ∀ event ∈ (world.run actions).2, event.BesideLoop := by
  induction actions generalizing world with
  | nil =>
      exact fun _ member => absurd member List.not_mem_nil
  | cons action rest inductionHypothesis =>
      obtain ⟨still, silent⟩ := beside_of_ended ended action
      intro event member
      rw [run_cons] at member
      rcases List.mem_append.1 member with now | later
      · exact silent event now
      · exact inductionHypothesis still event later

end World

end StalestFirst
