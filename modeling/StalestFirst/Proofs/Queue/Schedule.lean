import Mathlib
import StalestFirst.Proofs.Queue.Items
import StalestFirst.Proofs.Queue.Rebuilds
import StalestFirst.Simulation

namespace StalestFirst

/-! ## The schedule of the rebuilds

The loop starts a rebuild, observes how it ended, pauses, and starts the next one.
Items that come in between change nothing about that. -/

/-- The start of a rebuild, or the observation of how it ended, with its time. -/
inductive Beat where
  | started (number time : Nat)
  | observed (number : Nat) (outcome : Outcome) (time : Nat)

def Event.beat? : Event → Option Beat
  | .started number time => some (.started number time)
  | .observed number outcome time => some (.observed number outcome time)
  | _ => none

/-- The step submits an item, or the loop takes or applies one. -/
def Action.MovesItem : Action → Prop
  | .submit _ | .take | .apply => True
  | _ => False

namespace Beat

/-- The number of the rebuild that a beat starts. -/
def started? : Beat → Option Nat
  | .started number _ => some number
  | .observed _ _ _ => none

/-- The number of the rebuild that a beat observes. -/
def observed? : Beat → Option Nat
  | .started _ _ => none
  | .observed number _ _ => some number

/-- What may come after a start and after an observation, and how much later. -/
inductive Follows (settings : QueueSettings) : Beat → Beat → Prop where
  | observation {number began ended : Nat} {outcome : Outcome} (later : began ≤ ended) :
      Follows settings (.started number began) (.observed number outcome ended)
  | afterSuccess {number count ended began : Nat}
      (rested : ended + settings.resyncSeconds.toNat * 1000 ≤ began) :
      Follows settings (.observed number (.installed count) ended)
        (.started (number + 1) began)
  | afterFailure {number ended began : Nat} {outcome : Outcome}
      (failed : ∀ count, outcome ≠ .installed count)
      (rested : ended + settings.retrySeconds.toNat * 1000 ≤ began) :
      Follows settings (.observed number outcome ended) (.started (number + 1) began)

theorem follows_of_pause {world : World} {number ended began : Nat} {outcome : Outcome}
    (rested : ended + world.pause outcome ≤ began) :
    Follows world.settings (.observed number outcome ended)
      (.started (number + 1) began) := by
  cases outcome with
  | installed count =>
      exact .afterSuccess rested
  | failed fault =>
      exact .afterFailure nofun rested
  | panicked =>
      exact .afterFailure nofun rested

end Beat

namespace Loop

/-- The loop, apart from the item it has taken. -/
def withoutItem : Loop → Loop
  | .running due inFlight _ => .running due inFlight none
  | loop => loop

/-- The rebuild that the loop waits for. -/
def inFlight? : Loop → Option Nat
  | .running _ inFlight _ => inFlight
  | _ => none

theorem inFlight?_withoutItem (loop : Loop) :
    loop.withoutItem.inFlight? = loop.inFlight? := by
  cases loop with
  | unstarted =>
      rfl
  | running due inFlight held =>
      rfl
  | ended ending =>
      rfl

end Loop

namespace World

variable {world next : World} {beats : List Beat}

theorem beats_of_besideLoop {events : List Event}
    (silent : ∀ event ∈ events, event.BesideLoop) : events.filterMap Event.beat? = [] :=
  Event.filterMap_of_blind (fun _ beside => by cases beside <;> rfl) silent

/-! ### What is known without looking back -/

/-- While there is a loop, the rebuild it waits for is the only one. Before the first
rebuild the queue is not ready, and so it has no items. -/
structure Attended (world : World) : Prop where
  numbers : world.receiving = true →
    world.rebuilds.map Rebuild.number = world.loop.inFlight?.toList
  noneYet : world.started = 0 →
    world.rebuilds = [] ∧ world.ready = false ∧ world.items = []

theorem Attended.rebuild_number (attended : world.Attended) {due number : Nat}
    (waits : world.loop = .running due (some number) none) :
    world.rebuilds.map Rebuild.number = [number] := by
  have receiving : world.receiving = true := by simp [World.receiving, waits]
  have numbers := attended.numbers receiving
  rw [waits] at numbers
  exact numbers

theorem Attended.no_rebuilds (attended : world.Attended)
    (receiving : world.receiving = true) (idle : world.loop.inFlight? = none) :
    world.rebuilds = [] := by
  have numbers := attended.numbers receiving
  rw [idle] at numbers
  exact List.map_eq_nil_iff.1 numbers

/-- When the outcome of the only rebuild is observed, no rebuild is left. -/
theorem Attended.none_left (attended : world.Attended) {due number : Nat}
    (waits : world.loop = .running due (some number) none) :
    (world.rebuilds.filter fun rebuild => rebuild.number != number) = [] := by
  rw [List.filter_eq_nil_iff]
  intro rebuild member
  have named : rebuild.number ∈ world.rebuilds.map Rebuild.number :=
    List.mem_map_of_mem member
  rw [attended.rebuild_number waits, List.mem_singleton] at named
  simp [named]

theorem attended_start (settings : QueueSettings) (store : Store) (clock : Moment) :
    (start settings store clock).Attended :=
  ⟨fun _ => rfl, fun _ => ⟨rfl, rfl, rfl⟩⟩

theorem attended_step (world : World) (action : Action) (attended : world.Attended) :
    (world.step action).1.Attended := by
  have motion := world.motion action
  generalize (world.step action).1 = next at motion ⊢
  generalize (world.step action).2 = events at motion
  cases motion with
  | beside same silent =>
      have sameReceiving : next.receiving = world.receiving := by
        rw [receiving, receiving, same.loop]
      refine ⟨fun receiving => ?_, fun zero => ?_⟩
      · rw [same.rebuilds, same.loop]
        exact attended.numbers (sameReceiving ▸ receiving)
      · obtain ⟨noRebuilds, notReady, noItems⟩ := attended.noneYet (same.started ▸ zero)
        have numbers := same.rebuilds
        rw [noRebuilds] at numbers
        refine ⟨List.map_eq_nil_iff.1 numbers, ?_, (items_of_same same).trans noItems⟩
        rw [← Bool.not_eq_true]
        intro ready
        rcases same.ready ready with before | present
        · rw [notReady] at before
          cases before
        · exact present noRebuilds
  | accepts ready receiving room =>
      refine ⟨attended.numbers, fun zero => ?_⟩
      have notReady := (attended.noneYet zero).2.1
      rw [ready] at notReady
      cases notReady
  | takes resting waiting =>
      have numbers := attended.numbers (by simp [receiving, resting])
      refine ⟨fun _ => by rw [numbers, resting]; rfl, fun zero => ?_⟩
      have noItems := (attended.noneYet zero).2.2
      simp [items, waiting] at noItems
  | applies taken =>
      have numbers := attended.numbers (by simp [receiving, taken])
      refine ⟨fun _ => by rw [numbers, taken]; rfl, fun zero => ?_⟩
      exact absurd (attended.noneYet zero).2.2 (items_ne_nil_of_taken taken)
  | spawns unstarted =>
      have numbers := attended.numbers (by simp [receiving, unstarted])
      refine ⟨fun _ => by rw [numbers, unstarted]; rfl, fun zero => ?_⟩
      obtain ⟨noRebuilds, notReady, noItems⟩ := attended.noneYet zero
      refine ⟨noRebuilds, notReady, ?_⟩
      simpa [items, taken?, unstarted] using noItems
  | starts resting reached =>
      have none := attended.no_rebuilds (by simp [receiving, resting])
        (by rw [resting]; rfl)
      exact ⟨fun _ => by rw [none]; rfl, fun zero => absurd zero (Nat.succ_ne_zero _)⟩
  | observes waits finished =>
      have noneLeft := attended.none_left waits
      refine ⟨fun _ => by rw [noneLeft]; rfl, fun zero => ⟨noneLeft, ?_⟩⟩
      obtain ⟨noRebuilds, notReady, noItems⟩ := attended.noneYet zero
      refine ⟨notReady, ?_⟩
      simpa [items, taken?, waits] using noItems
  | overflows waits finished beyond =>
      refine ⟨fun receiving => by simp [World.receiving] at receiving, fun zero => ?_⟩
      exact ⟨attended.none_left waits, (attended.noneYet zero).2.1, rfl⟩
  | ends mayEnd =>
      refine ⟨fun receiving => by simp [World.receiving] at receiving, fun zero => ?_⟩
      obtain ⟨noRebuilds, notReady, _⟩ := attended.noneYet zero
      exact ⟨noRebuilds, notReady, rfl⟩

/-! ### What is known from the starts and observations before -/

/-- Where the loop is after a row of starts and observations: it waits for the rebuild
that was started last, or pauses after the one that was observed last. -/
inductive Poised (world : World) (beats : List Beat) : Loop → Prop where
  | unstarted (empty : beats = []) (zero : world.started = 0) :
      Poised world beats .unstarted
  | atFirst {due : Nat} (empty : beats = []) (zero : world.started = 0)
      (reached : due ≤ world.now) :
      Poised world beats (.running due none none)
  | pausing {number time : Nat} {outcome : Outcome}
      (last : beats.getLast? = some (.observed number outcome time))
      (counted : world.started = number + 1) :
      Poised world beats (.running (time + world.pause outcome) none none)
  | waiting {due number time : Nat}
      (last : beats.getLast? = some (.started number time))
      (counted : world.started = number + 1) (passed : time ≤ world.now) :
      Poised world beats (.running due (some number) none)
  | gone (ending : Ending) : Poised world beats (.ended ending)

/-- The starts and observations came in turn and with the pauses between them, and the
loop is where they have brought it. -/
structure OnSchedule (world : World) (beats : List Beat) : Prop where
  chain : beats.IsChain (Beat.Follows world.settings)
  first : ∀ beat ∈ beats.head?, ∃ time, beat = .started 0 time
  counted : beats.filterMap Beat.started? = List.range world.started
  observed : world.receiving = true → beats.filterMap Beat.started? =
    beats.filterMap Beat.observed? ++ world.loop.inFlight?.toList
  poised : world.Poised beats world.loop.withoutItem

theorem Poised.of_same {loop : Loop} (poised : world.Poised beats loop)
    (sameSettings : next.settings = world.settings)
    (sameStarted : next.started = world.started) (later : world.now ≤ next.now) :
    next.Poised beats loop := by
  cases poised with
  | unstarted empty zero =>
      exact .unstarted empty (sameStarted.trans zero)
  | atFirst empty zero reached =>
      exact .atFirst empty (sameStarted.trans zero) (reached.trans later)
  | @pausing number time outcome last counted =>
      have samePause : next.pause outcome = world.pause outcome := by
        rw [pause.eq_def, pause.eq_def, sameSettings]
      rw [← samePause]
      exact .pausing last (sameStarted.trans counted)
  | waiting last counted passed =>
      exact .waiting last (sameStarted.trans counted) (passed.trans later)
  | gone ending =>
      exact .gone ending

/-- A step that only moves items, or is beside the loop, keeps the schedule. -/
theorem OnSchedule.of_same (onSchedule : world.OnSchedule beats)
    (sameSettings : next.settings = world.settings)
    (sameStarted : next.started = world.started) (later : world.now ≤ next.now)
    (receiving : next.receiving = true → world.receiving = true)
    (sameLoop : next.loop.withoutItem = world.loop.withoutItem) :
    next.OnSchedule beats where
  chain := by
    rw [sameSettings]
    exact onSchedule.chain
  first := onSchedule.first
  counted := by
    rw [sameStarted]
    exact onSchedule.counted
  observed open_ := by
    rw [← Loop.inFlight?_withoutItem, sameLoop, Loop.inFlight?_withoutItem]
    exact onSchedule.observed (receiving open_)
  poised := by
    rw [sameLoop]
    exact onSchedule.poised.of_same sameSettings sameStarted later

/-- The schedule of a loop that ends is kept. -/
theorem OnSchedule.of_ended (onSchedule : world.OnSchedule beats)
    (sameSettings : next.settings = world.settings)
    (sameStarted : next.started = world.started) {ending : Ending}
    (ended : next.loop = .ended ending) : next.OnSchedule beats where
  chain := by
    rw [sameSettings]
    exact onSchedule.chain
  first := onSchedule.first
  counted := by
    rw [sameStarted]
    exact onSchedule.counted
  observed open_ := absurd ended (receiving_eq_true_iff.1 open_ ending)
  poised := by
    rw [ended]
    exact .gone ending

/-- What the loop starts next is the next number, and its pause is over. -/
theorem OnSchedule.start (onSchedule : world.OnSchedule beats) {due : Nat}
    (resting : world.loop = .running due none none) (reached : due ≤ world.now) :
    ({ world with
        loop := .running due (some world.started) none
        rebuilds := world.rebuilds ++ [⟨world.started, .begun⟩]
        started := world.started + 1 } : World).OnSchedule
      (beats ++ [.started world.started world.now]) := by
  have observed := onSchedule.observed (by simp [receiving, resting])
  rw [resting] at observed
  have poised := onSchedule.poised
  rw [resting, Loop.withoutItem] at poised
  refine ⟨?_, ?_, ?_, fun _ => ?_, ?_⟩
  · refine List.isChain_append.2 ⟨onSchedule.chain, .singleton _, ?_⟩
    intro before isLast after isNext
    cases isNext
    cases poised with
    | atFirst empty zero early =>
        simp [empty] at isLast
    | pausing last counted =>
        rw [last, Option.mem_some_iff] at isLast
        rw [← isLast, counted]
        exact Beat.follows_of_pause reached
  · cases poised with
    | atFirst empty zero early =>
        simp [empty, zero]
    | pausing last counted =>
        have nonempty : beats ≠ [] := by
          intro empty
          simp [empty] at last
        rw [List.head?_append_of_ne_nil _ nonempty]
        exact onSchedule.first
  · rw [List.filterMap_append, onSchedule.counted, List.range_succ]
    rfl
  · rw [List.filterMap_append, List.filterMap_append, observed]
    simp [Loop.inFlight?, Beat.started?, Beat.observed?]
  · exact .waiting List.getLast?_concat rfl (Nat.le_refl _)

/-- What the loop observes is how the rebuild that it started last has ended. -/
theorem OnSchedule.observe (onSchedule : world.OnSchedule beats) {due number : Nat}
    (waits : world.loop = .running due (some number) none) (outcome : Outcome)
    (rebuilds : List Rebuild) :
    ({ world with
        rebuilds := rebuilds
        loop := .running (world.now + world.pause outcome) none none } : World).OnSchedule
      (beats ++ [.observed number outcome world.now]) := by
  have observed := onSchedule.observed (by simp [receiving, waits])
  rw [waits] at observed
  have poised := onSchedule.poised
  rw [waits, Loop.withoutItem] at poised
  cases poised with
  | waiting last counted passed =>
      have nonempty : beats ≠ [] := by
        intro empty
        simp [empty] at last
      refine ⟨?_, ?_, ?_, fun _ => ?_, ?_⟩
      · refine List.isChain_append.2 ⟨onSchedule.chain, .singleton _, ?_⟩
        intro before isLast after isNext
        cases isNext
        rw [last, Option.mem_some_iff] at isLast
        rw [← isLast]
        exact .observation passed
      · rw [List.head?_append_of_ne_nil _ nonempty]
        exact onSchedule.first
      · rw [List.filterMap_append, onSchedule.counted]
        simp [Beat.started?]
      · rw [List.filterMap_append, List.filterMap_append, observed]
        simp [Loop.inFlight?, Beat.started?, Beat.observed?]
      · exact .pausing List.getLast?_concat counted

theorem onSchedule_start (settings : QueueSettings) (store : Store) (clock : Moment) :
    (start settings store clock).OnSchedule [] where
  chain := .nil
  first := nofun
  counted := rfl
  observed _ := rfl
  poised := .unstarted rfl rfl

theorem onSchedule_step (action : Action) (onSchedule : world.OnSchedule beats) :
    (world.step action).1.OnSchedule
      (beats ++ (world.step action).2.filterMap Event.beat?) := by
  have motion := world.motion action
  generalize (world.step action).1 = next at motion ⊢
  generalize (world.step action).2 = events at motion ⊢
  cases motion with
  | beside same silent =>
      have receiving : next.receiving = true → world.receiving = true := by
        rw [World.receiving, World.receiving, same.loop]
        exact id
      rw [beats_of_besideLoop silent, List.append_nil]
      exact onSchedule.of_same same.settings same.started same.now receiving
        (congrArg Loop.withoutItem same.loop)
  | accepts ready receiving room =>
      rw [List.filterMap_cons_none rfl, List.filterMap_nil, List.append_nil]
      exact onSchedule.of_same rfl rfl (Nat.le_refl _) id rfl
  | takes resting waiting =>
      rw [List.filterMap_nil, List.append_nil]
      exact onSchedule.of_same rfl rfl (Nat.le_refl _)
        (fun _ => by simp [receiving, resting]) (by rw [resting]; rfl)
  | applies taken =>
      rw [List.filterMap_cons_none rfl, List.filterMap_nil, List.append_nil]
      exact onSchedule.of_same rfl rfl (Nat.le_refl _)
        (fun _ => by simp [receiving, taken]) (by rw [taken]; rfl)
  | spawns unstarted =>
      have poised := onSchedule.poised
      simp only [unstarted, Loop.withoutItem] at poised
      cases poised with
      | unstarted empty zero =>
          subst empty
          exact ⟨.nil, nofun, onSchedule.counted, fun _ => rfl,
            .atFirst rfl zero (Nat.le_refl _)⟩
  | starts resting reached =>
      exact onSchedule.start resting reached
  | observes waits finished =>
      exact onSchedule.observe waits _ _
  | @overflows _ _ _ outcome waits finished beyond =>
      have observed := onSchedule.observe waits outcome world.rebuilds
      exact observed.of_ended rfl rfl rfl
  | ends mayEnd =>
      rw [List.filterMap_cons_none rfl, List.filterMap_nil, List.append_nil]
      exact onSchedule.of_ended rfl rfl rfl

theorem onSchedule_run (actions : List Action) (onSchedule : world.OnSchedule []) :
    (world.run actions).1.OnSchedule
      ((world.run actions).2.filterMap Event.beat?) := by
  have kept (world : World) (seen : List Event) (action : Action)
      (onSchedule : world.OnSchedule (seen.filterMap Event.beat?)) :
      (world.step action).1.OnSchedule
        ((seen ++ (world.step action).2).filterMap Event.beat?) := by
    rw [List.filterMap_append]
    exact onSchedule_step action onSchedule
  exact run_history kept [] actions onSchedule

/-! ### No outcome is lost -/

theorem rebuild?_setStage_of_ne {number other : Nat} (different : other ≠ number)
    (stage : Stage) :
    (world.setStage other stage).rebuild? number = world.rebuild? number := by
  let moved := fun rebuild : Rebuild =>
    if rebuild.number = other then { rebuild with stage } else rebuild
  have sameNumber (rebuild : Rebuild) : (moved rebuild).number = rebuild.number := by
    unfold moved
    split
    · rfl
    · rfl
  have sameTest : ((fun rebuild : Rebuild => rebuild.number == number) ∘ moved) =
      fun rebuild => rebuild.number == number := by
    funext rebuild
    rw [Function.comp_apply, sameNumber]
  change (world.rebuilds.map moved).find? _ = world.rebuild? number
  rw [List.find?_map, sameTest]
  change (world.rebuild? number).map moved = world.rebuild? number
  cases found : world.rebuild? number with
  | none =>
      rfl
  | some rebuild =>
      have elsewhere : rebuild.number ≠ other := by
        rw [(rebuild?_eq_some found).2]
        exact different.symm
      rw [Option.map_some, Option.some_inj]
      exact if_neg elsewhere

theorem rebuild?_observed_of_ne {number other : Nat} (different : other ≠ number) :
    (world.rebuilds.filter fun rebuild => rebuild.number != other).find?
      (fun rebuild => rebuild.number == number) = world.rebuild? number := by
  have sameTest (rebuild : Rebuild) :
      decide ((rebuild.number != other) = true ∧ (rebuild.number == number) = true) =
        (rebuild.number == number) := by
    by_cases named : rebuild.number = number
    · simp [named, different.symm]
    · simp [named]
  rw [List.find?_filter, rebuild?]
  simp only [sameTest]

/-- How a rebuild ended stays as it is until the loop observes it. -/
theorem ended_step {number : Nat} {outcome : Outcome}
    (ended : world.rebuild? number = some ⟨number, .ended outcome⟩) (action : Action) :
    (world.step action).1.rebuild? number = some ⟨number, .ended outcome⟩ ∨
      .observed number outcome world.now ∈ (world.step action).2 := by
  have change := world.change action
  generalize (world.step action).1 = next at change ⊢
  generalize (world.step action).2 = events at change ⊢
  -- A rebuild at another stage is another one.
  have stays {other found : Nat} {before : Stage}
      (elsewhere : world.rebuild? other = some ⟨found, before⟩)
      (unfinished : ∀ outcome, before ≠ .ended outcome) (stage : Stage) :
      (world.setStage other stage).rebuild? number = some ⟨number, .ended outcome⟩ := by
    have different : other ≠ number := by
      rintro rfl
      rw [ended] at elsewhere
      cases elsewhere
      exact unfinished outcome rfl
    rw [rebuild?_setStage_of_ne different, ended]
  cases change with
  | aside idle alike silent =>
      rw [rebuild?, alike.rebuilds]
      exact Or.inl ended
  | starts resting =>
      refine Or.inl ?_
      rw [rebuild?] at ended
      rw [rebuild?, List.find?_append, ended, Option.some_or]
  | @observes _ other _ _ _ _ _ waits finished silent =>
      by_cases same : other = number
      · subst same
        rw [ended] at finished
        cases finished
        exact Or.inr List.mem_cons_self
      · exact Or.inl ((rebuild?_observed_of_ne same).trans ended)
  | lists begun =>
      exact Or.inl (stays begun nofun _)
  | receives listed =>
      exact Or.inl (stays listed nofun _)
  | @finishes other _ _ ready finish =>
      have different : other ≠ number := by
        rintro rfl
        exact finish.unfinished _ _ ended
      exact Or.inl ((rebuild?_setStage_of_ne different _).trans ended)
  | installs free arrived =>
      exact Or.inl (stays arrived nofun _)
  | _ =>
      exact Or.inl ended

theorem ended_run {number : Nat} {outcome : Outcome} (actions : List Action)
    (ended : world.rebuild? number = some ⟨number, .ended outcome⟩) :
    (world.run actions).1.rebuild? number = some ⟨number, .ended outcome⟩ ∨
      ∃ time, .observed number outcome time ∈ (world.run actions).2 := by
  induction actions generalizing world with
  | nil =>
      exact Or.inl ended
  | cons action rest inductionHypothesis =>
      simp only [run_cons, List.mem_append]
      rcases ended_step ended action with still | now
      · rcases inductionHypothesis still with last | ⟨time, later⟩
        · exact Or.inl last
        · exact Or.inr ⟨time, Or.inr later⟩
      · exact Or.inr ⟨world.now, Or.inl now⟩

/-! ### What the loop does next -/

/-- A loop whose timer has fired starts a rebuild before it looks at its items. -/
theorem starts_next {due : Nat} (resting : world.loop = .running due none none)
    (uncancelled : world.cancelled = false) (reached : due ≤ world.now) :
    Simulation.loopAction? world = some .fireTimer ∧
      (world.step .fireTimer).2 = [.started world.started world.now] := by
  constructor
  · simp [Simulation.loopAction?, resting, uncancelled, reached]
  · simp [step, stepFireTimer, resting, uncancelled, Nat.not_lt.2 reached]

/-- A loop whose rebuild has ended observes how before it looks at its items. -/
theorem observes_next {due number : Nat} {outcome : Outcome}
    (waits : world.loop = .running due (some number) none)
    (uncancelled : world.cancelled = false)
    (ended : world.rebuild? number = some ⟨number, .ended outcome⟩) :
    Simulation.loopAction? world = some .observe ∧
      .observed number outcome world.now ∈ (world.step .observe).2 := by
  constructor
  · simp [Simulation.loopAction?, waits, uncancelled, ended]
  · simp only [step, stepObserve, waits, uncancelled, ended]
    split
    · exact List.mem_cons_self
    · exact List.mem_cons_self

theorem schedule_of_movesItem {action : Action} (movesItem : action.MovesItem) :
    (world.step action).1.rebuilds = world.rebuilds ∧
      (world.step action).1.started = world.started ∧
      (world.step action).1.loop.withoutItem = world.loop.withoutItem ∧
      (world.step action).2.filterMap Event.beat? = [] := by
  cases action with
  | submit item =>
      simp only [step, stepSubmit]
      split
      · exact ⟨rfl, rfl, rfl, rfl⟩
      · split
        · exact ⟨rfl, rfl, rfl, rfl⟩
        · exact ⟨rfl, rfl, rfl, rfl⟩
  | take =>
      simp only [step, stepTake]
      split
      · rename_i resting waiting
        split
        · exact ⟨rfl, rfl, rfl, rfl⟩
        · exact ⟨rfl, rfl, by rw [resting]; rfl, rfl⟩
      · exact ⟨rfl, rfl, rfl, rfl⟩
  | apply =>
      simp only [step, stepApply]
      split
      · rename_i taken
        split
        · exact ⟨rfl, rfl, rfl, rfl⟩
        · exact ⟨rfl, rfl, by rw [taken]; rfl, rfl⟩
      · exact ⟨rfl, rfl, rfl, rfl⟩
  | _ =>
      cases movesItem

/-- Before the first rebuild a running loop has nothing to wait for. -/
theorem loop_of_none_started (attended : world.Attended)
    (onSchedule : world.OnSchedule beats) {due : Nat} {inFlight : Option Nat}
    {held : Option Item} (running : world.loop = .running due inFlight held)
    (zero : world.started = 0) :
    world.loop = .running due none none ∧ due ≤ world.now := by
  have poised := onSchedule.poised
  simp only [running, Loop.withoutItem] at poised
  cases poised with
  | atFirst empty zero reached =>
      cases held with
      | none =>
          exact ⟨running, reached⟩
      | some item =>
          exact absurd (attended.noneYet zero).2.2 (items_ne_nil_of_taken running)
  | pausing last counted =>
      rw [zero] at counted
      exact absurd counted.symm (Nat.succ_ne_zero _)
  | waiting last counted passed =>
      rw [zero] at counted
      exact absurd counted.symm (Nat.succ_ne_zero _)

/-- In every run the starts and observations of rebuilds come in turn, from the start of
the first one on, and each start comes after the pause that belongs to the outcome
observed before it. There is at most one rebuild at any time. Those started are
numbered in order, and while the loop runs each of them but the one in flight was
observed exactly once. How a rebuild ended stays until it is observed, and a loop at
rest observes it before all else, unless it is cancelled. So it does with its timer, and
the first rebuild never has to wait. An item that is submitted, taken or applied changes
no rebuild and no timer. Once the loop has ended, no rebuild starts. -/
theorem rebuilds_on_schedule (settings : QueueSettings) (store : Store)
    (clock : Moment) (actions : List Action) :
    let first := start settings store clock
    let last := (first.run actions).1
    let beats := (first.run actions).2.filterMap Event.beat?
    beats.IsChain (Beat.Follows settings) ∧
    (∀ beat ∈ beats.head?, ∃ time, beat = .started 0 time) ∧
    last.rebuilds.length ≤ 1 ∧
    beats.filterMap Beat.started? = List.range last.started ∧
    (∀ due inFlight held, last.loop = .running due inFlight held →
      beats.filterMap Beat.started? =
          beats.filterMap Beat.observed? ++ inFlight.toList ∧
        last.rebuilds.map Rebuild.number = inFlight.toList) ∧
    (∀ number outcome, last.rebuild? number = some ⟨number, .ended outcome⟩ →
      (∀ more,
        (last.run more).1.rebuild? number = some ⟨number, .ended outcome⟩ ∨
          ∃ time, .observed number outcome time ∈ (last.run more).2) ∧
      (∀ due, last.loop = .running due (some number) none → last.cancelled = false →
        Simulation.loopAction? last = some .observe ∧
          .observed number outcome last.now ∈ (last.step .observe).2)) ∧
    (∀ due inFlight held, last.loop = .running due inFlight held →
      last.cancelled = false →
      last.started = 0 ∨ (inFlight = none ∧ held = none ∧ due ≤ last.now) →
        Simulation.loopAction? last = some .fireTimer ∧
          (last.step .fireTimer).2 = [.started last.started last.now]) ∧
    (∀ action : Action, action.MovesItem →
      (last.step action).1.rebuilds = last.rebuilds ∧
        (last.step action).1.started = last.started ∧
        (last.step action).1.loop.withoutItem = last.loop.withoutItem ∧
        (last.step action).2.filterMap Event.beat? = []) ∧
    (∀ ending, last.loop = .ended ending → ∀ more,
      (last.run more).2.filterMap Event.beat? = []) := by
  intro first last beats
  have onSchedule : last.OnSchedule beats :=
    onSchedule_run actions (onSchedule_start settings store clock)
  have attended : last.Attended :=
    run_invariant_of_all attended_step actions (attended_start settings store clock)
  have sole : last.Sole :=
    run_invariant_of_all sole_step actions (sole_start settings store clock)
  have chain := onSchedule.chain
  rw [show last.settings = settings from settings_run first actions] at chain
  refine ⟨chain, onSchedule.first, sole.atMostOne, onSchedule.counted, ?_, ?_, ?_,
    fun action movesItem => schedule_of_movesItem movesItem,
    fun ending ended more => beats_of_besideLoop (beside_of_ended_run ended more)⟩
  · intro due inFlight held running
    have receiving : last.receiving = true := by simp [receiving, running]
    have observed := onSchedule.observed receiving
    have numbers := attended.numbers receiving
    rw [running] at observed numbers
    exact ⟨observed, numbers⟩
  · intro number outcome ended
    exact ⟨fun more => ended_run more ended,
      fun due waits uncancelled => observes_next waits uncancelled ended⟩
  · intro due inFlight held running uncancelled may
    rcases may with zero | ⟨rfl, rfl, reached⟩
    · obtain ⟨resting, reached⟩ := loop_of_none_started attended onSchedule running zero
      exact starts_next resting uncancelled reached
    · exact starts_next running uncancelled reached

end World

end StalestFirst
