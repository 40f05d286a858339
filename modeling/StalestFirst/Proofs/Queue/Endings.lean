import Mathlib
import StalestFirst.Proofs.Queue.Callers
import StalestFirst.Proofs.Queue.Loop
import StalestFirst.Settings.Review

namespace StalestFirst.World

/-! ## How the loop ends

A loop stops when it is cancelled, or when nobody is left who could submit an item. It
breaks off when it would have to set its timer farther ahead than the timer can reach. -/

variable {world : World} {seen : List Event}

theorem deserted_eq_true_iff :
    world.deserted = true ↔ world.handles = 0 ∧ world.waiting = [] ∧ world.visit = none := by
  simp [deserted, and_assoc]

/-- Without a handle nobody calls a retrieval or makes another handle. -/
theorem deserted_step (deserted : world.deserted = true) (action : Action) :
    (world.step action).1.deserted = true := by
  obtain ⟨noHandles, noneWait, free⟩ := deserted_eq_true_iff.1 deserted
  exact deserted_eq_true_iff.2 ⟨handles_step noHandles action,
    noneCalling_step noneWait free (Or.inl noHandles) action⟩

theorem now_step (world : World) (action : Action) :
    world.now ≤ (world.step action).1.now := by
  have motion := world.motion action
  generalize (world.step action).1 = next at motion ⊢
  generalize (world.step action).2 = events at motion
  cases motion with
  | beside same silent =>
      exact same.now
  | _ =>
      exact Nat.le_refl _

theorem pause_step (world : World) (action : Action) (outcome : Outcome) :
    (world.step action).1.pause outcome = world.pause outcome := by
  rw [pause.eq_def, pause.eq_def, settings_step]

/-! ### Why it ended -/

/-- An outcome was observed whose pause ends where the timer cannot reach. -/
def OutOfReach (world : World) (seen : List Event) : Prop :=
  ∃ number outcome time, .observed number outcome time ∈ seen ∧
    horizon ≤ time + world.pause outcome

/-- What must be the case when the loop has ended in a certain way. -/
def Warrants (world : World) (seen : List Event) : Ending → Prop
  | .cancelled => world.cancelled = true
  | .deserted => world.deserted = true
  | .overflowed => world.OutOfReach seen
  | .dropped => world.started = 0

/-- An ended loop has a reason for its end, and it breaks off when it has to. -/
structure Accounted (world : World) (seen : List Event) : Prop where
  warranted : ∀ ending, world.loop = .ended ending → world.Warrants seen ending
  unstarted : world.loop = .unstarted → world.started = 0
  breaksOff : world.OutOfReach seen → world.loop = .ended .overflowed
  past : ∀ number outcome time, .observed number outcome time ∈ seen → time ≤ world.now

theorem outOfReach_step (action : Action) :
    (world.step action).1.OutOfReach (seen ++ (world.step action).2) ↔
      world.OutOfReach seen ∨ world.OutOfReach (world.step action).2 := by
  simp only [OutOfReach, pause_step, List.mem_append, or_and_right, exists_or]

/-- What has ended a loop stays the case. -/
theorem warrants_step {ending : Ending} (warrants : world.Warrants seen ending)
    {action : Action} (sameStarted : (world.step action).1.started = world.started) :
    (world.step action).1.Warrants (seen ++ (world.step action).2) ending := by
  cases ending with
  | cancelled =>
      exact cancelled_step warrants action
  | deserted =>
      exact deserted_step warrants action
  | overflowed =>
      exact (outOfReach_step action).2 (Or.inl warrants)
  | dropped =>
      exact sameStarted.trans warrants

/-- A step ends the loop only for a reason. -/
theorem warrants_of_ends {action : Action} (accounted : world.Accounted seen)
    {ending : Ending} (ended : (world.step action).1.loop = .ended ending) :
    (world.step action).1.Warrants (seen ++ (world.step action).2) ending := by
  have motion := world.motion action
  have stays (before : world.loop = .ended ending)
      (sameStarted : (world.step action).1.started = world.started) :
      (world.step action).1.Warrants (seen ++ (world.step action).2) ending :=
    warrants_step (accounted.warranted ending before) sameStarted
  have staysCancelled (cancelled : world.cancelled = true) :
      (world.step action).1.cancelled = true := cancelled_step cancelled action
  have staysDeserted (deserted : world.deserted = true) :
      (world.step action).1.deserted = true := deserted_step deserted action
  have outOfReach : world.OutOfReach seen ∨ world.OutOfReach (world.step action).2 →
      (world.step action).1.OutOfReach (seen ++ (world.step action).2) :=
    (outOfReach_step action).2
  generalize (world.step action).1 = next at *
  generalize (world.step action).2 = events at *
  cases motion with
  | beside same silent =>
      exact stays (same.loop ▸ ended) same.started
  | accepts ready receiving room =>
      exact absurd ended (receiving_eq_true_iff.1 receiving ending)
  | overflows waits finished beyond =>
      cases ended
      exact outOfReach (Or.inr ⟨_, _, _, List.mem_cons_self, beyond⟩)
  | ends mayEnd =>
      cases ended
      cases mayEnd with
      | dropped unstarted =>
          exact accounted.unstarted unstarted
      | cancelled cancelled resting =>
          exact staysCancelled cancelled
      | deserted empty resting alone =>
          exact staysDeserted alone
  | _ =>
      cases ended

/-- After an outcome the loop sets its timer, or breaks off. -/
theorem reaches_of_observed {action : Action} {number time : Nat} {outcome : Outcome}
    (observed : .observed number outcome time ∈ (world.step action).2) :
    time = world.now ∧ (horizon ≤ time + world.pause outcome →
      (world.step action).1.loop = .ended .overflowed) := by
  have motion := world.motion action
  generalize (world.step action).1 = next at motion ⊢
  generalize (world.step action).2 = events at motion observed
  cases motion with
  | beside same silent =>
      cases silent _ observed
  | observes waits finished within =>
      rw [List.mem_singleton] at observed
      cases observed
      exact ⟨rfl, fun beyond => absurd within (Nat.not_lt.2 beyond)⟩
  | overflows waits finished beyond =>
      simp only [List.mem_cons, List.not_mem_nil, or_false, reduceCtorEq] at observed
      cases observed
      exact ⟨rfl, fun _ => rfl⟩
  | _ =>
      simp at observed

theorem accounted_step (action : Action) (accounted : world.Accounted seen) :
    (world.step action).1.Accounted (seen ++ (world.step action).2) where
  warranted _ ended := warrants_of_ends accounted ended
  unstarted := by
    have motion := world.motion action
    generalize (world.step action).1 = next at motion ⊢
    generalize (world.step action).2 = events at motion
    intro unstarted
    cases motion with
    | beside same silent =>
        rw [same.started]
        exact accounted.unstarted (same.loop ▸ unstarted)
    | accepts ready receiving room =>
        exact accounted.unstarted unstarted
    | _ =>
        cases unstarted
  breaksOff outOfReach := by
    rcases (outOfReach_step action).1 outOfReach with before | ⟨number, outcome, time, now, beyond⟩
    · exact (beside_of_ended (accounted.breaksOff before) action).1
    · exact (reaches_of_observed now).2 beyond
  past number outcome time observed := by
    rcases List.mem_append.1 observed with before | now
    · exact (accounted.past number outcome time before).trans (now_step world action)
    · rw [(reaches_of_observed now).1]
      exact now_step world action

theorem accounted_start (settings : QueueSettings) (store : Store) (clock : Moment) :
    (start settings store clock).Accounted [] where
  warranted _ := nofun
  unstarted _ := rfl
  breaksOff := by
    rintro ⟨number, outcome, time, observed, _⟩
    cases observed
  past _ _ _ := nofun

/-! ### Which settings let it run -/

theorem start?_eq_some_iff (settings : QueueSettings) (store : Store) (clock : Moment) :
    start? settings store clock = some (start settings store clock) ↔
      settings.bufferCapacity.toNat ≤ greatestCapacity := by
  have capacity : (start settings store clock).capacity =
      max settings.bufferCapacity.toNat 1 := UInt64.toNat_max ..
  have one : 1 ≤ greatestCapacity := by decide
  rw [start?, capacity]
  simp [one]

/-- The longest pause, in milliseconds. -/
def longestPause (settings : QueueSettings) : Nat :=
  max settings.resyncSeconds.toNat settings.retrySeconds.toNat * 1000

theorem pause_le_longestPause (world : World) (outcome : Outcome) :
    world.pause outcome ≤ longestPause world.settings := by
  unfold longestPause
  cases outcome with
  | installed count =>
      exact Nat.mul_le_mul_right 1000 (Nat.le_max_left _ _)
  | failed fault =>
      exact Nat.mul_le_mul_right 1000 (Nat.le_max_right _ _)
  | panicked =>
      exact Nat.mul_le_mul_right 1000 (Nat.le_max_right _ _)

/-- At some time the loop is spawned and its first rebuild succeeds. -/
def firstSuccess (time : Nat) : List Action :=
  [.pass time, .write (.setOffline false), .spawn, .fireTimer, .list 0, .receive 0,
    .install 0, .announce 0, .observe]

/-- At some time the loop is spawned and its first rebuild fails. -/
def firstFailure (time : Nat) : List Action :=
  [.pass time, .spawn, .fireTimer, .panic 0, .observe]

variable {settings : QueueSettings} (store : Store) (clock : Moment) {time : Nat}

theorem run_firstSuccess (beyond : horizon ≤ time + settings.resyncSeconds.toNat * 1000) :
    ((start settings store clock).run (firstSuccess time)).1.now = time ∧
      ((start settings store clock).run (firstSuccess time)).1.loop =
        .ended .overflowed := by
  simp [firstSuccess, start, step, stepSpawn, stepFireTimer, stepList, stepReceive,
    stepInstall, stepAnnounce, stepObserve, StoreWrite.apply, Store.setOffline, Store.listing,
    Store.reach, bind, Except.bind, rebuild?, setStage, pause, endLoop, beyond]

theorem run_firstFailure (beyond : horizon ≤ time + settings.retrySeconds.toNat * 1000) :
    ((start settings store clock).run (firstFailure time)).1.now = time ∧
      ((start settings store clock).run (firstFailure time)).1.loop =
        .ended .overflowed := by
  simp [firstFailure, start, step, stepSpawn, stepFireTimer, stepPanic, stepObserve,
    rebuild?, setStage, pause, endLoop, beyond]

/-- Up to some time a loop can break off exactly if its longest pause, begun then, ends
where the timer cannot reach. -/
theorem exists_overflow_iff :
    (∃ actions, ((start settings store clock).run actions).1.now ≤ time ∧
        ((start settings store clock).run actions).1.loop = .ended .overflowed) ↔
      horizon ≤ time + longestPause settings := by
  constructor
  · rintro ⟨actions, early, overflowed⟩
    have accounted := run_history (fun _ _ action => accounted_step action) [] actions
      (accounted_start settings store clock)
    rw [List.nil_append] at accounted
    obtain ⟨number, outcome, observedAt, observed, beyond⟩ :=
      accounted.warranted .overflowed overflowed
    have past := accounted.past number outcome observedAt observed
    have bounded := pause_le_longestPause ((start settings store clock).run actions).1 outcome
    rw [settings_run] at bounded
    change _ ≤ longestPause settings at bounded
    omega
  · intro beyond
    rcases Nat.le_total settings.resyncSeconds.toNat settings.retrySeconds.toNat with
      longerRetry | longerResync
    · rw [longestPause, Nat.max_eq_right longerRetry] at beyond
      have failure := run_firstFailure store clock beyond
      exact ⟨firstFailure time, failure.1.le, failure.2⟩
    · rw [longestPause, Nat.max_eq_left longerResync] at beyond
      have success := run_firstSuccess store clock beyond
      exact ⟨firstSuccess time, success.1.le, success.2⟩

/-- Settings are accepted unless one of five values is zero, and nothing else of what they
ask for is looked at. A queue can be made for them exactly if its buffer is not too large.
In every run the loop ends because it was cancelled, because nobody is left who could use
the queue, or because it was dropped before it started, and else exactly if it has observed
an outcome whose pause ends where the timer cannot reach. Up to a given time there is a run
that does so exactly if the longest pause, begun at that time, ends there. -/
theorem settings_run_within_reach (settings : Settings) (store : Store) (clock : Moment) :
    let first := start settings.queue store clock
    (settings.check = .ok () ↔
      settings.queue.resyncSeconds ≠ 0 ∧ settings.queue.bufferCapacity ≠ 0 ∧
        settings.http.dequeueSeconds ≠ 0 ∧ settings.http.requestSeconds ≠ 0 ∧
        settings.store.maxConnections ≠ 0) ∧
    (start? settings.queue store clock = some first ↔
      settings.queue.bufferCapacity.toNat ≤ 2305843009213693951) ∧
    (∀ actions ending,
      let last := (first.run actions).1
      last.loop = .ended ending →
        (ending = .cancelled ∧ last.cancelled = true) ∨
        (ending = .deserted ∧ last.handles = 0 ∧ last.waiting = [] ∧ last.visit = none) ∨
        (ending = .dropped ∧ last.started = 0) ∨ ending = .overflowed) ∧
    (∀ actions,
      let last := (first.run actions).1
      last.loop = .ended .overflowed ↔
        ∃ number outcome time, .observed number outcome time ∈ (first.run actions).2 ∧
          9223372036854775808 * 1000 ≤ time + last.pause outcome) ∧
    ∀ time,
      (∃ actions, (first.run actions).1.now ≤ time ∧
          (first.run actions).1.loop = .ended .overflowed) ↔
        9223372036854775808 * 1000 ≤ time +
          max settings.queue.resyncSeconds.toNat settings.queue.retrySeconds.toNat * 1000 := by
  intro first
  have accounted (actions : List Action) :
      (first.run actions).1.Accounted (first.run actions).2 := by
    have accounted := run_history (fun _ _ action => accounted_step action) [] actions
      (accounted_start settings.queue store clock)
    rwa [List.nil_append] at accounted
  refine ⟨settings.check_eq_ok_iff, start?_eq_some_iff .., fun actions ending => ?_,
    fun actions => ?_, fun time => exists_overflow_iff store clock⟩
  · intro last ended
    have warrants := (accounted actions).warranted ending ended
    cases ending with
    | cancelled =>
        exact Or.inl ⟨rfl, warrants⟩
    | deserted =>
        exact Or.inr (Or.inl ⟨rfl, deserted_eq_true_iff.1 warrants⟩)
    | overflowed =>
        exact Or.inr (Or.inr (Or.inr rfl))
    | dropped =>
        exact Or.inr (Or.inr (Or.inl ⟨rfl, warrants⟩))
  · exact ⟨(accounted actions).warranted .overflowed, (accounted actions).breaksOff⟩

/-- The standard settings, but with the longest time between two rebuilds that can be
asked for. -/
def rarestRebuilds : Settings :=
  { Settings.standard with
    queue := { QueueSettings.standard with resyncSeconds := 18446744073709551615 } }

/-- The standard settings, but with a larger buffer than can be made. -/
def endlessBuffer : Settings :=
  { Settings.standard with
    queue := { QueueSettings.standard with bufferCapacity := 2305843009213693952 } }

/-- Settings are accepted with which the loop breaks off after its first rebuild, and
others with which no queue can be made. -/
theorem accepted_settings_fail :
    (rarestRebuilds.check = .ok () ∧
      ((start rarestRebuilds.queue Store.empty Moment.epoch).run
        [.spawn, .fireTimer, .list 0, .receive 0, .install 0, .announce 0, .observe]).1.loop =
        .ended .overflowed) ∧
    endlessBuffer.check = .ok () ∧
      (start? endlessBuffer.queue Store.empty Moment.epoch).isNone = true := by
  refine ⟨⟨by decide, ?_⟩, by decide, by decide⟩
  cbv

end StalestFirst.World
