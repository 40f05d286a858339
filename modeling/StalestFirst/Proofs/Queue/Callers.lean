import Mathlib
import StalestFirst.Queue.World

namespace StalestFirst.World

/-! ## What a step can do to the callers

Items, the loop and the rebuilds go on beside those who call. The steps that move a call,
a handle or the order to stop are told apart here, with all that a call is told. -/

/-- The same calls are going on in both worlds, with as many handles, and the loop is to
stop in both or in neither. -/
structure SameCallers (world next : World) : Prop where
  waiting : next.waiting = world.waiting
  visit : next.visit = world.visit
  handles : next.handles = world.handles
  cancelled : next.cancelled = world.cancelled

theorem SameCallers.refl (world : World) : world.SameCallers world :=
  ⟨rfl, rfl, rfl, rfl⟩

theorem SameCallers.setStage {world next : World} (same : world.SameCallers next)
    (number : Nat) (stage : Stage) : world.SameCallers (next.setStage number stage) :=
  ⟨same.waiting, same.visit, same.handles, same.cancelled⟩

theorem SameCallers.endLoop {world next : World} (same : world.SameCallers next)
    (ending : Ending) : world.SameCallers (next.endLoop ending).1 :=
  ⟨same.waiting, same.visit, same.handles, same.cancelled⟩

/-- What a step can do to the callers. -/
inductive Traffic (world : World) : Action → World → List Event → Prop where
  | beside {action : Action} {next : World} {events : List Event}
      (same : world.SameCallers next)
      (silent : ∀ call result, .answered call result ∉ events) :
      Traffic world action next events
  | calls {call : Nat} (held : world.handles ≠ 0) (ready : world.ready = true) :
      Traffic world (.call call) { world with waiting := world.waiting ++ [call] } []
  | turnedAway {call : Nat} (held : world.handles ≠ 0) (closed : world.ready = false) :
      Traffic world (.call call) world [.answered call (.error .notReady)]
  | enters {call number : Nat} {chosen : String}
      (waits : world.waiting.contains call = true) :
      Traffic world (.enter call number)
        { world.withoutCall call with visit := some ⟨call, chosen, world.clock⟩ } []
  | findsNone {call number : Nat} (waits : world.waiting.contains call = true) :
      Traffic world (.enter call number) (world.withoutCall call)
        [.answered call (.error .emptyPool)]
  | records {visit : Visit} {store : Store} {shelf : Shelf}
      (guarded : world.visit = some visit) :
      Traffic world (.record visit.call) { world with visit := none, store, shelf }
        [.answered visit.call (Shelf.verdict visit.chosen
          ((world.store.recordView visit.chosen visit.viewedAt).map fun _ => ()))]
  | expires {call : Nat} :
      Traffic world (.expire call) (world.withoutCall call)
        [.answered call (.error .timeout)]
  | abandons {call : Nat} : Traffic world (.abandon call) (world.withoutCall call) []
  | cancels : Traffic world .cancel { world with cancelled := true } []
  | clones (held : world.handles ≠ 0) :
      Traffic world .cloneHandle { world with handles := world.handles + 1 } []
  | drops : Traffic world .dropHandle { world with handles := world.handles - 1 } []

namespace Traffic

variable {world : World}

private theorem still (action : Action) : Traffic world action world [] :=
  .beside (.refl world) (by simp)

private theorem ofCall (call : Nat) :
    Traffic world (.call call) (world.stepCall call).1 (world.stepCall call).2 := by
  unfold stepCall
  split
  · exact still _
  · rename_i free
    rw [not_or] at free
    split
    · rename_i ready
      exact .calls free.1 ready
    · rename_i closed
      exact .turnedAway free.1 (Bool.eq_false_iff.2 closed)

private theorem ofEnter (call number : Nat) :
    Traffic world (.enter call number)
      (world.stepEnter call number).1 (world.stepEnter call number).2 := by
  unfold stepEnter
  split
  · exact still _
  · rename_i goes
    simp only [Bool.or_eq_true, Bool.not_eq_true', not_or, Bool.not_eq_false] at goes
    split
    · exact .findsNone goes.1
    · exact .enters goes.1

private theorem ofRecord (call : Nat) :
    Traffic world (.record call)
      (world.stepRecord call).1 (world.stepRecord call).2 := by
  unfold stepRecord
  split
  · exact still _
  · rename_i visit guarded
    split
    · rename_i own
      subst own
      exact .records guarded
    · exact still _

private theorem ofExpire (call : Nat) :
    Traffic world (.expire call)
      (world.stepExpire call).1 (world.stepExpire call).2 := by
  unfold stepExpire
  split
  · exact .expires
  · exact still _

private theorem ofSubmit (item : Item) :
    Traffic world (.submit item)
      (world.stepSubmit item).1 (world.stepSubmit item).2 := by
  unfold stepSubmit
  split
  · exact still _
  · split
    · exact .beside ⟨rfl, rfl, rfl, rfl⟩ (by simp)
    · exact .beside (.refl world) (by simp)

private theorem ofTake : Traffic world .take world.stepTake.1 world.stepTake.2 := by
  unfold stepTake
  split
  · split
    · exact still _
    · exact .beside ⟨rfl, rfl, rfl, rfl⟩ (by simp)
  · exact still _

private theorem ofApply : Traffic world .apply world.stepApply.1 world.stepApply.2 := by
  unfold stepApply
  split
  · split
    · exact still _
    · exact .beside ⟨rfl, rfl, rfl, rfl⟩ (by simp)
  · exact still _

private theorem ofSpawn : Traffic world .spawn world.stepSpawn.1 world.stepSpawn.2 := by
  unfold stepSpawn
  split
  · exact .beside ⟨rfl, rfl, rfl, rfl⟩ (by simp)
  · exact still _

private theorem ofEndLoop (action : Action) (ending : Ending) :
    Traffic world action (world.endLoop ending).1 (world.endLoop ending).2 :=
  .beside (SameCallers.endLoop (.refl world) ending) (by simp [World.endLoop])

private theorem ofDropLoop :
    Traffic world .dropLoop world.stepDropLoop.1 world.stepDropLoop.2 := by
  unfold stepDropLoop
  split
  · exact ofEndLoop _ _
  · exact still _

private theorem ofFireTimer :
    Traffic world .fireTimer world.stepFireTimer.1 world.stepFireTimer.2 := by
  unfold stepFireTimer
  split
  · split
    · exact still _
    · exact .beside ⟨rfl, rfl, rfl, rfl⟩ (by simp)
  · exact still _

private theorem ofObserve :
    Traffic world .observe world.stepObserve.1 world.stepObserve.2 := by
  unfold stepObserve
  split
  · split
    · dsimp only
      split
      · exact .beside ⟨rfl, rfl, rfl, rfl⟩ (by simp [endLoop])
      · exact .beside ⟨rfl, rfl, rfl, rfl⟩ (by simp)
    · exact still _
  · exact still _

private theorem ofStop : Traffic world .stop world.stepStop.1 world.stepStop.2 := by
  unfold stepStop
  split
  · split
    · exact ofEndLoop _ _
    · split
      · exact ofEndLoop _ _
      · exact still _
  · exact still _

private theorem ofList (number : Nat) :
    Traffic world (.list number) (world.stepList number).1 (world.stepList number).2 := by
  unfold stepList
  split
  · exact .beside (.setStage (.refl world) _ _) (by simp)
  · exact still _

private theorem ofPanic (number : Nat) :
    Traffic world (.panic number)
      (world.stepPanic number).1 (world.stepPanic number).2 := by
  unfold stepPanic
  split
  · exact .beside (.setStage (.refl world) _ _) (by simp)
  · exact still _

private theorem ofReceive (number : Nat) :
    Traffic world (.receive number)
      (world.stepReceive number).1 (world.stepReceive number).2 := by
  unfold stepReceive
  split
  · exact .beside (.setStage (.refl world) _ _) (by simp)
  · exact .beside (.setStage (.refl world) _ _) (by simp)
  · exact still _

private theorem ofInstall (number : Nat) :
    Traffic world (.install number)
      (world.stepInstall number).1 (world.stepInstall number).2 := by
  unfold stepInstall
  split
  · exact .beside ⟨rfl, rfl, rfl, rfl⟩ (by simp)
  · exact still _

private theorem ofAnnounce (number : Nat) :
    Traffic world (.announce number)
      (world.stepAnnounce number).1 (world.stepAnnounce number).2 := by
  unfold stepAnnounce
  split
  · exact .beside ⟨rfl, rfl, rfl, rfl⟩ (by simp)
  · exact still _

end Traffic

/-- Every step moves the callers in one of these ways. -/
theorem traffic (world : World) (action : Action) :
    Traffic world action (world.step action).1 (world.step action).2 := by
  cases action with
  | call call =>
      exact Traffic.ofCall call
  | enter call number =>
      exact Traffic.ofEnter call number
  | record call =>
      exact Traffic.ofRecord call
  | expire call =>
      exact Traffic.ofExpire call
  | abandon call =>
      exact .abandons
  | submit item =>
      exact Traffic.ofSubmit item
  | take =>
      exact Traffic.ofTake
  | apply =>
      exact Traffic.ofApply
  | spawn =>
      exact Traffic.ofSpawn
  | dropLoop =>
      exact Traffic.ofDropLoop
  | cancel =>
      exact .cancels
  | cloneHandle =>
      simp only [step]
      split
      · exact Traffic.still _
      · rename_i held
        exact .clones held
  | dropHandle =>
      exact .drops
  | fireTimer =>
      exact Traffic.ofFireTimer
  | observe =>
      exact Traffic.ofObserve
  | stop =>
      exact Traffic.ofStop
  | list number =>
      exact Traffic.ofList number
  | panic number =>
      exact Traffic.ofPanic number
  | receive number =>
      exact Traffic.ofReceive number
  | install number =>
      exact Traffic.ofInstall number
  | announce number =>
      exact Traffic.ofAnnounce number
  | write write =>
      exact .beside ⟨rfl, rfl, rfl, rfl⟩ (by simp [step])
  | setClock clock =>
      exact .beside ⟨rfl, rfl, rfl, rfl⟩ (by simp [step])
  | pass milliseconds =>
      exact .beside ⟨rfl, rfl, rfl, rfl⟩ (by simp [step])

/-! ### What a step keeps -/

/-- Calls come in only through a handle of a queue that is ready. -/
theorem noneCalling_step {world : World} (noneWait : world.waiting = [])
    (free : world.visit = none) (shut : world.handles = 0 ∨ world.ready = false)
    (action : Action) :
    (world.step action).1.waiting = [] ∧ (world.step action).1.visit = none := by
  have traffic := world.traffic action
  generalize (world.step action).1 = next at traffic ⊢
  generalize (world.step action).2 = events at traffic
  have without (call : Nat) :
      (world.withoutCall call).waiting = [] ∧ (world.withoutCall call).visit = none := by
    simp [withoutCall, noneWait, free]
  cases traffic with
  | beside same silent =>
      exact ⟨same.waiting.trans noneWait, same.visit.trans free⟩
  | calls held ready =>
      rcases shut with none | closed
      · exact absurd none held
      · rw [closed] at ready
        cases ready
  | enters waits =>
      rw [noneWait] at waits
      cases waits
  | findsNone waits =>
      rw [noneWait] at waits
      cases waits
  | records guarded =>
      rw [free] at guarded
      cases guarded
  | expires =>
      exact without _
  | abandons =>
      exact without _
  | _ =>
      exact ⟨noneWait, free⟩

/-- Only who has a handle can make another one. -/
theorem handles_step {world : World} (none : world.handles = 0) (action : Action) :
    (world.step action).1.handles = 0 := by
  have traffic := world.traffic action
  generalize (world.step action).1 = next at traffic ⊢
  generalize (world.step action).2 = events at traffic
  cases traffic with
  | beside same silent =>
      exact same.handles.trans none
  | clones held =>
      exact absurd none held
  | drops =>
      exact (congrArg (· - 1) none).trans rfl
  | _ =>
      exact none

theorem cancelled_step {world : World} (cancelled : world.cancelled = true)
    (action : Action) : (world.step action).1.cancelled = true := by
  have traffic := world.traffic action
  generalize (world.step action).1 = next at traffic ⊢
  generalize (world.step action).2 = events at traffic
  cases traffic with
  | beside same silent =>
      exact same.cancelled.trans cancelled
  | cancels =>
      rfl
  | _ =>
      exact cancelled

/-! ### What a call is told -/

/-- How a call comes to be answered. -/
inductive Answers (world : World) (call : Nat) : Action → Except Fault String → Prop where
  | notReady (closed : world.ready = false) :
      Answers world call (.call call) (.error .notReady)
  | emptyPool (number : Nat) : Answers world call (.enter call number) (.error .emptyPool)
  | settled {visit : Visit} {result : Except Fault String}
      (guarded : world.visit = some visit) (own : visit.call = call)
      (told : result = Shelf.verdict visit.chosen
        ((world.store.recordView visit.chosen visit.viewedAt).map fun _ => ())) :
      Answers world call (.record call) result
  | timedOut : Answers world call (.expire call) (.error .timeout)

theorem answers_of_seen {world : World} {action : Action} {call : Nat}
    {result : Except Fault String} (seen : .answered call result ∈ (world.step action).2) :
    world.Answers call action result := by
  have traffic := world.traffic action
  generalize (world.step action).1 = next at traffic
  generalize (world.step action).2 = events at traffic seen
  cases traffic with
  | beside same silent =>
      exact absurd seen (silent call result)
  | turnedAway held closed =>
      cases List.mem_singleton.1 seen
      exact .notReady closed
  | findsNone waits =>
      cases List.mem_singleton.1 seen
      exact .emptyPool _
  | records guarded =>
      cases List.mem_singleton.1 seen
      exact .settled guarded rfl rfl
  | expires =>
      cases List.mem_singleton.1 seen
      exact .timedOut
  | _ =>
      cases seen

end StalestFirst.World
