import Mathlib
import StalestFirst.Proofs.Store
import StalestFirst.Queue.World

namespace StalestFirst

/-! ## What a step can do

Most steps leave alone what retrievals and rebuilds work on: the shelf and who
guards it, the store, the clock and the rebuilds. The others are told apart here,
once for all, with all that must hold for a party to take them. -/

/-- The event says nothing about the shelf, the store or a rebuild. -/
inductive Event.Aside : Event → Prop where
  | notReady (call : Nat) : Aside (.answered call (.error .notReady))
  | timedOut (call : Nat) : Aside (.answered call (.error .timeout))
  | accepted (item : Item) : Aside (.accepted item)
  | refused (item : Item) : Aside (.refused item)
  | ended (ending : Ending) : Aside (.ended ending)

attribute [simp] Event.Aside.notReady Event.Aside.timedOut Event.Aside.accepted
  Event.Aside.refused Event.Aside.ended

namespace World

/-- Whether the loop may still start a rebuild without observing one before. -/
def spare (world : World) : Bool :=
  match world.loop with
  | .unstarted => true
  | .running _ none _ => true
  | _ => false

/-- The two worlds have the same parts that retrievals and rebuilds work on. -/
structure Alike (world next : World) : Prop where
  settings : next.settings = world.settings
  store : next.store = world.store
  clock : next.clock = world.clock
  shelf : next.shelf = world.shelf
  visit : next.visit = world.visit
  rebuilds : next.rebuilds = world.rebuilds
  ready : next.ready = world.ready
  spare : next.spare = true → world.spare = true

theorem Alike.refl (world : World) : world.Alike world :=
  ⟨rfl, rfl, rfl, rfl, rfl, rfl, rfl, id⟩

/-- The step is not about the parts that retrievals and rebuilds work on, or its
party cannot take it. -/
def Idle (world : World) : Action → Prop
  | .enter call _ =>
      world.waiting.contains call = false ∨ world.visit.isSome = true
  | .record call | .expire call | .abandon call =>
      ∀ visit, world.visit = some visit → visit.call ≠ call
  | .apply =>
      world.visit.isSome = true ∨
        ∀ due inFlight item, world.loop ≠ .running due inFlight (some item)
  | .list number => ∀ found, world.rebuild? number ≠ some ⟨found, .begun⟩
  | .install number =>
      world.visit.isSome = true ∨
        ∀ found listing, world.rebuild? number ≠ some ⟨found, .arrived listing⟩
  | .announce number => ∀ found count, world.rebuild? number ≠ some ⟨found, .swapped count⟩
  | .write _ | .setClock _ => False
  | _ => True

/-- How a rebuild comes to its end, and whether the queue is ready then. -/
inductive Finish (world : World) (number : Nat) : Action → Outcome → Bool → Prop where
  | panics {found : Nat} (begun : world.rebuild? number = some ⟨found, .begun⟩) :
      Finish world number (.panic number) .panicked world.ready
  | fails {found : Nat} {fault : Fault}
      (listed : world.rebuild? number = some ⟨found, .listed (.error fault)⟩) :
      Finish world number (.receive number) (.failed fault) world.ready
  | announces {found count : Nat}
      (swapped : world.rebuild? number = some ⟨found, .swapped count⟩) :
      Finish world number (.announce number) (.installed count) true

theorem Finish.unfinished {world : World} {number : Nat} {action : Action}
    {outcome : Outcome} {ready : Bool} (finish : world.Finish number action outcome ready)
    (found : Nat) (ended : Outcome) : world.rebuild? number ≠ some ⟨found, .ended ended⟩ := by
  cases finish with
  | panics begun =>
      simp [begun]
  | fails listed =>
      simp [listed]
  | announces swapped =>
      simp [swapped]

theorem Finish.ne_list {world : World} {number : Nat} {action : Action}
    {outcome : Outcome} {ready : Bool} (finish : world.Finish number action outcome ready)
    (other : Nat) : action ≠ .list other := by
  cases finish with
  | panics begun =>
      nofun
  | fails listed =>
      nofun
  | announces swapped =>
      nofun

/-- What a step can change. -/
inductive Change (world : World) : Action → World → List Event → Prop where
  | aside {action : Action} {next : World} {events : List Event}
      (idle : world.Idle action) (alike : world.Alike next)
      (silent : ∀ event ∈ events, event.Aside) :
      Change world action next events
  | enters {call number : Nat} {chosen : String}
      (waits : world.waiting.contains call = true) (free : world.visit = none)
      (drawn : world.shelf.draw world.window number = some chosen) :
      Change world (.enter call number)
        { world.withoutCall call with visit := some ⟨call, chosen, world.clock⟩ } []
  | findsNone {call number : Nat}
      (waits : world.waiting.contains call = true) (free : world.visit = none)
      (drawn : world.shelf.draw world.window number = none) :
      Change world (.enter call number) (world.withoutCall call)
        [.answered call (.error .emptyPool)]
  | records {visit : Visit} (guarded : world.visit = some visit) :
      Change world (.record visit.call)
        { world with
          visit := none
          store := (world.store.recordView visit.chosen visit.viewedAt).toOption.getD
            world.store
          shelf := world.shelf.conclude visit.chosen visit.viewedAt
            ((world.store.recordView visit.chosen visit.viewedAt).map fun _ => ()) }
        [.answered visit.call (Shelf.verdict visit.chosen
          ((world.store.recordView visit.chosen visit.viewedAt).map fun _ => ()))]
  | leaves {visit : Visit} {action : Action} {events : List Event}
      (guarded : world.visit = some visit)
      (leaving : action = .expire visit.call ∨ action = .abandon visit.call)
      (silent : ∀ event ∈ events, event.Aside) :
      Change world action (world.withoutCall visit.call) events
  | applies {due : Nat} {inFlight : Option Nat} {item : Item}
      (free : world.visit = none)
      (taken : world.loop = .running due inFlight (some item)) :
      Change world .apply
        { world with
          shelf := world.shelf.apply item
          loop := .running due inFlight none }
        [.applied item]
  | starts {due : Nat} (resting : world.loop = .running due none none) :
      Change world .fireTimer
        { world with
          loop := .running due (some world.started) none
          rebuilds := world.rebuilds ++ [⟨world.started, .begun⟩]
          started := world.started + 1 }
        [.started world.started world.now]
  | observes {due number found : Nat} {outcome : Outcome} {loop : Loop}
      {buffer : List Item} {events : List Event}
      (waits : world.loop = .running due (some number) none)
      (finished : world.rebuild? number = some ⟨found, .ended outcome⟩)
      (silent : ∀ event ∈ events, event.Aside) :
      Change world .observe
        { world with
          rebuilds := world.rebuilds.filter fun rebuild => rebuild.number != number
          loop := loop
          buffer := buffer }
        (.observed number outcome world.now :: events)
  | lists {number found : Nat}
      (begun : world.rebuild? number = some ⟨found, .begun⟩) :
      Change world (.list number)
        (world.setStage number (.listed world.store.listing))
        [.listed number world.store.listing]
  | receives {number found : Nat} {listing : List ViewedBox}
      (listed : world.rebuild? number = some ⟨found, .listed (.ok listing)⟩) :
      Change world (.receive number) (world.setStage number (.arrived listing)) []
  | finishes {number : Nat} {outcome : Outcome} {action : Action} (ready : Bool)
      (finish : world.Finish number action outcome ready) :
      Change world action
        ({ world with ready }.setStage number (.ended outcome)) []
  | installs {number found : Nat} {listing : List ViewedBox}
      (free : world.visit = none)
      (arrived : world.rebuild? number = some ⟨found, .arrived listing⟩) :
      Change world (.install number)
        ({ world with shelf := world.shelf.install listing }.setStage number
          (.swapped (world.shelf.install listing).pool.size))
        [.installed number listing]
  | writes (write : StoreWrite) :
      Change world (.write write)
        { world with store := write.apply world.store } []
  | setsClock (clock : Moment) :
      Change world (.setClock clock) { world with clock } []

namespace Change

variable {world : World}

private theorem still {action : Action} (idle : world.Idle action) :
    Change world action world [] :=
  .aside idle (.refl world) fun _ member => absurd member List.not_mem_nil

private theorem ofCall (call : Nat) :
    Change world (.call call) (world.stepCall call).1 (world.stepCall call).2 := by
  unfold stepCall
  split
  · exact still trivial
  · split
    · exact .aside trivial ⟨rfl, rfl, rfl, rfl, rfl, rfl, rfl, id⟩ (by simp)
    · exact .aside trivial (.refl world) (by simp)

private theorem ofEnter (call number : Nat) :
    Change world (.enter call number)
      (world.stepEnter call number).1 (world.stepEnter call number).2 := by
  unfold stepEnter
  split
  · rename_i stays
    refine still ?_
    simpa [Idle] using stays
  · rename_i goes
    simp only [Bool.or_eq_true, Bool.not_eq_true', not_or,
      Bool.not_eq_false, Bool.not_eq_true, Option.isSome_eq_false_iff,
      Option.isNone_iff_eq_none] at goes
    cases drawn : world.shelf.draw world.window number with
    | none =>
        exact .findsNone goes.1 goes.2 drawn
    | some chosen =>
        exact .enters goes.1 goes.2 drawn

private theorem ofRecord (call : Nat) :
    Change world (.record call)
      (world.stepRecord call).1 (world.stepRecord call).2 := by
  unfold stepRecord
  cases guarded : world.visit with
  | none =>
      exact still fun visit other => by simp [guarded] at other
  | some visit =>
      by_cases sameCall : visit.call = call
      · subst sameCall
        simp only [if_true]
        exact .records guarded
      · simp only [if_neg sameCall]
        refine still fun other present => ?_
        rw [guarded] at present
        cases present
        exact sameCall

private theorem withoutCall_alike {call : Nat}
    (elsewhere : ∀ visit, world.visit = some visit → visit.call ≠ call) :
    world.Alike (world.withoutCall call) := by
  refine ⟨rfl, rfl, rfl, rfl, ?_, rfl, rfl, id⟩
  unfold withoutCall
  dsimp only
  cases guarded : world.visit with
  | none =>
      rfl
  | some visit =>
      simp [Option.filter, elsewhere visit guarded]

/-- Giving a call up frees the shelf if the call has it, and else changes nothing
that others see. -/
private theorem ofLeaving {call : Nat} {action : Action} {events : List Event}
    (leaving : action = .expire call ∨ action = .abandon call)
    (silent : ∀ event ∈ events, event.Aside) :
    Change world action (world.withoutCall call) events := by
  by_cases elsewhere : ∀ visit, world.visit = some visit → visit.call ≠ call
  · refine .aside ?_ (withoutCall_alike elsewhere) silent
    rcases leaving with rfl | rfl
    · exact elsewhere
    · exact elsewhere
  · simp only [not_forall, not_not] at elsewhere
    obtain ⟨visit, guarded, rfl⟩ := elsewhere
    exact .leaves guarded leaving silent

private theorem ofExpire (call : Nat) :
    Change world (.expire call)
      (world.stepExpire call).1 (world.stepExpire call).2 := by
  unfold stepExpire
  split
  · exact ofLeaving (Or.inl rfl) (by simp)
  · rename_i absent
    refine still fun visit guarded sameCall => absent ?_
    simp [calling, guarded, sameCall]

private theorem ofSubmit (item : Item) :
    Change world (.submit item)
      (world.stepSubmit item).1 (world.stepSubmit item).2 := by
  unfold stepSubmit
  split
  · exact still trivial
  · split
    · exact .aside trivial ⟨rfl, rfl, rfl, rfl, rfl, rfl, rfl, id⟩ (by simp)
    · exact .aside trivial (.refl world) (by simp)

private theorem ofTake :
    Change world .take world.stepTake.1 world.stepTake.2 := by
  unfold stepTake
  split
  · rename_i due inFlight item rest running _
    split
    · exact still trivial
    · refine .aside trivial ⟨rfl, rfl, rfl, rfl, rfl, rfl, rfl, ?_⟩ (by simp)
      intro spare
      cases inFlight with
      | none =>
          simp [World.spare, running]
      | some number =>
          simp [World.spare] at spare
  · exact still trivial

private theorem ofApply :
    Change world .apply world.stepApply.1 world.stepApply.2 := by
  unfold stepApply
  split
  · rename_i due inFlight item taken
    split
    · rename_i guarded
      exact still (Or.inl guarded)
    · rename_i free
      simp only [Bool.not_eq_true, Option.isSome_eq_false_iff,
        Option.isNone_iff_eq_none] at free
      exact .applies free taken
  · rename_i otherwise
    exact still (Or.inr otherwise)

/-- A loop that is gone starts no rebuild. -/
private theorem ofEndLoop (action : Action) (idle : world.Idle action)
    (ending : Ending) :
    Change world action (world.endLoop ending).1 (world.endLoop ending).2 := by
  refine .aside idle ⟨rfl, rfl, rfl, rfl, rfl, rfl, rfl, ?_⟩ (by simp [endLoop])
  intro spare
  simp [World.spare, endLoop] at spare

private theorem ofSpawn :
    Change world .spawn world.stepSpawn.1 world.stepSpawn.2 := by
  unfold stepSpawn
  split
  · rename_i unstarted
    refine .aside trivial ⟨rfl, rfl, rfl, rfl, rfl, rfl, rfl, ?_⟩ (by simp)
    simp [World.spare, unstarted]
  · exact still trivial

private theorem ofDropLoop :
    Change world .dropLoop world.stepDropLoop.1 world.stepDropLoop.2 := by
  unfold stepDropLoop
  split
  · exact ofEndLoop .dropLoop trivial .dropped
  · exact still trivial

private theorem ofFireTimer :
    Change world .fireTimer world.stepFireTimer.1 world.stepFireTimer.2 := by
  unfold stepFireTimer
  split
  · rename_i resting
    split
    · exact still trivial
    · exact .starts resting
  · exact still trivial

private theorem ofObserve :
    Change world .observe world.stepObserve.1 world.stepObserve.2 := by
  unfold stepObserve
  split
  · rename_i due number waits
    split
    · rename_i found outcome _ finished
      dsimp only
      split
      · exact .observes waits finished (by simp [endLoop])
      · exact .observes waits finished (by simp)
    · exact still trivial
  · exact still trivial

private theorem ofStop :
    Change world .stop world.stepStop.1 world.stepStop.2 := by
  unfold stepStop
  split
  · split
    · exact ofEndLoop .stop trivial .cancelled
    · split
      · exact ofEndLoop .stop trivial .deserted
      · exact still trivial
  · exact still trivial

private theorem ofList (number : Nat) :
    Change world (.list number) (world.stepList number).1 (world.stepList number).2 := by
  unfold stepList
  split
  · rename_i found begun
    exact .lists begun
  · rename_i otherwise
    exact still fun found begun => otherwise found begun

private theorem ofPanic (number : Nat) :
    Change world (.panic number)
      (world.stepPanic number).1 (world.stepPanic number).2 := by
  unfold stepPanic
  split
  · rename_i begun
    exact .finishes world.ready (.panics begun)
  · exact still trivial

private theorem ofReceive (number : Nat) :
    Change world (.receive number)
      (world.stepReceive number).1 (world.stepReceive number).2 := by
  unfold stepReceive
  split
  · rename_i listed
    exact .receives listed
  · rename_i listed
    exact .finishes world.ready (.fails listed)
  · exact still trivial

private theorem ofInstall (number : Nat) :
    Change world (.install number)
      (world.stepInstall number).1 (world.stepInstall number).2 := by
  unfold stepInstall
  split
  · rename_i found listing free arrived
    exact .installs free arrived
  · rename_i otherwise
    refine still ?_
    cases guarded : world.visit with
    | none =>
        exact Or.inr fun found listing arrived =>
          otherwise found listing guarded arrived
    | some visit =>
        exact Or.inl (by simp [guarded])

private theorem ofAnnounce (number : Nat) :
    Change world (.announce number)
      (world.stepAnnounce number).1 (world.stepAnnounce number).2 := by
  unfold stepAnnounce
  split
  · rename_i swapped
    exact .finishes true (.announces swapped)
  · rename_i otherwise
    exact still fun found count swapped => otherwise found count swapped

end Change

/-- Every step changes something in one of these ways. -/
theorem change (world : World) (action : Action) :
    Change world action (world.step action).1 (world.step action).2 := by
  cases action with
  | call call =>
      exact Change.ofCall call
  | enter call number =>
      exact Change.ofEnter call number
  | record call =>
      exact Change.ofRecord call
  | expire call =>
      exact Change.ofExpire call
  | abandon call =>
      exact Change.ofLeaving (Or.inr rfl)
        fun _ member => absurd member List.not_mem_nil
  | submit item =>
      exact Change.ofSubmit item
  | take =>
      exact Change.ofTake
  | apply =>
      exact Change.ofApply
  | spawn =>
      exact Change.ofSpawn
  | dropLoop =>
      exact Change.ofDropLoop
  | cancel =>
      exact .aside trivial ⟨rfl, rfl, rfl, rfl, rfl, rfl, rfl, id⟩ (by simp [step])
  | cloneHandle =>
      simp only [step]
      split
      · exact Change.still trivial
      · exact .aside trivial ⟨rfl, rfl, rfl, rfl, rfl, rfl, rfl, id⟩ (by simp)
  | dropHandle =>
      exact .aside trivial ⟨rfl, rfl, rfl, rfl, rfl, rfl, rfl, id⟩ (by simp [step])
  | fireTimer =>
      exact Change.ofFireTimer
  | observe =>
      exact Change.ofObserve
  | stop =>
      exact Change.ofStop
  | list number =>
      exact Change.ofList number
  | panic number =>
      exact Change.ofPanic number
  | receive number =>
      exact Change.ofReceive number
  | install number =>
      exact Change.ofInstall number
  | announce number =>
      exact Change.ofAnnounce number
  | write write =>
      exact .writes write
  | setClock clock =>
      exact .setsClock clock
  | pass milliseconds =>
      exact .aside trivial ⟨rfl, rfl, rfl, rfl, rfl, rfl, rfl, id⟩ (by simp [step])

/-- No step changes the window. -/
theorem window_step (world : World) (action : Action) :
    (world.step action).1.window = world.window := by
  have change := world.change action
  generalize (world.step action).1 = next at change ⊢
  generalize (world.step action).2 = events at change
  cases change with
  | aside idle alike silent =>
      rw [window, window, alike.settings]
  | _ =>
      rfl

end World

end StalestFirst
