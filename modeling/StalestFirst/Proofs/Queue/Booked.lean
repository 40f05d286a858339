import Mathlib
import StalestFirst.Proofs.Queue.Turns

namespace StalestFirst.World

/-! ## The ledger of a run -/

/-- The ledger says the same as the world about the store, the shelf and the
listings that are on their way. `held` is the turn of whoever guards the shelf: the
box it has chosen is the one that it would draw now. -/
structure Booked (world : World) (held : Option ShelfTurn) (ledger : Ledger) : Prop where
  store : ledger.store = world.store
  shelf : ledger.shelf = world.shelf
  listings : ∀ number listing, world.Pending number listing →
    ledger.listings number = listing
  chosen : ∀ visit, world.visit = some visit → ∃ number,
    held = some (.retrieve visit.call number visit.viewedAt) ∧
      world.shelf.draw world.window number = some visit.chosen

theorem verdict?_of_aside (event : Event) (aside : event.Aside) :
    event.verdict? = none := by
  cases aside <;> rfl

theorem verdicts_of_silent {events : List Event}
    (silent : ∀ event ∈ events, event.Aside) :
    events.filterMap Event.verdict? = [] :=
  Event.filterMap_of_blind verdict?_of_aside silent

/-- A retrieval that has its view recorded does what it would do in one turn. -/
theorem retrieve_of_drawn {ledger : Ledger} {window : Window} {number : Nat}
    {chosen : String} (drawn : ledger.shelf.draw window number = some chosen)
    (viewedAt : Moment) :
    ledger.retrieve window number viewedAt =
      ({ ledger with
          store := (ledger.store.recordView chosen viewedAt).toOption.getD ledger.store
          shelf := ledger.shelf.conclude chosen viewedAt
            ((ledger.store.recordView chosen viewedAt).map fun _ => ()) },
        Shelf.verdict chosen
          ((ledger.store.recordView chosen viewedAt).map fun _ => ())) := by
  simp only [Ledger.retrieve, drawn]
  have result := Store.recording ledger.store chosen viewedAt
  generalize ledger.store.recordView chosen viewedAt = answer at result ⊢
  cases result with
  | recorded found =>
      rfl
  | missing absent =>
      rfl
  | unreachable =>
      rfl

/-- The answer to a retrieval whose view was recorded counts as a verdict: the
store never says that the queue is not ready or that time is up. -/
theorem verdict?_of_record (call : Nat) (store : Store) (chosen : String)
    (viewedAt : Moment) :
    (Event.answered call (Shelf.verdict chosen
      ((store.recordView chosen viewedAt).map fun _ => ()))).verdict? =
      some (call, Shelf.verdict chosen
        ((store.recordView chosen viewedAt).map fun _ => ())) := by
  have result := Store.recording store chosen viewedAt
  generalize store.recordView chosen viewedAt = answer at result ⊢
  cases result with
  | recorded found =>
      rfl
  | missing absent =>
      rfl
  | unreachable =>
      rfl

/-- What a step enters into the ledger leads to the same state and the same
answers as the step. -/
structure Kept (world next : World) (ledger : Ledger) (entries : List Entry)
    (turn : Option ShelfTurn) (events : List Event) : Prop where
  booked : next.Booked turn (ledger.run world.window entries).1
  answers : (ledger.run world.window entries).2 = events.filterMap Event.verdict?

variable {world next : World} {held : Option ShelfTurn} {ledger : Ledger}

/-! ## Steps beside the shelf -/

/-- A step that changes neither the store nor the shelf, brings no new listing and
lets no other retrieval have the shelf, enters nothing. -/
theorem kept_of_nothing {events : List Event}
    (booked : world.Booked held ledger)
    (sameStore : next.store = world.store) (sameShelf : next.shelf = world.shelf)
    (sameWindow : next.window = world.window)
    (pendingBefore : ∀ number listing, next.Pending number listing →
      world.Pending number listing)
    (guards : ∀ visit, next.visit = some visit → world.visit = some visit)
    (silent : events.filterMap Event.verdict? = []) :
    world.Kept next ledger [] held events where
  booked := {
    store := booked.store.trans sameStore.symm
    shelf := booked.shelf.trans sameShelf.symm
    listings := fun number listing pending =>
      booked.listings number listing (pendingBefore number listing pending)
    chosen := by
      intro visit guarded
      rw [sameShelf, sameWindow]
      exact booked.chosen visit (guards visit guarded) }
  answers := silent.symm

theorem kept_lists (booked : world.Booked held ledger) (number : Nat) :
    world.Kept (world.setStage number (.listed world.store.listing)) ledger
      [.list number] held [.listed number world.store.listing] := by
  cases listed : world.store.listing with
  | ok listing =>
      have entered : (ledger.run world.window [.list number]).1 =
          { ledger with listings := fun other =>
              if other = number then listing else ledger.listings other } := by
        simp only [Ledger.run_singleton, Ledger.enter, booked.store, listed]
      refine ⟨?_, ?_⟩
      · rw [entered]
        refine ⟨booked.store, booked.shelf, ?_, booked.chosen⟩
        intro other kept pending
        rcases pending.of_setStage with ⟨different, earlier⟩ | ⟨same, made | arrived⟩
        · simp only [if_neg different]
          exact booked.listings other kept earlier
        · simp only [if_pos same]
          exact Except.ok.inj (Stage.listed.inj made)
        · cases arrived
      · simp only [Ledger.run_singleton, Ledger.enter, booked.store, listed]
        rfl
  | error fault =>
      have entered : ledger.run world.window [.list number] = (ledger, []) := by
        simp only [Ledger.run_singleton, Ledger.enter, booked.store, listed]
      refine ⟨?_, ?_⟩
      · rw [entered]
        refine ⟨booked.store, booked.shelf, ?_, booked.chosen⟩
        intro other kept pending
        rcases pending.of_setStage with ⟨_, earlier⟩ | ⟨_, made | arrived⟩
        · exact booked.listings other kept earlier
        · cases made
        · cases arrived
      · rw [entered]
        rfl

theorem kept_writes (booked : world.Booked held ledger) (write : StoreWrite) :
    world.Kept { world with store := write.apply world.store } ledger
      [.write write] held [] := by
  refine ⟨⟨?_, booked.shelf, booked.listings, booked.chosen⟩, rfl⟩
  simp only [Ledger.run_singleton, Ledger.enter, booked.store]

/-! ## Turns -/

theorem kept_enters {call number : Nat} {chosen : String}
    (booked : world.Booked held ledger)
    (drawn : world.shelf.draw world.window number = some chosen) :
    world.Kept
      { world.withoutCall call with visit := some ⟨call, chosen, world.clock⟩ }
      ledger [] (some (.retrieve call number world.clock)) [] := by
  refine ⟨⟨booked.store, booked.shelf, booked.listings, ?_⟩, rfl⟩
  intro visit guarded
  cases guarded
  exact ⟨number, rfl, drawn⟩

theorem kept_findsNone {call number : Nat}
    (booked : world.Booked held ledger) (free : world.visit = none)
    (drawn : world.shelf.draw world.window number = none) :
    world.Kept (world.withoutCall call) ledger
      [.turn (.retrieve call number world.clock)]
      (some (.retrieve call number world.clock))
      [.answered call (.error .emptyPool)] := by
  have entered :
      ledger.run world.window [.turn (.retrieve call number world.clock)] =
        (ledger, [(call, .error .emptyPool)]) := by
    simp only [Ledger.run_singleton, Ledger.enter, Ledger.retrieve, booked.shelf,
      drawn]
  refine ⟨?_, ?_⟩
  · rw [entered]
    refine ⟨booked.store, booked.shelf, booked.listings, ?_⟩
    intro visit guarded
    simp [withoutCall, free] at guarded
  · rw [entered]
    rfl

theorem kept_records {visit : Visit} {number : Nat}
    (booked : world.Booked held ledger)
    (drawn : world.shelf.draw world.window number = some visit.chosen) :
    world.Kept
      { world with
        visit := none
        store := (world.store.recordView visit.chosen visit.viewedAt).toOption.getD
          world.store
        shelf := world.shelf.conclude visit.chosen visit.viewedAt
          ((world.store.recordView visit.chosen visit.viewedAt).map fun _ => ()) }
      ledger [.turn (.retrieve visit.call number visit.viewedAt)] held
      [.answered visit.call (Shelf.verdict visit.chosen
        ((world.store.recordView visit.chosen visit.viewedAt).map fun _ => ()))] := by
  rw [← booked.shelf] at drawn
  refine ⟨?_, ?_⟩
  · rw [Ledger.run_singleton, Ledger.enter, retrieve_of_drawn drawn]
    refine ⟨?_, ?_, booked.listings, fun _ guarded => nomatch guarded⟩
    · simp only [booked.store]
    · simp only [booked.store, booked.shelf]
  · rw [Ledger.run_singleton, Ledger.enter, retrieve_of_drawn drawn]
    simp only [booked.store, List.filterMap_cons, List.filterMap_nil,
      verdict?_of_record]

theorem kept_applies {item : Item} {loop : Loop}
    (booked : world.Booked held ledger) (free : world.visit = none) :
    world.Kept { world with shelf := world.shelf.apply item, loop } ledger
      [.turn (.apply item)] (some (.apply item)) [.applied item] := by
  refine ⟨⟨booked.store, ?_, booked.listings, ?_⟩, rfl⟩
  · simp only [Ledger.run_singleton, Ledger.enter, booked.shelf]
  · intro visit guarded
    rw [free] at guarded
    cases guarded

theorem kept_installs {number found : Nat} {listing : List ViewedBox}
    (booked : world.Booked held ledger) (free : world.visit = none)
    (arrived : world.rebuild? number = some ⟨found, .arrived listing⟩)
    (pendingBefore : ∀ other kept,
      ({ world with shelf := world.shelf.install listing }.setStage number
        (.swapped (world.shelf.install listing).pool.size)).Pending other kept →
        world.Pending other kept) :
    world.Kept
      ({ world with shelf := world.shelf.install listing }.setStage number
        (.swapped (world.shelf.install listing).pool.size))
      ledger [.turn (.install number)] (some (.install number))
      [.installed number listing] := by
  obtain ⟨member, named⟩ := rebuild?_eq_some arrived
  have onItsWay : ledger.listings number = listing :=
    booked.listings number listing ⟨_, member, named, Or.inr rfl⟩
  refine ⟨⟨booked.store, ?_, ?_, ?_⟩, rfl⟩
  · simp only [Ledger.run_singleton, Ledger.enter, booked.shelf, onItsWay]
    rfl
  · exact fun other kept pending =>
      booked.listings other kept (pendingBefore other kept pending)
  · intro visit guarded
    have present : world.visit = some visit := guarded
    rw [free] at present
    cases present

/-! ## Steps and runs -/

/-- The ledger keeps up with every step. -/
theorem kept_step (booked : world.Booked held ledger) (action : Action) :
    world.Kept (world.step action).1 ledger (world.entries held action)
      (world.begins action <|> held) (world.step action).2 := by
  have change := world.change action
  have sameWindow := world.window_step action
  have pendingBefore : ∀ number listing,
      (world.step action).1.Pending number listing →
        world.Pending number listing ∨
          (action = .list number ∧ world.store.listing = .ok listing) :=
    fun _ _ pending => pending_step pending
  generalize nextEq : (world.step action).1 = next
    at change sameWindow pendingBefore ⊢
  generalize (world.step action).2 = events at change ⊢
  cases change with
  | aside idle alike silent =>
      rw [entries_of_idle idle, begins_of_idle idle]
      refine kept_of_nothing booked alike.store alike.shelf sameWindow ?_ ?_
        (verdicts_of_silent silent)
      · exact fun _ _ pending => pending.of_same alike.rebuilds
      · exact fun _ guarded => alike.visit ▸ guarded
  | @enters call number chosen waits free drawn =>
      have begun := begins_enter waits free number
      rw [entries_of_guarded begun (congrArg World.visit nextEq), begun]
      exact kept_enters booked drawn
  | @findsNone call number waits free drawn =>
      have unguarded : (world.withoutCall call).visit = none := by
        simp [withoutCall, free]
      have begun := begins_enter waits free number
      rw [entries_of_whole begun (nextEq ▸ unguarded), begun]
      exact kept_findsNone booked free drawn
  | @records visit guarded =>
      -- The turn began when the box was chosen. The shelf has not changed since, so
      -- the ledger chooses the same box now.
      obtain ⟨number, heldTurn, drawn⟩ := booked.chosen visit guarded
      have one : world.entries held (.record visit.call) =
          [.turn (.retrieve visit.call number visit.viewedAt)] := by
        simp [entries, guarded, heldTurn]
      rw [one]
      exact kept_records booked drawn
  | @leaves visit _ _ guarded leaving silent =>
      have unguarded : (world.withoutCall visit.call).visit = none := by
        simp [withoutCall, guarded, Option.filter]
      obtain ⟨turnless, none⟩ := turnless_of_leaving world leaving held
      rw [none, turnless]
      refine kept_of_nothing booked rfl rfl rfl (fun _ _ => id) ?_
        (verdicts_of_silent silent)
      intro other present
      rw [unguarded] at present
      cases present
  | @applies due inFlight item free taken =>
      have begun := begins_apply free taken
      rw [entries_of_whole begun (nextEq ▸ free), begun]
      exact kept_applies booked free
  | starts resting =>
      have none : world.entries held .fireTimer = [] := by
        simp [entries, begins]
      rw [none]
      refine kept_of_nothing booked rfl rfl rfl ?_ (fun _ => id) rfl
      exact fun number listing pending =>
        (pendingBefore number listing pending).resolve_right (by simp)
  | observes waits finished silent =>
      have none : world.entries held .observe = [] := by
        simp [entries, begins]
      rw [none]
      refine kept_of_nothing booked rfl rfl rfl ?_ (fun _ => id) ?_
      · exact fun number listing pending =>
          (pendingBefore number listing pending).resolve_right (by simp)
      · rw [List.filterMap_cons, verdicts_of_silent silent]
        rfl
  | @lists number found begun =>
      have one : world.entries held (.list number) = [.list number] := by
        simp [entries, begun]
      rw [one]
      exact kept_lists booked number
  | @receives number found listing listed =>
      have none : world.entries held (.receive number) = [] := by
        simp [entries, begins]
      rw [none]
      refine kept_of_nothing booked rfl rfl rfl ?_ (fun _ => id) rfl
      exact fun number listing pending =>
        (pendingBefore number listing pending).resolve_right (by simp)
  | finishes ready finish =>
      obtain ⟨turnless, none, _⟩ := turnless_of_finish finish held
      rw [none, turnless]
      refine kept_of_nothing booked rfl rfl rfl ?_ (fun _ => id) rfl
      intro other listing pending
      exact (pendingBefore other listing pending).resolve_right
        fun listed => finish.ne_list other listed.1
  | @installs number found listing free arrived =>
      have unguarded : (world.step (.install number)).1.visit = none := by
        rw [nextEq]
        exact free
      have begun := begins_install free arrived
      rw [entries_of_whole begun unguarded, begun]
      refine kept_installs booked free arrived fun other kept pending => ?_
      exact (pendingBefore other kept pending).resolve_right (by simp)
  | writes write =>
      exact kept_writes booked write
  | setsClock clock =>
      have none : world.entries held (.setClock clock) = [] := by
        simp [entries, begins]
      rw [none]
      exact kept_of_nothing booked rfl rfl rfl (fun _ _ => id) (fun _ => id) rfl

/-- The ledger keeps up with every run. -/
theorem kept_run (booked : world.Booked held ledger) (actions : List Action) :
    ∃ turn, (world.run actions).1.Booked turn
        (ledger.run world.window (world.history held actions)).1 ∧
      (ledger.run world.window (world.history held actions)).2 =
        (world.run actions).2.filterMap Event.verdict? := by
  induction actions generalizing world held ledger with
  | nil =>
      exact ⟨held, booked, rfl⟩
  | cons action rest inductionHypothesis =>
      have first := kept_step booked action
      obtain ⟨turn, lastBooked, laterAnswers⟩ := inductionHypothesis first.booked
      rw [window_step] at lastBooked laterAnswers
      refine ⟨turn, ?_, ?_⟩
      · rw [history, Ledger.run_append, run_cons]
        exact lastBooked
      · rw [history, Ledger.run_append, run_cons, List.filterMap_append,
          laterAnswers, first.answers]

end StalestFirst.World
