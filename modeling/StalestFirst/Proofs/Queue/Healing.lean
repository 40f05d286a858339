import Mathlib
import StalestFirst.Proofs.Queue.Rebuilds
import StalestFirst.Proofs.Queue.Views

namespace StalestFirst

/-- An event after which the box `id` is no longer in the pool, if the store does not
know it: a listing is installed, or the store has said that the box is missing. -/
def Event.Removes (id : String) : Event → Prop
  | .installed _ _ => True
  | .answered _ (.error (.boxNotFound missing)) => missing = id
  | _ => False

theorem Event.not_removes_of_aside (id : String) (event : Event) (aside : event.Aside) :
    ¬ event.Removes id := by
  cases aside <;> exact not_false

/-- An event after which the box `id` is in the pool. -/
def Event.Admits (id : String) : Event → Prop
  | .applied item => item.id = id
  | .installed _ listing => ∃ viewed ∈ listing, viewed.id = id
  | .answered _ (.ok served) => served = id
  | _ => False

theorem Event.not_admits_of_aside (id : String) (event : Event) (aside : event.Aside) :
    ¬ event.Admits id := by
  cases aside <;> exact not_false

namespace World

/-! ## Listings on their way

A listing that was made since some moment knows what the store knew all the time
since. -/

variable {world : World} {id : String}

/-- The boxes are filed, there is one rebuild at most, and all listings on their way
have something in common. -/
structure Expecting (common : List ViewedBox → Prop) (world : World) : Prop where
  filed : world.store.Filed
  sole : world.Sole
  pending : ∀ number listing, world.Pending number listing → common listing

theorem expecting_step {common : List ViewedBox → Prop} (action : Action)
    (made : ∀ listing, world.store.listing = .ok listing → common listing)
    (expecting : world.Expecting common) :
    (world.step action).1.Expecting common where
  filed := filed_step world action expecting.filed
  sole := sole_step world action expecting.sole
  pending := by
    intro number listing pending
    rcases pending_step pending with earlier | ⟨_, listed⟩
    · exact expecting.pending number listing earlier
    · exact made listing listed

/-- A rebuild that makes its listing is the only one, so nothing older is on its
way. -/
theorem expecting_of_listed {common : List ViewedBox → Prop} {number : Nat}
    {listing : List ViewedBox} (filed : world.store.Filed) (sole : world.Sole)
    (listed : (world.step (.list number)).2 = [.listed number (.ok listing)])
    (made : ∀ listing, world.store.listing = .ok listing → common listing) :
    (world.step (.list number)).1.Expecting common where
  filed := filed_step world _ filed
  sole := sole_step world _ sole
  pending := by
    -- A listing made before would belong to a second rebuild.
    obtain ⟨found, begun⟩ := begun_of_listed listed
    intro other pendingListing pending
    rcases pending_step pending with ⟨rebuild, member, _, stage⟩ | ⟨_, fresh⟩
    · rw [sole.rebuilds_eq begun, List.mem_singleton] at member
      rw [member] at stage
      simp at stage
    · exact made pendingListing fresh

/-- What the store lets every listing have in common since a rebuild has made its
own, all listings on their way have in common. -/
theorem expecting_run {common : List ViewedBox → Prop} {fact : World → Prop}
    {number : Nat} {listing : List ViewedBox} {between : List Action}
    (made : ∀ current : World, current.store.Filed → fact current →
      ∀ listing, current.store.listing = .ok listing → common listing)
    (filed : world.store.Filed) (sole : world.Sole)
    (listed : (world.step (.list number)).2 = [.listed number (.ok listing)])
    (holds : world.Throughout fact (.list number :: between)) :
    (world.run (.list number :: between)).1.Expecting common := by
  have expecting := expecting_of_listed filed sole listed (made world filed holds.1)
  rw [run_cons]
  exact run_invariant
    (fun current action factNow (expecting : current.Expecting common) =>
      expecting_step action (made current expecting.filed factNow) expecting)
    holds.2.along expecting

/-! ## Boxes that stay -/

/-- A box that the store has is in the pool after a step that admits it, and else stays
there unless a listing is installed. -/
theorem contains_step_iff {action : Action}
    (viewed : (world.store.lastView? id).isSome = true) :
    (world.step action).1.shelf.pool.contains id = true ↔
      (∃ event ∈ (world.step action).2, event.Admits id) ∨
        (world.shelf.pool.contains id = true ∧
          ∀ number listing, .installed number listing ∉ (world.step action).2) := by
  have change := world.change action
  generalize (world.step action).1 = next at change ⊢
  generalize (world.step action).2 = events at change ⊢
  have kept (same : next.shelf.pool = world.shelf.pool)
      (silent : ∀ event ∈ events, ¬ event.Admits id)
      (quiet : ∀ number listing, .installed number listing ∉ events) :
      next.shelf.pool.contains id = true ↔
        (∃ event ∈ events, event.Admits id) ∨ (world.shelf.pool.contains id = true ∧
          ∀ number listing, .installed number listing ∉ events) := by
    rw [same]
    refine ⟨fun contained => Or.inr ⟨contained, quiet⟩, ?_⟩
    rintro (⟨event, seen, admits⟩ | ⟨contained, _⟩)
    · exact absurd admits (silent event seen)
    · exact contained
  cases change with
  | aside idle alike silent =>
      refine kept (congrArg Shelf.pool alike.shelf) (fun event seen =>
        event.not_admits_of_aside id (silent event seen)) fun number listing seen => ?_
      cases silent _ seen
  | leaves guarded leaving silent =>
      refine kept rfl (fun event seen =>
        event.not_admits_of_aside id (silent event seen)) fun number listing seen => ?_
      cases silent _ seen
  | observes waits finished silent =>
      refine kept rfl (fun event seen => ?_) fun number listing seen => ?_
      · rcases List.mem_cons.1 seen with rfl | later
        · exact not_false
        · exact event.not_admits_of_aside id (silent event later)
      · rcases List.mem_cons.1 seen with same | later
        · cases same
        · cases silent _ later
  | @records visit guarded =>
      dsimp only
      have result := Store.recording world.store visit.chosen visit.viewedAt
      generalize world.store.recordView visit.chosen visit.viewedAt = answer at result ⊢
      cases result with
      | recorded found =>
          simp [Except.map, Shelf.conclude, Shelf.serve, Shelf.verdict, Event.Admits]
      | missing absent =>
          -- Only a box that the store does not know is taken from the pool.
          have other : visit.chosen ≠ id := by
            rintro rfl
            simp [Store.lastView?, absent] at viewed
          simp [Except.map, Shelf.conclude, Shelf.discard, Shelf.verdict, Event.Admits, other]
      | unreachable =>
          simp [Except.map, Shelf.conclude, Shelf.verdict, Event.Admits, Store.outage]
  | applies free taken =>
      simp [Shelf.apply, Event.Admits]
  | installs free arrived =>
      refine Shelf.contains_rebuilt.trans ?_
      simp [Event.Admits]
  | _ =>
      exact kept rfl (by simp [Event.Admits]) (by simp)

/-- A listing is installed only if it was on its way. -/
theorem pending_of_installed {action : Action} {number : Nat} {listing : List ViewedBox}
    (installed : .installed number listing ∈ (world.step action).2) :
    (world.step action).2 = [.installed number listing] ∧
      world.Pending number listing := by
  have change := world.change action
  generalize (world.step action).1 = next at change
  generalize (world.step action).2 = events at change installed ⊢
  cases change with
  | @installs number found listing free arrived =>
      obtain ⟨member, named⟩ := rebuild?_eq_some arrived
      cases List.mem_singleton.1 installed
      exact ⟨rfl, ⟨_, member, named, Or.inr rfl⟩⟩
  | aside idle alike silent =>
      cases silent _ installed
  | leaves guarded leaving silent =>
      cases silent _ installed
  | observes waits finished silent =>
      rcases List.mem_cons.1 installed with same | later
      · cases same
      · cases silent _ later
  | _ =>
      simp at installed

/-- A box that the store has and that all listings on their way name is not taken
from the pool. -/
theorem contains_step {action : Action}
    (expecting : world.Expecting fun listing => ∃ viewed ∈ listing, viewed.id = id)
    (viewed : (world.store.lastView? id).isSome = true)
    (contained : world.shelf.pool.contains id = true) :
    (world.step action).1.shelf.pool.contains id = true := by
  rw [contains_step_iff viewed]
  by_cases installs : ∃ number listing, .installed number listing ∈ (world.step action).2
  · obtain ⟨number, listing, seen⟩ := installs
    have pending := (pending_of_installed seen).2
    exact Or.inl ⟨_, seen, expecting.pending number listing pending⟩
  · push Not at installs
    exact Or.inr ⟨contained, installs⟩

/-! ## Boxes that come back -/

/-- A box that neither the store nor a listing on its way knows comes into the pool
only when an item for it is applied. -/
theorem reappears_step {action : Action}
    (expecting : world.Expecting fun listing => ∀ viewed ∈ listing, viewed.id ≠ id)
    (absent : world.store.boxes.get? id = none)
    (contained : (world.step action).1.shelf.pool.contains id = true) :
    (world.shelf.pool.contains id = true ∧
        ∀ event ∈ (world.step action).2, ¬ event.Removes id) ∨
      ∃ item, (world.step action).2 = [.applied item] ∧ item.id = id := by
  have change := world.change action
  generalize (world.step action).1 = next at change contained
  generalize (world.step action).2 = events at change ⊢
  cases change with
  | aside idle alike silent =>
      rw [alike.shelf] at contained
      exact Or.inl ⟨contained, fun event member =>
        event.not_removes_of_aside id (silent event member)⟩
  | @records visit guarded =>
      refine Or.inl ?_
      dsimp only at contained
      have result := Store.recording world.store visit.chosen visit.viewedAt
      generalize world.store.recordView visit.chosen visit.viewedAt = answer
        at result contained ⊢
      cases result with
      | recorded found =>
          have other : visit.chosen ≠ id := by
            rintro rfl
            rw [absent] at found
            cases found
          simp only [Except.map, Shelf.conclude, Shelf.serve, Pool.contains_upsert,
            Bool.or_eq_true, beq_iff_eq, other, false_or] at contained
          exact ⟨contained, by simp [Except.map, Shelf.verdict, Event.Removes]⟩
      | missing gone =>
          simp only [Except.map, Shelf.conclude, Shelf.discard, Pool.contains_erase,
            Bool.and_eq_true, bne_iff_ne] at contained
          exact ⟨contained.1, by
            simp [Except.map, Shelf.verdict, Event.Removes, contained.2]⟩
      | unreachable =>
          exact ⟨contained, by
            simp [Except.map, Shelf.verdict, Event.Removes, Store.outage]⟩
  | leaves guarded leaving silent =>
      exact Or.inl ⟨contained, fun event member =>
        event.not_removes_of_aside id (silent event member)⟩
  | @applies due inFlight item free taken =>
      by_cases asked : item.id = id
      · exact Or.inr ⟨item, rfl, asked⟩
      · simp only [Shelf.apply, Pool.contains_upsert, Bool.or_eq_true, beq_iff_eq, asked,
          false_or] at contained
        exact Or.inl ⟨contained, by simp [Event.Removes]⟩
  | observes waits finished silent =>
      refine Or.inl ⟨contained, fun event member => ?_⟩
      rcases List.mem_cons.1 member with rfl | later
      · exact not_false
      · exact event.not_removes_of_aside id (silent event later)
  | @installs number found listing free arrived =>
      obtain ⟨member, named⟩ := rebuild?_eq_some arrived
      obtain ⟨viewed, inListing, same⟩ := Shelf.contains_rebuilt.1 contained
      exact absurd same
        (expecting.pending number listing ⟨_, member, named, Or.inr rfl⟩ viewed inListing)
  | _ =>
      exact Or.inl ⟨contained, by simp [Event.Removes]⟩

theorem contains_run {actions : List Action}
    (expecting : world.Expecting fun listing => ∃ viewed ∈ listing, viewed.id = id)
    (viewed : world.Throughout
      (fun current => (current.store.lastView? id).isSome = true) actions)
    (contained : world.shelf.pool.contains id = true) :
    (world.run actions).1.shelf.pool.contains id = true :=
  (run_invariant
    (fun current action viewedNow (holds : current.Expecting
          (fun listing => ∃ viewed ∈ listing, viewed.id = id) ∧
        current.shelf.pool.contains id = true) =>
      ⟨expecting_step action
          (fun _ => Store.exists_listed_of_viewed holds.1.filed viewedNow) holds.1,
        contains_step holds.1 viewedNow holds.2⟩)
    viewed.along ⟨expecting, contained⟩).2

theorem reappears_run {actions : List Action}
    (expecting : world.Expecting fun listing => ∀ viewed ∈ listing, viewed.id ≠ id)
    (absent : world.Throughout
      (fun current => current.store.boxes.get? id = none) actions)
    (contained : (world.run actions).1.shelf.pool.contains id = true) :
    (world.shelf.pool.contains id = true ∧
        ∀ event ∈ (world.run actions).2, ¬ event.Removes id) ∨
      ∃ earlier item later, (world.run actions).2 = earlier ++ .applied item :: later ∧
        item.id = id ∧ ∀ event ∈ later, ¬ event.Removes id := by
  induction actions generalizing world with
  | nil =>
      exact Or.inl ⟨contained, fun _ member => absurd member List.not_mem_nil⟩
  | cons action rest inductionHypothesis =>
      rw [run_cons] at contained ⊢
      have expectingNext := expecting_step action
        (fun _ => Store.not_listed_of_absent expecting.filed absent.first) expecting
      rcases inductionHypothesis expectingNext absent.2 contained with
        ⟨containedNext, kept⟩ | ⟨earlier, item, later, split, sameId, kept⟩
      · rcases reappears_step expecting absent.first containedNext with
          ⟨containedBefore, keptBefore⟩ | ⟨item, applied, sameId⟩
        · refine Or.inl ⟨containedBefore, fun event member => ?_⟩
          rcases List.mem_append.1 member with inStep | inRest
          · exact keptBefore event inStep
          · exact kept event inRest
        · exact Or.inr ⟨[], item, _, by rw [applied]; rfl, sameId, kept⟩
      · exact Or.inr ⟨(world.step action).2 ++ earlier, item, later,
          by simp [split], sameId, kept⟩

/-- A rebuild heals the pool for good. Suppose that it makes its listing and later
installs it. A box that the store has with a view from the listing on is in the pool
from the installation on. A box that the store does not know from the listing on is
in the pool only after an item for it was applied later than the installation, and
then only until a listing is installed or the store says that the box is missing. -/
theorem rebuild_heals (settings : QueueSettings) (writes : List StoreWrite)
    (clock : Moment) (before between after : List Action) (number : Nat)
    (listing : List ViewedBox) :
    let listed := ((start settings (Store.ofWrites writes) clock).run before).1
    let arrived := (listed.run (.list number :: between)).1
    let healed := (arrived.step (.install number)).1
    (listed.step (.list number)).2 = [.listed number (.ok listing)] →
    (arrived.step (.install number)).2 = [.installed number listing] →
    (∀ id, listed.Throughout (fun world => (world.store.lastView? id).isSome = true)
        (.list number :: between ++ .install number :: after) →
      (healed.run after).1.shelf.pool.contains id = true) ∧
    ∀ id, listed.Throughout (fun world => world.store.boxes.get? id = none)
        (.list number :: between ++ .install number :: after) →
      (healed.run after).1.shelf.pool.contains id = true →
      ∃ earlier item later, (healed.run after).2 = earlier ++ .applied item :: later ∧
        item.id = id ∧ ∀ event ∈ later, ¬ event.Removes id := by
  intro listed arrived healed made installed
  have filed : listed.store.Filed :=
    run_invariant_of_all filed_step before (Store.filed_ofWrites writes)
  have sole : listed.Sole := run_invariant_of_all sole_step before (sole_start ..)
  obtain ⟨swapped, found, there⟩ := arrived_of_installed installed
  obtain ⟨member, named⟩ := rebuild?_eq_some there
  have known : arrived.Pending number listing := ⟨_, member, named, Or.inr rfl⟩
  refine ⟨fun id viewed => ?_, fun id absent contained => ?_⟩
  · obtain ⟨viewedBefore, viewedAfter⟩ := throughout_append.1 viewed
    have expecting : arrived.Expecting fun listing =>
        ∃ viewed ∈ listing, viewed.id = id :=
      expecting_run
        (fun _ filed viewed _ => Store.exists_listed_of_viewed filed viewed)
        filed sole made viewedBefore
    have contained : healed.shelf.pool.contains id = true := by
      rw [swapped]
      exact Shelf.contains_rebuilt.2 (expecting.pending number listing known)
    exact contains_run
      (expecting_step _
        (fun _ => Store.exists_listed_of_viewed expecting.filed viewedAfter.first)
        expecting)
      viewedAfter.2 contained
  · obtain ⟨absentBefore, absentAfter⟩ := throughout_append.1 absent
    have expecting : arrived.Expecting fun listing =>
        ∀ viewed ∈ listing, viewed.id ≠ id :=
      expecting_run (fun _ filed absent _ => Store.not_listed_of_absent filed absent)
        filed sole made absentBefore
    have healedExpecting : healed.Expecting fun listing =>
        ∀ viewed ∈ listing, viewed.id ≠ id :=
      expecting_step _
        (fun _ => Store.not_listed_of_absent expecting.filed absentAfter.first) expecting
    rcases reappears_run healedExpecting absentAfter.2 contained with
      ⟨kept, _⟩ | reappeared
    · rw [swapped] at kept
      obtain ⟨viewed, inListing, same⟩ := Shelf.contains_rebuilt.1 kept
      exact absurd same (expecting.pending number listing known viewed inListing)
    · exact reappeared

/-- After the installation the queue is ready, and an item for another box is applied. -/
def lateItem : List Action :=
  [.announce 0, .submit ⟨"b", 7⟩, .take, .apply, .call 0, .enter 0 0, .record 0]

theorem rebuild_heals_lateItem :
    let listed := ((start .standard
      (Store.ofWrites [.insert (MessageBox.create "a" "" Moment.epoch)])
      Moment.epoch).run [.spawn, .fireTimer]).1
    let arrived := (listed.run (.list 0 :: [.receive 0])).1
    let healed := (arrived.step (.install 0)).1
    (listed.step (.list 0)).2 = [.listed 0 (.ok [⟨"a", Moment.epoch⟩])] ∧
      (arrived.step (.install 0)).2 = [.installed 0 [⟨"a", Moment.epoch⟩]] ∧
      (healed.run lateItem).1.shelf.pool.contains "a" = true ∧
      ∃ earlier item later, (healed.run lateItem).2 = earlier ++ .applied item :: later ∧
        item.id = "b" ∧ ∀ event ∈ later, ¬ event.Removes "b" := by
  intro listed arrived healed
  have made : (listed.step (.list 0)).2 = [.listed 0 (.ok [⟨"a", Moment.epoch⟩])] := rfl
  have installed : (arrived.step (.install 0)).2 =
      [.installed 0 [⟨"a", Moment.epoch⟩]] := rfl
  obtain ⟨stays, comesBack⟩ :=
    rebuild_heals .standard [.insert (MessageBox.create "a" "" Moment.epoch)] Moment.epoch
      [.spawn, .fireTimer] [.receive 0] lateItem 0 [⟨"a", Moment.epoch⟩] made installed
  refine ⟨made, installed, stays "a" ?_, comesBack "b" ?_ ?_⟩
  · exact ⟨rfl, rfl, rfl, rfl, rfl, rfl, rfl, rfl, rfl, rfl, rfl⟩
  · exact ⟨rfl, rfl, rfl, rfl, rfl, rfl, rfl, rfl, rfl, rfl, rfl⟩
  · decide +kernel

end World

end StalestFirst
