import Mathlib
import StalestFirst.Proofs.Queue.Healing

namespace StalestFirst

namespace Store

variable {store : Store} {id : String}

theorem isSome_lastView?_put {other : String} {stored : StoredBox}
    (viewed : (store.lastView? id).isSome = true)
    (stays : other = id → stored.box.lastViewed.isSome = true) :
    ((store.put other stored).lastView? id).isSome = true := by
  rw [lastView?_put]
  split
  · rename_i same
    exact stays same
  · exact viewed

theorem stays_viewed_write {write : StoreWrite} (undeleted : write ≠ .delete id)
    (viewed : (store.lastView? id).isSome = true) :
    ((write.apply store).lastView? id).isSome = true := by
  have change := store.written write
  generalize write.apply store = next at change ⊢
  cases change with
  | refused =>
      exact viewed
  | @inserted box online absent =>
      refine isSome_lastView?_put viewed fun same => ?_
      -- The identifier of a new box is free.
      simp [lastView?, ← same, absent] at viewed
  | deleted other =>
      have different : other ≠ id := fun same => undeleted (same ▸ rfl)
      simpa [lastView?, different] using viewed
  | viewed found =>
      exact isSome_lastView?_put viewed fun _ => rfl
  | @reacted other _ stored found =>
      refine isSome_lastView?_put viewed fun same => ?_
      simpa [lastView?, ← same, found] using viewed
  | switched offline =>
      exact viewed

end Store

namespace World

/-! ## Listings that are stale

A listing that was made before a box may be installed after the box came into the
pool. -/

variable {world : World} {id : String}

/-- A box that was viewed stays so until it is deleted. -/
theorem stays_viewed_step {action : Action} (undeleted : action ≠ .write (.delete id))
    (viewed : (world.store.lastView? id).isSome = true) :
    ((world.step action).1.store.lastView? id).isSome = true := by
  have effect := world.effect action
  generalize (world.step action).1.store = store at effect ⊢
  generalize served (world.step action).2 = servings at effect
  cases effect with
  | none =>
      exact viewed
  | serves guarded found =>
      exact Store.isSome_lastView?_put viewed fun _ => rfl
  | writes write =>
      exact Store.stays_viewed_write (fun same => undeleted (same ▸ rfl)) viewed

/-- The store has the box with a view, and each listing on its way names the box or is
an old one. -/
structure Awaiting (id : String) (old : Nat → List ViewedBox → Prop) (world : World) :
    Prop where
  filed : world.store.Filed
  viewed : (world.store.lastView? id).isSome = true
  pending : ∀ number listing, world.Pending number listing →
    (∃ viewed ∈ listing, viewed.id = id) ∨ old number listing

variable {old : Nat → List ViewedBox → Prop}

theorem awaiting_step {action : Action} (undeleted : action ≠ .write (.delete id))
    (awaiting : world.Awaiting id old) : (world.step action).1.Awaiting id old where
  filed := filed_step world action awaiting.filed
  viewed := stays_viewed_step undeleted awaiting.viewed
  pending number listing pendingNext := by
    rcases pending_step pendingNext with earlier | ⟨_, made⟩
    · exact awaiting.pending number listing earlier
    · exact Or.inl (Store.exists_listed_of_viewed awaiting.filed awaiting.viewed made)

theorem awaiting_run {actions : List Action} (undeleted : .write (.delete id) ∉ actions)
    (awaiting : world.Awaiting id old) : (world.run actions).1.Awaiting id old := by
  induction actions generalizing world with
  | nil =>
      exact awaiting
  | cons action rest inductionHypothesis =>
      have first : action ≠ .write (.delete id) :=
        fun same => undeleted (same ▸ List.mem_cons_self)
      exact inductionHypothesis
        (fun member => undeleted (List.mem_cons_of_mem action member))
        (awaiting_step first awaiting)

/-- An old listing without the box is installed, and nothing admits the box
afterwards. -/
def TakenOut (id : String) (old : Nat → List ViewedBox → Prop) (events : List Event) :
    Prop :=
  ∃ front number listing back, events = front ++ .installed number listing :: back ∧
    old number listing ∧ (∀ viewed ∈ listing, viewed.id ≠ id) ∧
    ∀ event ∈ back, ¬ event.Admits id

theorem TakenOut.prepend {events : List Event} (takenOut : TakenOut id old events)
    (earlier : List Event) : TakenOut id old (earlier ++ events) := by
  obtain ⟨front, number, listing, back, rfl, rest⟩ := takenOut
  exact ⟨earlier ++ front, number, listing, back, (List.append_assoc ..).symm, rest⟩

/-- A box that is awaited is missing from the pool after a step and what follows, if
and only if it was taken out later, or was missing and is not admitted. -/
theorem takenOut_step_iff {action : Action} {later : List Event}
    (awaiting : world.Awaiting id old) :
    (TakenOut id old later ∨
        ((world.step action).1.shelf.pool.contains id ≠ true ∧
          ∀ event ∈ later, ¬ event.Admits id)) ↔
      (TakenOut id old ((world.step action).2 ++ later) ∨
        (world.shelf.pool.contains id ≠ true ∧
          ∀ event ∈ (world.step action).2 ++ later, ¬ event.Admits id)) := by
  rw [ne_eq, contains_step_iff awaiting.viewed]
  constructor
  · rintro (takenOut | ⟨missing, unadmitted⟩)
    · exact Or.inl (takenOut.prepend _)
    · obtain ⟨silent, installs⟩ := not_or.1 missing
      by_cases contained : world.shelf.pool.contains id = true
      · have installed : ∃ number listing,
            .installed number listing ∈ (world.step action).2 := by
          by_contra none
          push Not at none
          exact installs ⟨contained, none⟩
        obtain ⟨number, listing, seen⟩ := installed
        obtain ⟨only, pending⟩ := pending_of_installed seen
        have unlisted : ¬ ∃ viewed ∈ listing, viewed.id = id :=
          fun listed => silent ⟨_, seen, listed⟩
        have isOld := (awaiting.pending number listing pending).resolve_left unlisted
        refine Or.inl ⟨[], number, listing, later, by rw [only]; rfl, isOld, ?_, unadmitted⟩
        exact fun viewed inListing same => unlisted ⟨viewed, inListing, same⟩
      · refine Or.inr ⟨contained, fun event seen => ?_⟩
        rcases List.mem_append.1 seen with inStep | inLater
        · exact fun admits => silent ⟨event, inStep, admits⟩
        · exact unadmitted event inLater
  · rintro (⟨front, number, listing, back, split, isOld, unlisted, unadmitted⟩ |
      ⟨missing, unadmitted⟩)
    · rcases List.append_eq_append_iff.1 split with
        ⟨between, _, same⟩ | ⟨suffix, same, shared⟩
      · exact Or.inl ⟨between, number, listing, back, same, isOld, unlisted, unadmitted⟩
      · cases suffix with
        | nil =>
            exact Or.inl ⟨[], number, listing, back, shared.symm, isOld, unlisted,
              unadmitted⟩
        | cons event others =>
            -- The step itself installs the listing.
            cases shared
            have seen : .installed number listing ∈ (world.step action).2 := by
              simp [same]
            obtain ⟨only, _⟩ := pending_of_installed seen
            refine Or.inr ⟨?_, fun event inLater =>
              unadmitted event (List.mem_append_right others inLater)⟩
            rintro (⟨event, inStep, admits⟩ | ⟨_, quiet⟩)
            · rw [only, List.mem_singleton] at inStep
              subst inStep
              obtain ⟨viewed, inListing, named⟩ := admits
              exact unlisted viewed inListing named
            · exact quiet number listing seen
    · refine Or.inr ⟨?_, fun event inLater =>
        unadmitted event (List.mem_append_right _ inLater)⟩
      rintro (⟨event, inStep, admits⟩ | ⟨contained, _⟩)
      · exact unadmitted event (List.mem_append_left later inStep) admits
      · exact missing contained

/-- A box that is awaited is missing from the pool after a run if and only if it was
taken out, or was missing and is not admitted. -/
theorem not_contains_run_iff {actions : List Action}
    (undeleted : .write (.delete id) ∉ actions) (awaiting : world.Awaiting id old) :
    (world.run actions).1.shelf.pool.contains id ≠ true ↔
      TakenOut id old (world.run actions).2 ∨
      (world.shelf.pool.contains id ≠ true ∧
        ∀ event ∈ (world.run actions).2, ¬ event.Admits id) := by
  induction actions generalizing world with
  | nil =>
      rw [run_nil]
      constructor
      · exact fun missing => Or.inr ⟨missing, fun _ seen => absurd seen List.not_mem_nil⟩
      · rintro (⟨front, number, listing, back, split, _⟩ | ⟨missing, _⟩)
        · simp at split
        · exact missing
  | cons action rest inductionHypothesis =>
      have first : action ≠ .write (.delete id) :=
        fun same => undeleted (same ▸ List.mem_cons_self)
      have later : .write (.delete id) ∉ rest :=
        fun member => undeleted (List.mem_cons_of_mem action member)
      rw [run_cons]
      exact (inductionHypothesis later (awaiting_step first awaiting)).trans
        (takenOut_step_iff awaiting)

end World

end StalestFirst
