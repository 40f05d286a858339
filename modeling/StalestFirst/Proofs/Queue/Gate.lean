import Mathlib
import StalestFirst.Proofs.Queue.Callers
import StalestFirst.Proofs.Queue.Items
import StalestFirst.Proofs.Queue.Rebuilds

namespace StalestFirst

/-! ## The gate

The queue opens when a rebuild has installed its listing and announces it. Nothing gets
in before, and the queue stays open. -/

/-- Some rebuild has installed its listing. -/
def Event.Installed (seen : List Event) : Prop :=
  ∃ number listing, .installed number listing ∈ seen

namespace World

variable {world : World} {seen : List Event}

/-- A rebuild has installed its listing and not announced it yet. -/
def Swapped (world : World) : Prop :=
  ∃ rebuild ∈ world.rebuilds, ∃ count, rebuild.stage = .swapped count

/-- No item and no retrieval is under way, and no box was ever served. -/
structure Untouched (world : World) : Prop where
  noItems : world.items = []
  noneWait : world.waiting = []
  free : world.visit = none
  noneServed : world.shelf.lastServed = none

/-! ### How it opens -/

/-- The queue stays ready, and gets ready when a rebuild announces what it installed. -/
theorem ready_step_iff {action : Action} :
    (world.step action).1.ready = true ↔ world.ready = true ∨
      ∃ number found count, action = .announce number ∧
        world.rebuild? number = some ⟨found, .swapped count⟩ := by
  have change := world.change action
  generalize (world.step action).1 = next at change ⊢
  generalize (world.step action).2 = events at change
  cases change with
  | aside idle alike silent =>
      rw [alike.ready]
      refine ⟨Or.inl, fun opens => opens.resolve_right ?_⟩
      rintro ⟨number, found, count, rfl, swapped⟩
      exact idle found count swapped
  | leaves guarded leaving silent =>
      rcases leaving with rfl | rfl
      · simp [withoutCall]
      · simp [withoutCall]
  | finishes ready finish =>
      cases finish with
      | panics begun =>
          simp [setStage]
      | fails listed =>
          simp [setStage]
      | announces swapped =>
          exact iff_of_true rfl (Or.inr ⟨_, _, _, rfl, swapped⟩)
  | _ =>
      simp [setStage, withoutCall]

theorem mem_setStage {number : Nat} {stage : Stage} {rebuild : Rebuild}
    (member : rebuild ∈ (world.setStage number stage).rebuilds) :
    rebuild ∈ world.rebuilds ∨ rebuild.stage = stage := by
  obtain ⟨original, present, rfl⟩ := List.mem_map.1 member
  split
  · exact Or.inr rfl
  · exact Or.inl present

theorem swapped_of_setStage {number : Nat} {stage : Stage}
    (other : ∀ count, stage ≠ .swapped count)
    (swapped : (world.setStage number stage).Swapped) : world.Swapped := by
  obtain ⟨rebuild, member, count, same⟩ := swapped
  rcases mem_setStage member with before | moved
  · exact ⟨rebuild, before, count, same⟩
  · exact absurd (moved.symm.trans same) (other count)

/-- Only an install brings a rebuild to the point where it announces. -/
theorem swapped_of_step {action : Action} (swapped : (world.step action).1.Swapped) :
    world.Swapped ∨ Event.Installed (world.step action).2 := by
  have change := world.change action
  generalize (world.step action).1 = next at change swapped
  generalize (world.step action).2 = events at change ⊢
  cases change with
  | aside idle alike silent =>
      rw [Swapped, alike.rebuilds] at swapped
      exact Or.inl swapped
  | starts resting =>
      obtain ⟨rebuild, member, count, same⟩ := swapped
      rcases List.mem_append.1 member with before | fresh
      · exact Or.inl ⟨rebuild, before, count, same⟩
      · rw [List.mem_singleton.1 fresh] at same
        cases same
  | observes waits finished silent =>
      obtain ⟨rebuild, member, count, same⟩ := swapped
      exact Or.inl ⟨rebuild, (List.mem_filter.1 member).1, count, same⟩
  | lists begun =>
      exact Or.inl (swapped_of_setStage (by simp) swapped)
  | receives listed =>
      exact Or.inl (swapped_of_setStage (by simp) swapped)
  | finishes ready finish =>
      exact Or.inl (swapped_of_setStage (by simp) swapped)
  | installs free arrived =>
      exact Or.inr ⟨_, _, List.mem_singleton_self _⟩
  | _ =>
      exact Or.inl swapped

theorem Sole.not_swapped (sole : world.Sole) {number found : Nat} {stage : Stage}
    (present : world.rebuild? number = some ⟨found, stage⟩)
    (other : ∀ count, stage ≠ .swapped count) : ¬ world.Swapped := by
  rintro ⟨rebuild, member, count, same⟩
  rw [sole.rebuilds_eq present, List.mem_singleton] at member
  rw [member] at same
  exact other count same

/-- What was installed is announced before the rebuild does anything else. -/
theorem swapped_step (sole : world.Sole) (swapped : world.Swapped) (action : Action) :
    (world.step action).1.ready = true ∨ (world.step action).1.Swapped := by
  have excluded {number found : Nat} {stage : Stage}
      (present : world.rebuild? number = some ⟨found, stage⟩)
      (other : ∀ count, stage ≠ .swapped count) {conclusion : Prop} : conclusion :=
    absurd swapped (sole.not_swapped present other)
  have change := world.change action
  generalize (world.step action).1 = next at change ⊢
  generalize (world.step action).2 = events at change
  cases change with
  | aside idle alike silent =>
      rw [Swapped, alike.rebuilds]
      exact Or.inr swapped
  | starts resting =>
      obtain ⟨rebuild, member, stage⟩ := swapped
      exact Or.inr ⟨rebuild, List.mem_append_left _ member, stage⟩
  | observes waits finished silent =>
      exact excluded finished (by simp)
  | lists begun =>
      exact excluded begun (by simp)
  | receives listed =>
      exact excluded listed (by simp)
  | finishes ready finish =>
      cases finish with
      | panics begun =>
          exact excluded begun (by simp)
      | fails listed =>
          exact excluded listed (by simp)
      | announces swapped =>
          exact Or.inl rfl
  | installs free arrived =>
      exact excluded arrived (by simp)
  | _ =>
      exact Or.inr swapped

/-! ### Nothing gets in before -/

theorem noneAccepted_of_closed (closed : world.ready = false) (action : Action) :
    (world.step action).2.filterMap Event.accepted? = [] := by
  have motion := world.motion action
  generalize (world.step action).1 = next at motion
  generalize (world.step action).2 = events at motion ⊢
  cases motion with
  | beside same silent =>
      exact accepted_of_besideLoop silent
  | accepts ready receiving room =>
      rw [closed] at ready
      cases ready
  | _ =>
      rfl

/-- Where no retrieval and no item is under way, only an install changes the shelf. -/
theorem shelf_step_of_untouched (untouched : world.Untouched) (action : Action) :
    (world.step action).1.shelf = world.shelf ∨
      ∃ number listing, (world.step action).2 = [.installed number listing] ∧
        (world.step action).1.shelf = world.shelf.install listing := by
  have change := world.change action
  generalize (world.step action).1 = next at change ⊢
  generalize (world.step action).2 = events at change ⊢
  cases change with
  | aside idle alike silent =>
      exact Or.inl alike.shelf
  | records guarded =>
      rw [untouched.free] at guarded
      cases guarded
  | applies free taken =>
      exact absurd untouched.noItems (items_ne_nil_of_taken taken)
  | installs free arrived =>
      exact Or.inr ⟨_, _, rfl, rfl⟩
  | _ =>
      exact Or.inl rfl

theorem untouched_step (closed : world.ready = false) (untouched : world.Untouched)
    (action : Action) : (world.step action).1.Untouched := by
  obtain ⟨noneWait, free⟩ :=
    noneCalling_step untouched.noneWait untouched.free (Or.inr closed) action
  refine ⟨?_, noneWait, free, ?_⟩
  · rcases world.conveys_step action with ⟨_, lost⟩ | kept
    · exact lost
    · rw [untouched.noItems, noneAccepted_of_closed closed] at kept
      exact (List.append_eq_nil_iff.1 kept.symm).2
  · rcases shelf_step_of_untouched untouched action with same | ⟨number, listing, _, install⟩
    · rw [same]
      exact untouched.noneServed
    · rw [install]
      exact untouched.noneServed

/-! ### The gate over a run -/

/-- What is known of the gate from what was seen. -/
structure Gated (world : World) (seen : List Event) : Prop where
  earlier : world.ready = true ∨ world.Swapped → Event.Installed seen
  opens : Event.Installed seen → world.ready = true ∨ world.Swapped
  empty : ¬ Event.Installed seen → world.shelf.pool = .empty
  untouched : world.ready = false → world.Untouched

theorem installed_append {first second : List Event} :
    Event.Installed (first ++ second) ↔ Event.Installed first ∨ Event.Installed second := by
  simp only [Event.Installed, List.mem_append, exists_or]

theorem swapped_of_installed {action : Action}
    (installed : Event.Installed (world.step action).2) : (world.step action).1.Swapped := by
  obtain ⟨number, listing, member⟩ := installed
  have change := world.change action
  generalize (world.step action).1 = next at change ⊢
  generalize (world.step action).2 = events at change member
  cases change with
  | aside idle alike silent =>
      cases silent _ member
  | leaves guarded leaving silent =>
      cases silent _ member
  | observes waits finished silent =>
      rcases List.mem_cons.1 member with same | later
      · cases same
      · cases silent _ later
  | installs free arrived =>
      obtain ⟨present, named⟩ := rebuild?_eq_some arrived
      exact ⟨_, List.mem_map_of_mem present, _, by rw [if_pos named]⟩
  | _ =>
      simp at member

theorem gated_step (action : Action) (sole : world.Sole) (gated : world.Gated seen) :
    (world.step action).1.Gated (seen ++ (world.step action).2) where
  earlier := by
    rw [installed_append]
    rintro (ready | swapped)
    · rcases ready_step_iff.1 ready with before | ⟨number, found, count, rfl, swapped⟩
      · exact Or.inl (gated.earlier (Or.inl before))
      · exact Or.inl (gated.earlier (Or.inr ⟨_, (rebuild?_eq_some swapped).1, count, rfl⟩))
    · rcases swapped_of_step swapped with before | now
      · exact Or.inl (gated.earlier (Or.inr before))
      · exact Or.inr now
  opens := by
    rw [installed_append]
    rintro (before | now)
    · rcases gated.opens before with ready | swapped
      · exact Or.inl (ready_step_iff.2 (Or.inl ready))
      · exact swapped_step sole swapped action
    · exact Or.inr (swapped_of_installed now)
  empty := by
    rw [installed_append, not_or]
    rintro ⟨notBefore, notNow⟩
    have closed : world.ready = false := by
      rw [← Bool.not_eq_true]
      exact fun ready => notBefore (gated.earlier (Or.inl ready))
    rcases shelf_step_of_untouched (gated.untouched closed) action with
      same | ⟨number, listing, installs, _⟩
    · rw [same]
      exact gated.empty notBefore
    · refine absurd ⟨number, listing, ?_⟩ notNow
      rw [installs]
      exact List.mem_singleton_self _
  untouched closed := by
    have closedBefore : world.ready = false := by
      rw [← Bool.not_eq_true] at closed ⊢
      exact fun ready => closed (ready_step_iff.2 (Or.inl ready))
    exact untouched_step closedBefore (gated.untouched closedBefore) action

theorem gated_run (settings : QueueSettings) (store : Store) (clock : Moment)
    (actions : List Action) :
    ((start settings store clock).run actions).1.Gated
      ((start settings store clock).run actions).2 := by
  have start : (start settings store clock).Sole ∧ (start settings store clock).Gated [] := by
    refine ⟨sole_start settings store clock, ?_, ?_, fun _ => rfl, fun _ => ⟨rfl, rfl, rfl, rfl⟩⟩
    · rintro (ready | ⟨rebuild, member, _⟩)
      · cases ready
      · cases member
    · rintro ⟨number, listing, member⟩
      cases member
  have kept (world : World) (seen : List Event) (action : Action)
      (both : world.Sole ∧ world.Gated seen) :
      (world.step action).1.Sole ∧
        (world.step action).1.Gated (seen ++ (world.step action).2) :=
    ⟨sole_step world action both.1, gated_step action both.1 both.2⟩
  exact (run_history kept [] actions start).2

theorem ready_run (ready : world.ready = true) (actions : List Action) :
    (world.run actions).1.ready = true :=
  have kept (world : World) (action : Action) (ready : world.ready = true) :
      (world.step action).1.ready = true := ready_step_iff.2 (Or.inl ready)
  run_invariant_of_all kept actions ready

/-! ### A queue that is ready fails no retrieval for not being so -/

theorem notReady_unseen_step (ready : world.ready = true) (action : Action) (call : Nat) :
    .answered call (.error .notReady) ∉ (world.step action).2 := by
  intro seen
  cases answers_of_seen seen with
  | notReady closed =>
      rw [ready] at closed
      cases closed
  | @settled visit _ guarded own told =>
      have result := world.store.recording visit.chosen visit.viewedAt
      generalize world.store.recordView visit.chosen visit.viewedAt = answer at result told
      cases result with
      | recorded found =>
          cases told
      | missing absent =>
          cases told
      | unreachable =>
          cases told

theorem notReady_unseen_run (ready : world.ready = true) (actions : List Action) (call : Nat) :
    .answered call (.error .notReady) ∉ (world.run actions).2 := by
  induction actions generalizing world with
  | nil =>
      exact List.not_mem_nil
  | cons action rest inductionHypothesis =>
      rw [run_cons, List.mem_append, not_or]
      exact ⟨notReady_unseen_step ready action call,
        inductionHypothesis (ready_step_iff.2 (Or.inl ready))⟩

end World

end StalestFirst
