import Mathlib
import StalestFirst.Proofs.Queue.Loop
import StalestFirst.Proofs.Queue.Rebuilds

namespace StalestFirst

/-! ## How a rebuild goes on

A rebuild goes from stage to stage. Once the store has made its listing, or failed to,
it is settled whether the rebuild will install anything. -/

namespace Stage

/-- The rebuild has ended without installing anything, or has nothing to install. -/
def fails : Stage → Bool
  | .listed (.error _) | .ended (.failed _) | .ended .panicked => true
  | _ => false

/-- The rebuild has a listing, or has had one. -/
def succeeds : Stage → Bool
  | .listed (.ok _) | .arrived _ | .swapped _ | .ended (.installed _) => true
  | _ => false

theorem fails_eq_false {stage : Stage} (succeeds : stage.succeeds = true) :
    stage.fails = false := by
  cases stage with
  | begun =>
      cases succeeds
  | listed result =>
      cases result with
      | error fault =>
          cases succeeds
      | ok listing =>
          rfl
  | arrived listing =>
      rfl
  | swapped count =>
      rfl
  | ended outcome =>
      cases outcome with
      | installed count =>
          rfl
      | failed fault =>
          cases succeeds
      | panicked =>
          cases succeeds

end Stage

namespace World

variable {world : World} {futile : Nat → Bool}

/-- From which stage to which a rebuild goes in one step, and what is seen of it. -/
inductive Advance (world : World) (number : Nat) : Stage → Stage → List Event → Prop where
  | lists :
      Advance world number .begun (.listed world.store.listing)
        [.listed number world.store.listing]
  | panics :
      Advance world number .begun (.ended .panicked) []
  | receives {listing : List ViewedBox} :
      Advance world number (.listed (.ok listing)) (.arrived listing) []
  | fails {fault : Fault} :
      Advance world number (.listed (.error fault)) (.ended (.failed fault)) []
  | installs {listing : List ViewedBox} :
      Advance world number (.arrived listing)
        (.swapped (world.shelf.install listing).pool.size) [.installed number listing]
  | announces {count : Nat} :
      Advance world number (.swapped count) (.ended (.installed count)) []

theorem Advance.fails_of_fails {number : Nat} {stage next : Stage} {events : List Event}
    (advance : world.Advance number stage next events) (fails : stage.fails = true) :
    next.fails = true := by
  cases advance with
  | fails =>
      rfl
  | _ =>
      cases fails

theorem Advance.succeeds_of_succeeds {number : Nat} {stage next : Stage}
    {events : List Event} (advance : world.Advance number stage next events)
    (succeeds : stage.succeeds = true) : next.succeeds = true := by
  cases advance with
  | lists =>
      cases succeeds
  | panics =>
      cases succeeds
  | fails =>
      cases succeeds
  | _ =>
      rfl

theorem Sole.eq_of_mem (sole : world.Sole) {rebuild other : Rebuild}
    (member : rebuild ∈ world.rebuilds) (otherMember : other ∈ world.rebuilds) :
    rebuild = other := by
  have bound := sole.atMostOne
  match shape : world.rebuilds with
  | [] =>
      rw [shape] at member
      cases member
  | [only] =>
      rw [shape, List.mem_singleton] at member otherMember
      rw [member, otherMember]
  | first :: second :: rest =>
      rw [shape] at bound
      simp at bound

/-- The rebuilds after a step that takes one of them to another stage. -/
theorem Sole.of_mem_setStage (sole : world.Sole) {number found : Nat} {stage next : Stage}
    (present : world.rebuild? number = some ⟨found, stage⟩) {rebuild : Rebuild}
    (member : rebuild ∈ (world.setStage number next).rebuilds) :
    rebuild = ⟨number, next⟩ ∧ ⟨number, stage⟩ ∈ world.rebuilds := by
  obtain ⟨original, named⟩ := rebuild?_eq_some present
  simp only at named
  subst named
  rw [World.setStage, sole.rebuilds_eq present, List.map_singleton, List.mem_singleton,
    if_pos rfl] at member
  exact ⟨member, original⟩

/-- A rebuild that is there after a step was there before, at the same stage or at the
stage it has come from, or has just been started. -/
theorem rebuild_step (sole : world.Sole) {action : Action} {rebuild : Rebuild}
    (member : rebuild ∈ (world.step action).1.rebuilds) :
    rebuild ∈ world.rebuilds ∨
      (rebuild = ⟨world.started, .begun⟩ ∧
        (world.step action).1.started = world.started + 1) ∨
      ∃ earlier ∈ world.rebuilds, earlier.number = rebuild.number ∧
        world.Advance rebuild.number earlier.stage rebuild.stage
          (world.step action).2 := by
  have change := world.change action
  generalize (world.step action).1 = next at change member ⊢
  generalize (world.step action).2 = events at change ⊢
  cases change with
  | aside idle alike silent =>
      rw [alike.rebuilds] at member
      exact Or.inl member
  | starts resting =>
      rcases List.mem_append.1 member with before | fresh
      · exact Or.inl before
      · exact Or.inr (Or.inl ⟨List.mem_singleton.1 fresh, rfl⟩)
  | observes waits finished silent =>
      exact Or.inl (List.mem_filter.1 member).1
  | lists begun =>
      obtain ⟨rfl, original⟩ := sole.of_mem_setStage begun member
      exact Or.inr (Or.inr ⟨_, original, rfl, .lists⟩)
  | receives listed =>
      obtain ⟨rfl, original⟩ := sole.of_mem_setStage listed member
      exact Or.inr (Or.inr ⟨_, original, rfl, .receives⟩)
  | finishes ready finish =>
      cases finish with
      | panics begun =>
          obtain ⟨rfl, original⟩ := sole.of_mem_setStage begun member
          exact Or.inr (Or.inr ⟨_, original, rfl, .panics⟩)
      | fails listed =>
          obtain ⟨rfl, original⟩ := sole.of_mem_setStage listed member
          exact Or.inr (Or.inr ⟨_, original, rfl, .fails⟩)
      | announces swapped =>
          obtain ⟨rfl, original⟩ := sole.of_mem_setStage swapped member
          exact Or.inr (Or.inr ⟨_, original, rfl, .announces⟩)
  | installs free arrived =>
      obtain ⟨rfl, original⟩ := sole.of_mem_setStage arrived member
      exact Or.inr (Or.inr ⟨_, original, rfl, .installs⟩)
  | _ =>
      exact Or.inl member

/-- What the loop observes is how the rebuild ended. -/
theorem ended_of_observed {action : Action} {number time : Nat} {outcome : Outcome}
    (observed : .observed number outcome time ∈ (world.step action).2) :
    ⟨number, .ended outcome⟩ ∈ world.rebuilds := by
  have motion := world.motion action
  generalize (world.step action).1 = next at motion
  generalize (world.step action).2 = events at motion observed
  have ended {found : Nat} (finished : world.rebuild? number = some ⟨found, .ended outcome⟩) :
      (⟨number, .ended outcome⟩ : Rebuild) ∈ world.rebuilds := by
    obtain ⟨member, named⟩ := rebuild?_eq_some finished
    simp only at named
    rw [← named]
    exact member
  cases motion with
  | beside same silent =>
      cases silent _ observed
  | observes waits finished within =>
      cases List.mem_singleton.1 observed
      exact ended finished
  | overflows waits finished beyond =>
      rcases List.mem_cons.1 observed with same | later
      · cases same
        exact ended finished
      · cases List.mem_singleton.1 later
  | _ =>
      simp at observed

/-! ### Numbers -/

/-- The rebuilds at work have been started. -/
def Numbered (world : World) : Prop :=
  ∀ rebuild ∈ world.rebuilds, rebuild.number < world.started

theorem started_le_step (world : World) (action : Action) :
    world.started ≤ (world.step action).1.started := by
  have motion := world.motion action
  generalize (world.step action).1 = next at motion ⊢
  generalize (world.step action).2 = events at motion
  cases motion with
  | beside same silent =>
      exact Nat.le_of_eq same.started.symm
  | starts resting reached =>
      exact Nat.le_succ world.started
  | _ =>
      exact Nat.le_refl world.started

theorem numbered_step (sole : world.Sole) (numbered : world.Numbered) (action : Action) :
    (world.step action).1.Numbered := by
  intro rebuild member
  rcases rebuild_step sole member with
    before | ⟨fresh, counted⟩ | ⟨earlier, before, same, _⟩
  · exact Nat.lt_of_lt_of_le (numbered rebuild before) (world.started_le_step action)
  · rw [fresh, counted]
    exact Nat.lt_succ_self world.started
  · rw [← same]
    exact Nat.lt_of_lt_of_le (numbered earlier before) (world.started_le_step action)

theorem numbered_start (settings : QueueSettings) (store : Store) (clock : Moment) :
    (start settings store clock).Numbered := by
  intro rebuild member
  cases member

/-! ### Rebuilds that fail -/

/-- The rebuild with this number has failed. -/
def doomed (world : World) (number : Nat) : Bool :=
  world.rebuilds.any fun rebuild => rebuild.number == number && rebuild.stage.fails

/-- The rebuild with this number fails somewhere in a run. -/
def comesToNothing (world : World) (number : Nat) : List Action → Bool
  | [] => world.doomed number
  | action :: rest =>
      world.doomed number || (world.step action).1.comesToNothing number rest

theorem doomed_eq_true_iff {number : Nat} :
    world.doomed number = true ↔
      ∃ rebuild ∈ world.rebuilds, rebuild.number = number ∧ rebuild.stage.fails = true := by
  simp only [doomed, List.any_eq_true, Bool.and_eq_true, beq_iff_eq]

theorem comesToNothing_of_doomed {number : Nat} (doomed : world.doomed number = true)
    (actions : List Action) : world.comesToNothing number actions = true := by
  cases actions with
  | nil =>
      exact doomed
  | cons action rest =>
      rw [comesToNothing, doomed, Bool.true_or]

theorem comesToNothing_append {number : Nat} {earlier later : List Action}
    (fails : (world.run earlier).1.comesToNothing number later = true) :
    world.comesToNothing number (earlier ++ later) = true := by
  induction earlier generalizing world with
  | nil =>
      exact fails
  | cons action rest inductionHypothesis =>
      have inRest : (world.step action).1.comesToNothing number (rest ++ later) = true :=
        inductionHypothesis fails
      rw [List.cons_append, comesToNothing, inRest, Bool.or_true]

/-- A rebuild that has been started and has not failed by the time its listing is there
does not fail any more. -/
theorem comesToNothing_of_succeeds (sole : world.Sole) (numbered : world.Numbered)
    {number : Nat} (counted : number < world.started)
    (succeeds : ∀ rebuild ∈ world.rebuilds, rebuild.number = number →
      rebuild.stage.succeeds = true) (actions : List Action) :
    world.comesToNothing number actions = false := by
  have notDoomed : ∀ world : World, (∀ rebuild ∈ world.rebuilds, rebuild.number = number →
      rebuild.stage.succeeds = true) → world.doomed number = false := by
    intro world succeeds
    rw [← Bool.not_eq_true, doomed_eq_true_iff]
    rintro ⟨rebuild, member, named, fails⟩
    rw [Stage.fails_eq_false (succeeds rebuild member named)] at fails
    cases fails
  induction actions generalizing world with
  | nil =>
      exact notDoomed world succeeds
  | cons action rest inductionHypothesis =>
      rw [comesToNothing, notDoomed world succeeds, Bool.false_or]
      apply inductionHypothesis (sole_step world action sole) (numbered_step sole numbered action)
        (Nat.lt_of_lt_of_le counted (world.started_le_step action))
      intro rebuild member named
      rcases rebuild_step sole member with
        before | ⟨fresh, _⟩ | ⟨earlier, before, same, advance⟩
      · exact succeeds rebuild before named
      · rw [fresh] at named
        exact absurd named (Nat.ne_of_gt counted)
      · exact advance.succeeds_of_succeeds (succeeds earlier before (same.trans named))

/-- Each of the rebuilds that are at work or still to come fails in a run if it is one of
the given numbers. -/
def Foreseen (futile : Nat → Bool) (world : World) (actions : List Action) : Prop :=
  ∀ number, futile number = true →
    (world.started ≤ number ∨ ∃ rebuild ∈ world.rebuilds, rebuild.number = number) →
      world.comesToNothing number actions = true

theorem foreseen_of_comesToNothing (world : World) (actions : List Action) :
    Foreseen (fun number => world.comesToNothing number actions) world actions :=
  fun _ isFutile _ => isFutile

theorem Foreseen.step {action : Action} {rest : List Action}
    (foreseen : Foreseen futile world (action :: rest)) (sole : world.Sole)
    (numbered : world.Numbered) : Foreseen futile (world.step action).1 rest := by
  intro number isFutile ahead
  have aheadBefore : world.started ≤ number ∨
      ∃ rebuild ∈ world.rebuilds, rebuild.number = number := by
    rcases ahead with later | ⟨rebuild, member, named⟩
    · exact Or.inl ((world.started_le_step action).trans later)
    · rcases rebuild_step sole member with before | ⟨fresh, _⟩ | ⟨earlier, before, same, _⟩
      · exact Or.inr ⟨rebuild, before, named⟩
      · rw [fresh] at named
        exact Or.inl (Nat.le_of_eq named)
      · exact Or.inr ⟨earlier, before, same.trans named⟩
  have fails := foreseen number isFutile aheadBefore
  rw [comesToNothing, Bool.or_eq_true] at fails
  rcases fails with already | later
  · -- What has failed stays so, as long as the loop has not observed it.
    obtain ⟨rebuild, member, named, fails⟩ := doomed_eq_true_iff.1 already
    have started : number < world.started := by
      rw [← named]
      exact numbered rebuild member
    rcases ahead with unstarted | ⟨next, nextMember, nextNamed⟩
    · have counted := world.started_le_step action
      omega
    · apply comesToNothing_of_doomed
      refine doomed_eq_true_iff.2 ⟨next, nextMember, nextNamed, ?_⟩
      rcases rebuild_step sole nextMember with
        before | ⟨fresh, _⟩ | ⟨earlier, before, _, advance⟩
      · rw [sole.eq_of_mem before member]
        exact fails
      · rw [fresh] at nextNamed
        exact absurd nextNamed (Nat.ne_of_gt started)
      · rw [sole.eq_of_mem before member] at advance
        exact advance.fails_of_fails fails
  · exact later

/-- What is foreseen at the start of a run is foreseen all along it. -/
theorem Foreseen.run {earlier later : List Action}
    (foreseen : Foreseen futile world (earlier ++ later)) (sole : world.Sole)
    (numbered : world.Numbered) :
    Foreseen futile (world.run earlier).1 later ∧ (world.run earlier).1.Sole ∧
      (world.run earlier).1.Numbered := by
  induction earlier generalizing world with
  | nil =>
      exact ⟨foreseen, sole, numbered⟩
  | cons action rest inductionHypothesis =>
      exact inductionHypothesis (foreseen.step sole numbered) (sole_step world action sole)
        (numbered_step sole numbered action)

/-- A rebuild that comes to nothing never has a listing. -/
theorem Foreseen.not_succeeds {actions : List Action}
    (foreseen : Foreseen futile world actions) (sole : world.Sole)
    (numbered : world.Numbered) {rebuild : Rebuild} (member : rebuild ∈ world.rebuilds)
    (isFutile : futile rebuild.number = true) : rebuild.stage.succeeds = false := by
  rw [← Bool.not_eq_true]
  intro succeeds
  have fails := foreseen rebuild.number isFutile (Or.inr ⟨rebuild, member, rfl⟩)
  have lasts := comesToNothing_of_succeeds sole numbered (numbered rebuild member)
    (fun other otherMember _ => by
      rw [sole.eq_of_mem otherMember member]
      exact succeeds) actions
  rw [lasts] at fails
  cases fails

end World

end StalestFirst
