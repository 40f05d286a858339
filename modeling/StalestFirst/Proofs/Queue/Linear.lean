import Mathlib
import StalestFirst.Proofs.Queue.Booked
import StalestFirst.Proofs.Queue.Exclusion

namespace StalestFirst.World

/-! ## Retrievals, items and rebuilds are linearizable -/

theorem booked_start (settings : QueueSettings) (store : Store) (clock : Moment) :
    (start settings store clock).Booked none (Ledger.start store) where
  store := rfl
  shelf := rfl
  listings := by
    rintro number listing ⟨rebuild, member, _⟩
    cases member
  chosen := by
    intro visit guarded
    cases guarded

/-- Every run of a queue does what its turns do one after another, in the order in
which they get the shelf. A retrieval counts as one turn at the moment when its view
is recorded, and as none when it is given up before. Meanwhile it has the shelf for
itself, and it never keeps the shelf after it was given up. -/
theorem run_linearizable (settings : QueueSettings) (store : Store) (clock : Moment)
    (actions : List Action) :
    let first := start settings store clock
    let last := (first.run actions).1
    let ledger :=
      (Ledger.start store).run first.window (first.history none actions)
    (last.store = ledger.1.store ∧ last.shelf = ledger.1.shelf ∧
      (first.run actions).2.filterMap Event.verdict? = ledger.2) ∧
    (first.history none actions).filterMap Entry.turn? = first.turns actions ∧
    (∀ visit during, last.visit = some visit →
      (∀ action ∈ during, action.ends visit.call = false) →
      (last.run during).1.visit = some visit ∧
        (last.run during).1.shelf = last.shelf ∧ last.beginnings during = []) ∧
    ∀ visit, last.visit = some visit → ∃ before number after,
      actions = before ++ .enter visit.call number :: after ∧
      (first.run before).1.begins (.enter visit.call number) =
        some (.retrieve visit.call number visit.viewedAt) ∧
      ∀ action ∈ after, action.ends visit.call = false := by
  intro first last ledger
  obtain ⟨_, booked, answers⟩ :=
    kept_run (booked_start settings store clock) actions
  refine ⟨⟨booked.store.symm, booked.shelf.symm, answers.symm⟩, ?_, ?_, ?_⟩
  · have inOrder := turns_history first none actions
    rwa [awaited_of_free rfl, List.nil_append] at inOrder
  · intro visit during guarded goesOn
    exact guarded_run guarded goesOn
  · intro visit guarded
    exact guards_after_run rfl guarded

end StalestFirst.World
