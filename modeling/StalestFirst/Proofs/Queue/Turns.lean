import Mathlib
import StalestFirst.Proofs.Queue.Ledger
import StalestFirst.Proofs.Queue.Rebuilds

namespace StalestFirst

/-! ## Who gets the shelf

A step may get its party the shelf, and a step may end a retrieval that has it. -/

/-- Whether a step ends the retrieval of a call: the view is recorded, or the call
is given up. -/
def Action.ends (call : Nat) : Action → Bool
  | .record other | .expire other | .abandon other => other == call
  | _ => false

/-- Whether the first of the steps that ends the retrieval of a call records the
view. -/
def Action.recordsFirst (call : Nat) (actions : List Action) : Bool :=
  match actions.find? (Action.ends call) with
  | some (.record _) => true
  | _ => false

/-- The answer to a call that got the shelf. Those that did not are told that the
queue is not ready or that their time is up. -/
def Event.verdict? : Event → Option (Nat × Except Fault String)
  | .answered _ (.error .notReady) | .answered _ (.error .timeout) => none
  | .answered call result => some (call, result)
  | _ => none

namespace World

/-- The turn that a step begins, if it gets its party the shelf. -/
def begins (world : World) : Action → Option ShelfTurn
  | .enter call number =>
      if world.waiting.contains call && world.visit.isNone then
        some (.retrieve call number world.clock)
      else none
  | .apply =>
      match world.visit, world.loop with
      | none, .running _ _ (some item) => some (.apply item)
      | _, _ => none
  | .install number =>
      match world.visit, world.rebuild? number with
      | none, some ⟨_, .arrived _⟩ => some (.install number)
      | _, _ => none
  | _ => none

/-- All turns that begin in a run, in the order in which the shelf is got. -/
def beginnings (world : World) : List Action → List ShelfTurn
  | [] => []
  | action :: rest =>
      (world.begins action).toList ++ (world.step action).1.beginnings rest

/-- Whether nobody guards the shelf, or the retrieval that does has its view
recorded in the steps to come. -/
def concludes (world : World) (actions : List Action) : Bool :=
  match world.visit with
  | none => true
  | some visit => Action.recordsFirst visit.call actions

/-- The turns of a run in the order in which the shelf is got, without those of
retrievals that are given up before their view is recorded, or still wait for it
in the end. -/
def turns (world : World) : List Action → List ShelfTurn
  | [] => []
  | action :: rest =>
      let next := (world.step action).1
      ((world.begins action).filter fun _ => next.concludes rest).toList ++
        next.turns rest

/-- What a step enters into the ledger, when `held` is the turn of the retrieval
that guards the shelf. A turn is entered when it is over: that of a retrieval that
has chosen a box when the view is recorded, and any other at once. -/
def entries (world : World) (held : Option ShelfTurn) : Action → List Entry
  | .record call =>
      if world.visit.any fun visit => visit.call == call then
        held.toList.map .turn
      else []
  | .list number =>
      match world.rebuild? number with
      | some ⟨_, .begun⟩ => [.list number]
      | _ => []
  | .write write => [.write write]
  | action =>
      if (world.step action).1.visit.isNone then
        (world.begins action).toList.map .turn
      else []

/-- What a run enters into the ledger. -/
def history (world : World) (held : Option ShelfTurn) : List Action → List Entry
  | [] => []
  | action :: rest =>
      world.entries held action ++
        (world.step action).1.history (world.begins action <|> held) rest

/-! ## Steps that get the shelf -/

theorem begins_enter {world : World} {call : Nat}
    (waits : world.waiting.contains call = true) (free : world.visit = none)
    (number : Nat) :
    world.begins (.enter call number) =
      some (.retrieve call number world.clock) := by
  simp only [begins, waits, free, Option.isNone_none, Bool.and_self, if_true]

theorem begins_apply {world : World} {due : Nat} {inFlight : Option Nat} {item : Item}
    (free : world.visit = none)
    (taken : world.loop = .running due inFlight (some item)) :
    world.begins .apply = some (.apply item) := by
  simp only [begins, free, taken]

theorem begins_install {world : World} {number found : Nat}
    {listing : List ViewedBox} (free : world.visit = none)
    (arrived : world.rebuild? number = some ⟨found, .arrived listing⟩) :
    world.begins (.install number) = some (.install number) := by
  simp only [begins, free, arrived]

/-- A turn that is over at once is entered at once. -/
theorem entries_of_whole {world : World} {action : Action} {turn : ShelfTurn}
    (begun : world.begins action = some turn)
    (free : (world.step action).1.visit = none) (held : Option ShelfTurn) :
    world.entries held action = [.turn turn] := by
  cases action with
  | enter call number =>
      simp [entries, begun, free]
  | apply =>
      simp [entries, begun, free]
  | install number =>
      simp [entries, begun, free]
  | _ =>
      cases begun

/-- The turn of a retrieval that has chosen a box is not entered yet. -/
theorem entries_of_guarded {world : World} {action : Action} {turn : ShelfTurn}
    {visit : Visit} (begun : world.begins action = some turn)
    (guarded : (world.step action).1.visit = some visit) (held : Option ShelfTurn) :
    world.entries held action = [] := by
  cases action with
  | enter call number =>
      simp [entries, guarded]
  | apply =>
      simp [entries, guarded]
  | install number =>
      simp [entries, guarded]
  | _ =>
      cases begun

/-! ## Steps that are idle -/

theorem begins_of_idle {world : World} {action : Action}
    (idle : world.Idle action) : world.begins action = none := by
  cases action with
  | enter call number =>
      rcases idle with away | guarded
      · simp only [begins, away, Bool.false_and, Bool.false_eq_true, if_false]
      · have taken : world.visit.isNone = false := by
          simpa using guarded
        simp only [begins, taken, Bool.and_false, Bool.false_eq_true, if_false]
  | apply =>
      simp only [begins]
      split
      · rename_i due inFlight item free taken
        rcases idle with guarded | otherwise
        · simp [free] at guarded
        · exact absurd taken (otherwise due inFlight item)
      · rfl
  | install number =>
      simp only [begins]
      split
      · rename_i found listing free arrived
        rcases idle with guarded | otherwise
        · simp [free] at guarded
        · exact absurd arrived (otherwise found listing)
      · rfl
  | _ =>
      rfl

theorem entries_of_idle {world : World} {action : Action}
    (idle : world.Idle action) (held : Option ShelfTurn) :
    world.entries held action = [] := by
  have turnless := begins_of_idle idle
  cases action with
  | record call =>
      have elsewhere : (world.visit.any fun visit => visit.call == call) = false := by
        cases guarded : world.visit with
        | none =>
            rfl
        | some visit =>
            simpa using idle visit guarded
      simp only [entries, elsewhere, Bool.false_eq_true, if_false]
  | list number =>
      simp only [entries]
      split
      · rename_i found begun
        exact absurd begun (idle found)
      · rfl
  | write write =>
      exact idle.elim
  | _ =>
      simp [entries, turnless]

/-- Giving a call up neither begins nor enters a turn. -/
theorem turnless_of_leaving (world : World) {call : Nat} {action : Action}
    (leaving : action = .expire call ∨ action = .abandon call)
    (held : Option ShelfTurn) :
    world.begins action = none ∧ world.entries held action = [] := by
  rcases leaving with rfl | rfl
  · exact ⟨rfl, by simp [entries, begins]⟩
  · exact ⟨rfl, by simp [entries, begins]⟩

/-- The end of a rebuild neither begins nor enters a turn, and ends no retrieval. -/
theorem turnless_of_finish {world : World} {number : Nat} {action : Action}
    {outcome : Outcome} {ready : Bool} (finish : world.Finish number action outcome ready)
    (held : Option ShelfTurn) :
    world.begins action = none ∧ world.entries held action = [] ∧
      ∀ call, action.ends call = false := by
  cases finish with
  | panics begun =>
      exact ⟨rfl, by simp [entries, begins], fun _ => rfl⟩
  | fails listed =>
      exact ⟨rfl, by simp [entries, begins], fun _ => rfl⟩
  | announces swapped =>
      exact ⟨rfl, by simp [entries, begins], fun _ => rfl⟩

theorem ends_of_idle {world : World} {action : Action} (idle : world.Idle action)
    {visit : Visit} (guarded : world.visit = some visit) :
    action.ends visit.call = false := by
  cases action with
  | record call =>
      simpa [Action.ends] using (idle visit guarded).symm
  | expire call =>
      simpa [Action.ends] using (idle visit guarded).symm
  | abandon call =>
      simpa [Action.ends] using (idle visit guarded).symm
  | _ =>
      rfl

end World

end StalestFirst
