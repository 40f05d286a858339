import StalestFirst.Queue.World

namespace StalestFirst

/-! ## One turn after another

A ledger is a queue in which nothing overlaps. Whoever gets the shelf finishes at
once what he wants with it, and only then somebody else can get it. -/

/-- A turn at the shelf. A retrieval brings the number it draws with and the moment
at which it has looked at the clock. -/
inductive ShelfTurn where
  | retrieve (call number : Nat) (viewedAt : Moment)
  | apply (item : Item)
  | install (rebuild : Nat)
  deriving DecidableEq

/-- An entry of a ledger: a turn at the shelf, or something that happens to the
store beside it. -/
inductive Entry where
  | turn (turn : ShelfTurn)
  | list (rebuild : Nat)
  | write (write : StoreWrite)

/-- The turn of an entry, if it is one. -/
def Entry.turn? : Entry → Option ShelfTurn
  | .turn taken => some taken
  | _ => none

/-- The store, the shelf, and the listing that each rebuild has got. -/
structure Ledger where
  store : Store
  shelf : Shelf
  listings : Nat → List ViewedBox

namespace Ledger

/-- The ledger over a store, before the first entry. -/
def start (store : Store) : Ledger := ⟨store, .empty, fun _ => []⟩

/-- A whole retrieval in one turn: a box is chosen, its view is recorded, and its
score is renewed. A box that the store does not know is taken from the shelf. Every
other fault leaves all as it was. -/
def retrieve (window : Window) (ledger : Ledger) (number : Nat) (viewedAt : Moment) :
    Ledger × Except Fault String :=
  match ledger.shelf.draw window number with
  | none => (ledger, .error .emptyPool)
  | some chosen =>
      match ledger.store.recordView chosen viewedAt with
      | .ok store =>
          ({ ledger with store, shelf := ledger.shelf.serve chosen viewedAt },
            .ok chosen)
      | .error (.boxNotFound _) =>
          ({ ledger with shelf := ledger.shelf.discard chosen },
            .error (.boxNotFound chosen))
      | .error fault => (ledger, .error fault)

/-- The ledger after an entry, and which call was answered, and how. -/
def enter (window : Window) (ledger : Ledger) :
    Entry → Ledger × List (Nat × Except Fault String)
  | .turn (.retrieve call number viewedAt) =>
      let (next, result) := ledger.retrieve window number viewedAt
      (next, [(call, result)])
  | .turn (.apply item) =>
      ({ ledger with shelf := ledger.shelf.apply item }, [])
  | .turn (.install rebuild) =>
      ({ ledger with shelf := ledger.shelf.install (ledger.listings rebuild) }, [])
  | .list rebuild =>
      match ledger.store.listing with
      | .ok listing =>
          ({ ledger with
              listings := fun other =>
                if other = rebuild then listing else ledger.listings other }, [])
      | .error _ => (ledger, [])
  | .write write => ({ ledger with store := write.apply ledger.store }, [])

/-- The ledger after a row of entries, and all answers in their order. -/
def run (window : Window) (ledger : Ledger) :
    List Entry → Ledger × List (Nat × Except Fault String)
  | [] => (ledger, [])
  | entry :: rest =>
      let (next, answers) := ledger.enter window entry
      let (last, later) := next.run window rest
      (last, answers ++ later)

theorem run_append (window : Window) (ledger : Ledger) (first second : List Entry) :
    ledger.run window (first ++ second) =
      (((ledger.run window first).1.run window second).1,
        (ledger.run window first).2 ++
          ((ledger.run window first).1.run window second).2) := by
  induction first generalizing ledger with
  | nil =>
      rfl
  | cons entry rest inductionHypothesis =>
      simp only [List.cons_append, run, inductionHypothesis, List.append_assoc]

theorem run_singleton (window : Window) (ledger : Ledger) (entry : Entry) :
    ledger.run window [entry] = ledger.enter window entry := by
  simp [run]

end Ledger

end StalestFirst
