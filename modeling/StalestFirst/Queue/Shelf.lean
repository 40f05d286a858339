import StalestFirst.Box
import StalestFirst.Fault
import StalestFirst.Pool.Draw

namespace StalestFirst

/-! ## The shelf

The shelf is what the queue guards: the pool and the box served last. One party at
a time may change it. -/

/-- The pool, and the box that was served last. -/
structure Shelf where
  pool : Pool
  lastServed : Option String
  deriving DecidableEq

namespace Shelf

def empty : Shelf := ⟨Pool.empty, none⟩

instance : Inhabited Shelf := ⟨empty⟩

def eligible (shelf : Shelf) (window : Window) : List String :=
  window.eligible shelf.pool shelf.lastServed

def draw (shelf : Shelf) (window : Window) (number : Nat) : Option String :=
  window.draw shelf.pool shelf.lastServed number

/-- The shelf after the view of a served box has been recorded. -/
def serve (shelf : Shelf) (id : String) (viewedAt : Moment) : Shelf :=
  ⟨shelf.pool.upsert id viewedAt.score, some id⟩

/-- The shelf without a box that turned out to be gone. -/
def discard (shelf : Shelf) (id : String) : Shelf :=
  { shelf with pool := shelf.pool.erase id }

/-- The shelf after the store has said what became of the view of the chosen box.
Only a recorded view and a missing box change it. -/
def conclude (shelf : Shelf) (id : String) (viewedAt : Moment) :
    Except Fault Unit → Shelf
  | .ok _ => shelf.serve id viewedAt
  | .error (.boxNotFound _) => shelf.discard id
  | .error _ => shelf

/-- What the caller is told after the store has said what became of the view of
the chosen box. -/
def verdict (id : String) : Except Fault Unit → Except Fault String
  | .ok _ => .ok id
  | .error (.boxNotFound _) => .error (.boxNotFound id)
  | .error fault => .error fault

def apply (shelf : Shelf) (item : Item) : Shelf :=
  { shelf with pool := shelf.pool.upsert item.id item.score }

/-- The pool that a listing stands for, with no score lower than in another
pool. -/
def rebuilt (listing : List ViewedBox) (live : Pool) : Pool :=
  (Pool.ofList (listing.map ViewedBox.item)).keepNewer live

def install (shelf : Shelf) (listing : List ViewedBox) : Shelf :=
  { shelf with pool := rebuilt listing shelf.pool }

end Shelf

end StalestFirst
