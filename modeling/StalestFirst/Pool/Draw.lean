import StalestFirst.Pool.Basic

namespace StalestFirst

/-! ## Which box is served

The box to serve is drawn from the stalest ones. The one that was served last is
left out while there is another. -/

/-- From how many of the stalest boxes one is drawn. -/
structure Window where
  width : UInt64
  deriving DecidableEq

namespace Window

/-- The window of the given width, or of one box if that is zero. -/
def ofWidth (width : UInt64) : Window := ⟨max width 1⟩

def standard : Window := ofWidth 5

/-- The boxes of a row other than the one served last. -/
def others (recent : Option String) (items : List Item) : List String :=
  (items.map Item.id).filter fun id => some id != recent

/-- The boxes that may be served, stalest first. When the window holds only the
box served last, the next stalest one may be served, and without one the box
served last itself. -/
def eligible (window : Window) (pool : Pool) (recent : Option String) :
    List String :=
  match others recent (pool.stalest window.width.toNat) with
  | [] =>
      match others recent pool.ranking with
      | [] => (pool.at? 0).toList.map Item.id
      | next :: _ => [next]
  | inWindow => inWindow

/-- The box served for a draw: a number that is counted round the eligible boxes.
There is none exactly for the empty pool. -/
def draw (window : Window) (pool : Pool) (recent : Option String)
    (number : Nat) : Option String :=
  let candidates := window.eligible pool recent
  candidates[number % candidates.length]?

end Window

end StalestFirst
