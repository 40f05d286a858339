import StalestFirst.Item
import StalestFirst.Moment.Basic
import StalestFirst.NameMap

namespace StalestFirst

/-! ## Reactions -/

/-- How often each emoji was given to a box. -/
abbrev Tallies := NameMap UInt64

def saturatingSum (left right : UInt64) : UInt64 :=
  UInt64.ofNat (min (left.toNat + right.toNat) 18446744073709551615)

namespace Tallies

/-- The tallies with one emoji given `count` times more. An emoji is named from
then on even if the count is zero. -/
def give (tallies : Tallies) (emoji : String) (count : UInt64) : Tallies :=
  tallies.insert emoji (saturatingSum ((tallies.get? emoji).getD 0) count)

def add (tallies increments : Tallies) : Tallies :=
  increments.entries.foldl
    (fun tallies entry => tallies.give entry.1 entry.2) tallies

end Tallies

/-! ## Boxes -/

structure MessageBox where
  id : String
  createdAt : Option Moment
  body : String
  reactions : Tallies
  lastViewed : Option Moment
  deriving DecidableEq

namespace MessageBox

/-- A box made at a moment. Its making counts as its first view, so that it can
be served at once. -/
def create (id body : String) (now : Moment) : MessageBox where
  id := id
  createdAt := some now
  body := body
  reactions := NameMap.empty
  lastViewed := some now

instance : Inhabited MessageBox := ⟨⟨"", none, "", NameMap.empty, none⟩⟩

end MessageBox

/-- A box that has been viewed, with the moment of its last view. -/
structure ViewedBox where
  id : String
  lastViewed : Moment
  deriving DecidableEq

/-- The item of a viewed box: its score is that of its last view. -/
def ViewedBox.item (viewed : ViewedBox) : Item :=
  ⟨viewed.id, viewed.lastViewed.score⟩

end StalestFirst
