import StalestFirst.Item
import StalestFirst.NameMap

namespace StalestFirst

/-! ## The roster of a pool

A roster files the score of each box under its identifier and keeps, beside that, the
items in order of rank. Every change is made on both sides. -/

/-- The scores by identifier, and the items by rank. -/
structure Roster where
  scores : NameMap Int64
  order : List Item
  deriving DecidableEq

namespace Roster

/-- The row with `item` at its rank. A row that has the item stays as it is. -/
def place (item : Item) : List Item → List Item
  | [] => [item]
  | head :: rest =>
      if item.Before head then item :: head :: rest
      else if head = item then head :: rest
      else head :: place item rest

def empty : Roster := ⟨NameMap.empty, []⟩

instance : Inhabited Roster := ⟨empty⟩

/-! ## What it tells -/

def get? (roster : Roster) (id : String) : Option Int64 := roster.scores.get? id

def contains (roster : Roster) (id : String) : Bool := roster.scores.contains id

def size (roster : Roster) : Nat := roster.scores.size

def isEmpty (roster : Roster) : Bool := roster.scores.isEmpty

def stalest (roster : Roster) (count : Nat) : List Item := roster.order.take count

def at? (roster : Roster) (position : Nat) : Option Item := roster.order[position]?

/-! ## How it changes -/

/-- The roster in which the box `id` has the score `score`. A box that has it already
is left where it is. -/
def upsert (roster : Roster) (id : String) (score : Int64) : Roster :=
  match roster.scores.get? id with
  | some current =>
      if current = score then roster
      else
        ⟨roster.scores.insert id score,
          place ⟨id, score⟩ (roster.order.erase ⟨id, current⟩)⟩
  | none => ⟨roster.scores.insert id score, place ⟨id, score⟩ roster.order⟩

/-- The roster of a row of items, put in one after the other. -/
def ofList (items : List Item) : Roster :=
  items.foldl (fun roster item => roster.upsert item.id item.score) empty

/-- The roster of a row of items, whatever was on it before. -/
def replaceAll (_ : Roster) (items : List Item) : Roster := ofList items

/-- The roster without the box `id`, and the score the box had. -/
def remove (roster : Roster) (id : String) : Roster × Option Int64 :=
  match roster.scores.get? id with
  | some score =>
      (⟨roster.scores.erase id, roster.order.erase ⟨id, score⟩⟩, some score)
  | none => (roster, none)

/-- The roster with the score of an item, if the roster has its box at a lower one. -/
def raise (roster : Roster) (item : Item) : Roster :=
  match roster.get? item.id with
  | some score =>
      if score < item.score then roster.upsert item.id item.score else roster
  | none => roster

/-- The roster raised to the items of another one, from the stalest on. -/
def keepNewer (roster other : Roster) : Roster := other.order.foldl raise roster

end Roster

end StalestFirst
