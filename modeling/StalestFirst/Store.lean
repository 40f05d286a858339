import StalestFirst.Box
import StalestFirst.Fault

namespace StalestFirst

/-! ## The store of boxes

The store keeps every box under its identifier, with the moments of its views. -/

/-- A box with its views, the earliest first. -/
structure StoredBox where
  box : MessageBox
  views : List Moment
  deriving DecidableEq

/-- The boxes, and whether the store cannot be reached. -/
structure Store where
  boxes : NameMap StoredBox
  offline : Bool
  deriving DecidableEq

namespace Store

def empty : Store := ⟨NameMap.empty, false⟩

instance : Inhabited Store := ⟨empty⟩

def reach (store : Store) : Except Fault (NameMap StoredBox) :=
  if store.offline then .error (.storeUnavailable "memory store is offline")
  else .ok store.boxes

def find (store : Store) (id : String) : Except Fault StoredBox := do
  match (← store.reach).get? id with
  | some stored => .ok stored
  | none => .error (.boxNotFound id)

def put (store : Store) (id : String) (stored : StoredBox) : Store :=
  { store with boxes := store.boxes.insert id stored }

/-! ## Operations that may fail -/

/-- The store with a new box. A box that has been viewed starts with that view. -/
def insert (store : Store) (box : MessageBox) : Except Fault Store := do
  if (← store.reach).contains box.id then
    .error (.store ("duplicate box id: " ++ box.id))
  else .ok (store.put box.id ⟨box, box.lastViewed.toList⟩)

def recordView (store : Store) (id : String) (now : Moment) :
    Except Fault Store := do
  let stored ← store.find id
  .ok (store.put id
    ⟨{ stored.box with lastViewed := some now }, stored.views ++ [now]⟩)

def react (store : Store) (id : String) (increments : Tallies) :
    Except Fault Store := do
  let stored ← store.find id
  .ok (store.put id
    { stored with
      box := { stored.box with
        reactions := stored.box.reactions.add increments } })

def get (store : Store) (id : String) : Except Fault MessageBox := do
  .ok (← store.find id).box

/-- What the listing says about a box: nothing unless it has been viewed. -/
def StoredBox.viewed? (stored : StoredBox) : Option ViewedBox :=
  stored.box.lastViewed.map fun moment => ⟨stored.box.id, moment⟩

/-- The boxes that have been viewed. -/
def listing (store : Store) : Except Fault (List ViewedBox) := do
  .ok ((← store.reach).entries.filterMap fun entry =>
    StoredBox.viewed? entry.2)

/-! ## Operations that tell nothing of an outage -/

/-- The views of the box `id`, if the store knows it and can be reached. -/
def viewsOf? (store : Store) (id : String) : Option (List Moment) :=
  store.reach.toOption.bind fun boxes => (boxes.get? id).map StoredBox.views

/-- How many boxes can be reached. -/
def size (store : Store) : Nat :=
  (store.reach.toOption.map NameMap.size).getD 0

def isEmpty (store : Store) : Bool := store.size == 0

/-- The store without the box `id`, and whether there was one. -/
def delete (store : Store) (id : String) : Store × Bool :=
  if !store.offline && store.boxes.contains id then
    ({ store with boxes := store.boxes.erase id }, true)
  else (store, false)

def setOffline (store : Store) (offline : Bool) : Store :=
  { store with offline }

end Store

end StalestFirst
