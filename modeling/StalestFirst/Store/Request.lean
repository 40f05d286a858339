import StalestFirst.Store

namespace StalestFirst

/-! ## Requests to the store

What the store is asked, one request after the other, and what it answers. -/

inductive StoreRequest where
  | insert (box : MessageBox)
  | recordView (id : String) (now : Moment)
  | react (id : String) (increments : Tallies)
  | get (id : String)
  | listing
  | viewsOf (id : String)
  | delete (id : String)
  | size
  | isEmpty
  | setOffline (offline : Bool)

inductive StoreAnswer where
  | done (outcome : Except Fault Unit)
  | box (outcome : Except Fault MessageBox)
  | listing (outcome : Except Fault (List ViewedBox))
  | views (views : Option (List Moment))
  | deleted (found : Bool)
  | size (count : Nat)
  | isEmpty (empty : Bool)
  | switched

namespace Store

/-- The store after a change, or as it was if the change has failed. -/
def settle (store : Store) : Except Fault Store → Store × StoreAnswer
  | .ok next => (next, .done (.ok ()))
  | .error fault => (store, .done (.error fault))

def answer (store : Store) : StoreRequest → Store × StoreAnswer
  | .insert box => store.settle (store.insert box)
  | .recordView id now => store.settle (store.recordView id now)
  | .react id increments => store.settle (store.react id increments)
  | .get id => (store, .box (store.get id))
  | .listing => (store, .listing store.listing)
  | .viewsOf id => (store, .views (store.viewsOf? id))
  | .delete id => ((store.delete id).1, .deleted (store.delete id).2)
  | .size => (store, .size store.size)
  | .isEmpty => (store, .isEmpty store.isEmpty)
  | .setOffline offline => (store.setOffline offline, .switched)

def answerAll (store : Store) : List StoreRequest → Store × List StoreAnswer
  | [] => (store, [])
  | request :: rest =>
      let (next, told) := store.answer request
      let (last, later) := next.answerAll rest
      (last, told :: later)

end Store

end StalestFirst
