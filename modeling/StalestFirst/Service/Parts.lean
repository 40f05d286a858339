import StalestFirst.Service.Order
import StalestFirst.Service.Reply
import StalestFirst.Store

namespace StalestFirst

/-! ## Parts of the box service

Each order of the box service asks the store one or two things. Between two of
them other requests may come. -/

namespace BoxService

/-- Stores a new box. The queue is told of its item afterwards. -/
def create (store : Store) (draft : BoxDraft) (id : String) (now : Moment) :
    Except Failure (Store × MessageBox) :=
  let box := MessageBox.create id draft.body now
  match store.insert box with
  | .ok next => .ok (next, box)
  | .error fault => .error (.fault fault)

/-- The item of a box made at a moment. -/
def announcement (id : String) (now : Moment) : Item := ⟨id, now.score⟩

/-- Adds reactions. Without any the store is not asked. -/
def addReactions (store : Store) (reactions : Reactions) :
    Except Failure Store :=
  if reactions.tallies.isEmpty then .ok store
  else (store.react reactions.id reactions.tallies).mapError .fault

def readReactions (store : Store) (id : String) : Except Failure Reactions :=
  match store.get id with
  | .ok box => .ok ⟨id, box.reactions⟩
  | .error fault => .error (.fault fault)

def readBox (store : Store) (id : String) : Except Failure MessageBox :=
  (store.get id).mapError .fault

end BoxService

end StalestFirst
