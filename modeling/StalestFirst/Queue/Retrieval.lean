import StalestFirst.Queue.World

namespace StalestFirst

/-! ## Retrievals without interruption -/

/-- How a call ended, among what was seen. -/
def Event.answerTo? (call : Nat) : List Event → Option (Except Fault String)
  | [] => none
  | .answered other result :: rest =>
      if other = call then some result else answerTo? call rest
  | _ :: rest => answerTo? call rest

/-- A retrieval from its call to its end, with nothing in between. It times out
if somebody guards the shelf. -/
def World.retrieve (world : World) (call drawNumber : Nat) :
    World × Except Fault String :=
  let (next, events) := world.run
    [.call call, .enter call drawNumber, .record call, .expire call]
  (next, (Event.answerTo? call events).getD (.error .timeout))

end StalestFirst
