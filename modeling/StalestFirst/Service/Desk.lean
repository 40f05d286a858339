import StalestFirst.Service.Link

namespace StalestFirst

/-! ## The box service at its desk

At its desk the box service answers one request after the other, over a link to
its queue. Between requests the queue is told of new boxes and does its own work. -/

/-- The queue with its store, and the items of new boxes of which the queue has
not been told. -/
structure Desk where
  world : World
  announcements : List Item

/-- What comes next: a request, telling the queue of a new box, whichever of those
it has not been told of, or a step of the queue. -/
inductive Turn where
  | request (occasion : Occasion) (request : Http.Request)
  | announce (occasion : Occasion) (position : Nat)
  | queue (action : Action)

namespace Desk

def fulfil (link : Link) (desk : Desk) (occasion : Occasion)
    (metadata : Metadata) : BoxOrder → Desk × Http.Response
  | .create draft =>
      let world := desk.world
      match BoxService.create world.store draft occasion.freshId world.clock with
      | .error failure =>
          (desk, Reply.ofOutcome metadata
            (.error failure : Except Failure MessageBox))
      | .ok (store, box) =>
          ({ world := { world with store }
             announcements := desk.announcements ++
              [BoxService.announcement occasion.freshId world.clock] },
            Reply.ofOutcome metadata (.ok box))
  | .react reactions =>
      match BoxService.addReactions desk.world.store reactions with
      | .error failure =>
          (desk, Reply.ofOutcome metadata
            (.error failure : Except Failure Reactions))
      | .ok store =>
          ({ desk with world := { desk.world with store } },
            Reply.ofOutcome metadata
              (BoxService.readReactions store reactions.id))
  | .view =>
      let (world, result) := link.draw desk.world occasion
      ({ desk with world },
        Reply.ofOutcome metadata
          ((result.mapError Failure.client).bind
            (BoxService.readBox world.store)))

def answer (link : Link) (desk : Desk) (occasion : Occasion)
    (request : Http.Request) : Desk × Http.Response :=
  match Reply.beforehand? request with
  | some response => (desk, response.forMethod request.method)
  | none =>
      match BoxOrder.ofRequest request with
      | ⟨metadata, .error fault⟩ =>
          (desk, (Reply.ofFault metadata fault).forMethod request.method)
      | ⟨metadata, .ok order⟩ =>
          let (next, response) := desk.fulfil link occasion metadata order
          (next, response.forMethod request.method)

/-- Tells the queue of a new box. What the queue says to it is of no
consequence. -/
def announce (link : Link) (desk : Desk) (occasion : Occasion) (position : Nat) :
    Desk :=
  match desk.announcements[position]? with
  | none => desk
  | some item =>
      ⟨(link.accept desk.world occasion item).1,
        desk.announcements.eraseIdx position⟩

/-- Takes a turn, which gives a response if it is a request. -/
def step (link : Link) (desk : Desk) : Turn → Desk × List Http.Response
  | .request occasion request =>
      let (next, response) := desk.answer link occasion request
      (next, [response])
  | .announce occasion position => (desk.announce link occasion position, [])
  | .queue action => ({ desk with world := (desk.world.step action).1 }, [])

def run (link : Link) (desk : Desk) : List Turn → Desk × List Http.Response
  | [] => (desk, [])
  | turn :: rest =>
      let (next, responses) := desk.step link turn
      let (last, later) := next.run link rest
      (last, responses ++ later)

end Desk

end StalestFirst
