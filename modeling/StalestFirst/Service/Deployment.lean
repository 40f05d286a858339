import StalestFirst.Queue.World
import StalestFirst.Service.Parts

namespace StalestFirst

/-! ## Services over a queue of their own

The queue service and the box service run over one queue and its store. Requests
are numbered; a request that waits for a box is the call of the same number. -/

/-- What a request that has been read waits for. -/
inductive Errand where
  | draw
  | drawToView
  | readBox (id : String)
  | readReactions (id : String)

structure Pending where
  number : Nat
  method : String
  metadata : Metadata
  errand : Errand

/-- The queue with its store, the requests that have not been answered, and the
items of new boxes of which the queue has not been told. -/
structure Deployment where
  world : World
  pending : List Pending
  announcements : List Item

/-- One step of the services or below them.

A request arrives, with the identifier that a box made for it would get; it reads
back from the store; it is cut off for taking too long; or its sender goes away.
The queue is told of a new box, whichever of those it has not been told of. All other
steps are those of the queue. -/
inductive Move where
  | arrive (number : Nat) (service : Service) (request : Http.Request)
      (freshId : String)
  | readBack (number : Nat)
  | cutOff (number : Nat)
  | leave (number : Nat)
  | announce (position : Nat)
  | queue (action : Action)

inductive Notice where
  | replied (number : Nat) (response : Http.Response)
  | queue (event : Event)

namespace Deployment

/-- The services over a queue that is not asked anything. -/
def ofWorld (world : World) : Deployment := ⟨world, [], []⟩

def pending? (deployment : Deployment) (number : Nat) : Option Pending :=
  deployment.pending.find? fun request => request.number == number

def without (deployment : Deployment) (number : Nat) : Deployment :=
  { deployment with
    pending := deployment.pending.filter fun request => request.number != number }

/-- The deployment with a pending request that waits for something else. -/
def await (deployment : Deployment) (request : Pending) (errand : Errand) :
    Deployment :=
  let rest := deployment.without request.number
  { rest with pending := rest.pending ++ [{ request with errand }] }

def answer {α : Type} [Wire α] (deployment : Deployment) (request : Pending)
    (outcome : Except Failure α) : Deployment × List Notice :=
  (deployment.without request.number,
    [.replied request.number
      ((Reply.ofOutcome request.metadata outcome).forMethod request.method)])

/-- Goes on with a request to which the queue has given a box, or none. -/
def absorbAnswer (deployment : Deployment) (call : Nat)
    (result : Except Fault String) : Deployment × List Notice :=
  match deployment.pending? call with
  | none => (deployment, [])
  | some request =>
      match request.errand, result with
      | .draw, .ok id => deployment.answer request (.ok (Drawn.mk id))
      | .draw, .error fault =>
          deployment.answer request
            (.error (.fault fault) : Except Failure Drawn)
      | .drawToView, .ok id => (deployment.await request (.readBox id), [])
      | .drawToView, .error fault =>
          deployment.answer request
            (.error (.client (.queue fault)) : Except Failure MessageBox)
      | _, _ => (deployment, [])

/-- Goes on with what was seen of the queue. -/
def absorb (deployment : Deployment) : List Event → Deployment × List Notice
  | [] => (deployment, [])
  | event :: rest =>
      let (next, notices) :=
        match event with
        | .answered call result => deployment.absorbAnswer call result
        | _ => (deployment, [])
      let (last, later) := next.absorb rest
      (last, .queue event :: (notices ++ later))

def stepQueue (deployment : Deployment) (action : Action) :
    Deployment × List Notice :=
  let (world, events) := deployment.world.step action
  { deployment with world }.absorb events

def beginQueueOrder (deployment : Deployment) (request : Pending) :
    QueueOrder → Deployment × List Notice
  | .accept item =>
      let (next, notices) := deployment.stepQueue (.submit item)
      let (last, later) := next.answer request (.ok Accepted.mk)
      (last, notices ++ later)
  | .draw =>
      (deployment.await request .draw).stepQueue (.call request.number)

def beginBoxOrder (deployment : Deployment) (request : Pending)
    (freshId : String) : BoxOrder → Deployment × List Notice
  | .create draft =>
      let world := deployment.world
      match BoxService.create world.store draft freshId world.clock with
      | .error failure =>
          deployment.answer request
            (.error failure : Except Failure MessageBox)
      | .ok (store, box) =>
          let world := { world with store }
          let told := { deployment with
            world := (world.step .cloneHandle).1
            announcements := deployment.announcements ++
              [BoxService.announcement freshId world.clock] }
          told.answer request (.ok box)
  | .react reactions =>
      match BoxService.addReactions deployment.world.store reactions with
      | .error failure =>
          deployment.answer request
            (.error failure : Except Failure Reactions)
      | .ok store =>
          ({ deployment with world := { deployment.world with store } }.await
            request (.readReactions reactions.id), [])
  | .view =>
      (deployment.await request .drawToView).stepQueue (.call request.number)

def health (deployment : Deployment) : Health :=
  Health.standard.withQueue deployment.world.ready

/-- Whether a request or a call has a number. -/
def isTaken (deployment : Deployment) (number : Nat) : Bool :=
  (deployment.pending? number).isSome || deployment.world.calling number

/-- A request arrives. One that fails a check is answered at once. -/
def meet (deployment : Deployment) (number : Nat) (service : Service)
    (request : Http.Request) (freshId : String) : Deployment × List Notice :=
  let reply (response : Http.Response) : Deployment × List Notice :=
    (deployment, [.replied number (response.forMethod request.method)])
  match service with
  | .telemetry => reply (Reply.ofHealth deployment.health request)
  | .queue =>
      match Reply.beforehand? request with
      | some response => reply response
      | none =>
          match QueueOrder.ofRequest request with
          | ⟨metadata, .error fault⟩ => reply (Reply.ofFault metadata fault)
          | ⟨metadata, .ok order⟩ =>
              deployment.beginQueueOrder
                ⟨number, request.method, metadata, .draw⟩ order
  | .box =>
      match Reply.beforehand? request with
      | some response => reply response
      | none =>
          match BoxOrder.ofRequest request with
          | ⟨metadata, .error fault⟩ => reply (Reply.ofFault metadata fault)
          | ⟨metadata, .ok order⟩ =>
              deployment.beginBoxOrder
                ⟨number, request.method, metadata, .drawToView⟩ freshId order

/-- A request arrives under a number that is free. -/
def stepArrive (deployment : Deployment) (number : Nat) (service : Service)
    (request : Http.Request) (freshId : String) : Deployment × List Notice :=
  if deployment.isTaken number then (deployment, [])
  else deployment.meet number service request freshId

/-- A request reads back from the store what it answers. -/
def stepReadBack (deployment : Deployment) (number : Nat) :
    Deployment × List Notice :=
  match deployment.pending? number with
  | none => (deployment, [])
  | some request =>
      match request.errand with
      | .readBox id =>
          deployment.answer request
            (BoxService.readBox deployment.world.store id)
      | .readReactions id =>
          deployment.answer request
            (BoxService.readReactions deployment.world.store id)
      | _ => (deployment, [])

/-- The deployment without a pending request and without its retrieval. -/
def abandon (deployment : Deployment) (number : Nat) : Deployment :=
  { deployment.without number with
    world := (deployment.world.step (.abandon number)).1 }

def stepCutOff (deployment : Deployment) (number : Nat) :
    Deployment × List Notice :=
  match deployment.pending? number with
  | none => (deployment, [])
  | some request =>
      (deployment.abandon number,
        [.replied number (Reply.cutOff.forMethod request.method)])

def stepLeave (deployment : Deployment) (number : Nat) :
    Deployment × List Notice :=
  match deployment.pending? number with
  | none => (deployment, [])
  | some _ => (deployment.abandon number, [])

def stepAnnounce (deployment : Deployment) (position : Nat) :
    Deployment × List Notice :=
  match deployment.announcements[position]? with
  | none => (deployment, [])
  | some item =>
      let rest := deployment.announcements.eraseIdx position
      let (next, notices) :=
        { deployment with announcements := rest }.stepQueue (.submit item)
      let (last, later) := next.stepQueue .dropHandle
      (last, notices ++ later)

def step (deployment : Deployment) : Move → Deployment × List Notice
  | .arrive number service request freshId =>
      deployment.stepArrive number service request freshId
  | .readBack number => deployment.stepReadBack number
  | .cutOff number => deployment.stepCutOff number
  | .leave number => deployment.stepLeave number
  | .announce position => deployment.stepAnnounce position
  | .queue action => deployment.stepQueue action

def run (deployment : Deployment) : List Move → Deployment × List Notice
  | [] => (deployment, [])
  | move :: rest =>
      let (next, notices) := deployment.step move
      let (last, later) := next.run rest
      (last, notices ++ later)

end Deployment

end StalestFirst
