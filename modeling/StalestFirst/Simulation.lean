import StalestFirst.Service.Deployment

namespace StalestFirst

/-! ## Simulation

A simulation runs a deployment on time that passes only when nothing else can
happen. Whoever waits for the shelf gets it in the order of asking. The store can
be made to keep view writes and listings waiting. -/

/-- Whether operations of a kind are kept waiting, and how many may still pass. -/
structure Gate where
  closed : Bool
  permits : Nat

namespace Gate

def standard : Gate := ⟨false, 0⟩

/-- The gate after an operation that has waited, if one may pass. -/
def release? (gate : Gate) : Option Gate :=
  if gate.permits = 0 then none
  else some { gate with permits := gate.permits - 1 }

/-- The gate after an operation that comes to it, unless it must wait. -/
def enter? (gate : Gate) : Option Gate :=
  if gate.closed then gate.release? else some gate

end Gate

inductive Party where
  | call (number : Nat)
  | rebuild (number : Nat)
  | loop
  deriving DecidableEq

/-- How a call ended: with a box or a fault, or with a response. -/
inductive Finish where
  | served (result : Except Fault String)
  | replied (response : Http.Response)

/-- A call under way or ended: its number, whether it is a request, the number it
draws with, when it expires and when it is cut off, and once they are known the
boxes it may choose from and how it ended. -/
structure Watch where
  number : Nat
  isRequest : Bool
  drawNumber : Nat
  expiresAt : Option Nat
  cutOffAt : Option Nat
  eligible : Option (List String)
  finish : Option Finish

structure Simulation where
  http : HttpSettings
  freshId : Nat → String
  deployment : Deployment
  line : List Party
  viewGate : Gate
  listGate : Gate
  panicking : Bool
  atStore : Option Nat
  views : Nat
  lists : Nat
  watches : List Watch
  created : Nat

namespace Simulation

def start (http : HttpSettings) (freshId : Nat → String) (world : World) :
    Simulation where
  http := http
  freshId := freshId
  deployment := .ofWorld world
  line := []
  viewGate := .standard
  listGate := .standard
  panicking := false
  atStore := none
  views := 0
  lists := 0
  watches := []
  created := 0

def world (simulation : Simulation) : World := simulation.deployment.world

def watch? (simulation : Simulation) (number : Nat) : Option Watch :=
  simulation.watches.find? fun watch => watch.number == number

def updateWatch (simulation : Simulation) (number : Nat)
    (change : Watch → Watch) : Simulation :=
  { simulation with
    watches := simulation.watches.map fun watch =>
      if watch.number = number then change watch else watch }

def note (simulation : Simulation) : Notice → Simulation
  | .replied number response =>
      simulation.updateWatch number fun watch =>
        { watch with finish := some (.replied response) }
  | .queue (.answered call result) =>
      simulation.updateWatch call fun watch =>
        if watch.isRequest then watch
        else { watch with finish := some (.served result) }
  | _ => simulation

def move (simulation : Simulation) (move : Move) : Simulation :=
  let (deployment, notices) := simulation.deployment.step move
  let made := deployment.announcements.length -
    simulation.deployment.announcements.length
  notices.foldl note
    { simulation with deployment, created := simulation.created + made }

def act (simulation : Simulation) (action : Action) : Simulation :=
  simulation.move (.queue action)

/-- Puts a party at the end of the line for the shelf. -/
def queueUp (simulation : Simulation) (party : Party) : Simulation :=
  { simulation with line := simulation.line ++ [party] }

/-- Takes a party out of the line for the shelf. -/
def stepAside (simulation : Simulation) (party : Party) : Simulation :=
  { simulation with line := simulation.line.filter (· != party) }

/-! ## What happens next -/

/-- The next step of the loop. It looks for a cancellation first, then at its
timer, at the rebuild in flight, and at the items that wait. -/
def loopAction? (world : World) : Option Action :=
  match world.loop with
  | .running due inFlight none =>
      let ended := (inFlight.bind world.rebuild?).any fun rebuild =>
        match rebuild.stage with
        | .ended _ => true
        | _ => false
      if world.cancelled then some .stop
      else if inFlight.isNone && decide (due ≤ world.now) then some .fireTimer
      else if ended then some .observe
      else if !world.buffer.isEmpty then some .take
      else if world.deserted then some .stop
      else none
  | _ => none

def loopStep? (simulation : Simulation) : Option Simulation :=
  (loopAction? simulation.world).map fun action =>
    let next := simulation.act action
    match action with
    | .take => next.queueUp .loop
    | _ => next

def rebuildStep? (simulation : Simulation) (rebuild : Rebuild) :
    Option Simulation :=
  let number := rebuild.number
  match rebuild.stage with
  | .begun =>
      let counted := { simulation with lists := simulation.lists + 1 }
      if simulation.panicking then some (counted.act (.panic number))
      else
        let next := counted.act (.list number)
        match next.listGate.enter? with
        | some gate => some ({ next with listGate := gate }.act (.receive number))
        | none => some next
  | .listed _ =>
      simulation.listGate.release?.map fun gate =>
        { simulation with listGate := gate }.act (.receive number)
  | .arrived _ =>
      if simulation.line.contains (.rebuild number) then none
      else some (simulation.queueUp (.rebuild number))
  | .swapped _ => some (simulation.act (.announce number))
  | .ended _ => none

/-- The simulation after the retrieval that guards the shelf has come to the store
or has passed its gate. -/
def visitStep? (simulation : Simulation) : Option Simulation :=
  simulation.world.visit.bind fun visit =>
    if simulation.atStore = some visit.call then
      simulation.viewGate.release?.map fun gate =>
        { simulation with viewGate := gate }.act (.record visit.call)
    else
      let arrived := { simulation with
        atStore := some visit.call
        views := simulation.views + 1 }
      match arrived.viewGate.enter? with
      | some gate =>
          some ({ arrived with viewGate := gate }.act (.record visit.call))
      | none => some arrived

/-- The simulation after the first one in the line has got the shelf. -/
def lineStep? (simulation : Simulation) : Option Simulation :=
  if simulation.world.visit.isSome then none
  else
    match simulation.line with
    | [] => none
    | party :: rest =>
        let next := { simulation with line := rest }
        match party with
        | .call number =>
            let eligible :=
              simulation.world.shelf.eligible simulation.world.window
            let drawNumber := ((simulation.watch? number).map
              Watch.drawNumber).getD 0
            let seen :=
              if eligible.isEmpty then next
              else
                next.updateWatch number fun watch =>
                  { watch with eligible := some eligible }
            some (seen.act (.enter number drawNumber))
        | .rebuild number => some (next.act (.install number))
        | .loop => some (next.act .apply)

/-- The simulation after a request has read back, or after the queue was told of a
new box. -/
def serviceStep? (simulation : Simulation) : Option Simulation :=
  let reading := simulation.deployment.pending.find? fun request =>
    match request.errand with
    | .readBox _ | .readReactions _ => true
    | _ => false
  match reading, simulation.deployment.announcements with
  | some request, _ => some (simulation.move (.readBack request.number))
  | none, _ :: _ => some (simulation.move (.announce 0))
  | none, [] => none

/-- The simulation after the next thing that can happen at once. -/
def next? (simulation : Simulation) : Option Simulation :=
  simulation.serviceStep? <|> simulation.loopStep? <|>
    simulation.world.rebuilds.findSome? simulation.rebuildStep? <|>
    simulation.visitStep? <|> simulation.lineStep?

def settleFor : (fuel : Nat) → Simulation → Simulation
  | 0, simulation => simulation
  | fuel + 1, simulation =>
      match simulation.next? with
      | none => simulation
      | some next => next.settleFor fuel

/-- The simulation when nothing more can happen at once. A loop that never comes
to rest is left after many steps. -/
def settle (simulation : Simulation) : Simulation :=
  simulation.settleFor (10000 + 10 * simulation.world.buffer.length)

/-! ## Time -/

def Watch.deadlines (watch : Watch) : List Nat :=
  if watch.finish.isSome then []
  else watch.expiresAt.toList ++ watch.cutOffAt.toList

def isDue (now : Nat) (deadline : Option Nat) : Bool :=
  deadline.any (· ≤ now)

/-- The simulation after the deadlines of a call that have come. Being cut off
comes before expiring. -/
def meetDeadline (simulation : Simulation) (watch : Watch) : Simulation :=
  let now := simulation.world.now
  if watch.finish.isSome then simulation
  else if isDue now watch.cutOffAt then
    (simulation.move (.cutOff watch.number)).stepAside (.call watch.number)
  else if isDue now watch.expiresAt then
    (simulation.act (.expire watch.number)).stepAside (.call watch.number)
  else simulation

/-- The simulation after all deadlines that have come, at rest. -/
def meetDeadlines (simulation : Simulation) : Simulation :=
  (simulation.watches.foldl meetDeadline simulation).settle

/-- When time next matters: at a deadline or when the timer of the loop fires. -/
def nextTime? (simulation : Simulation) : Option Nat :=
  let world := simulation.world
  let timer := match world.loop with
    | .running due _ _ => [due]
    | _ => []
  let times := (timer ++ simulation.watches.flatMap Watch.deadlines).filter
    (world.now < ·)
  times.min?

def advanceTo (simulation : Simulation) (time : Nat) : Simulation :=
  (simulation.act (.pass (time - simulation.world.now))).meetDeadlines.settle

/-- The simulation at a time, with all that happens before. -/
def sleepUntil (time : Nat) : (fuel : Nat) → Simulation → Simulation
  | 0, simulation => simulation.advanceTo time
  | fuel + 1, simulation =>
      match simulation.nextTime? with
      | some next =>
          if next ≤ time then (simulation.advanceTo next).sleepUntil time fuel
          else simulation.advanceTo time
      | none => simulation.advanceTo time

def sleep (simulation : Simulation) (seconds : Nat) : Simulation :=
  simulation.sleepUntil (simulation.world.now + 1000 * seconds) (seconds + 1000)

/-! ## Calls -/

def nextNumber (simulation : Simulation) : Nat := simulation.watches.length

/-- Calls a retrieval, with a deadline in milliseconds or without. -/
def callRetrieval (simulation : Simulation) (drawNumber : Nat)
    (within : Option Nat) : Simulation :=
  let number := simulation.nextNumber
  let watch : Watch := {
    number := number
    isRequest := false
    drawNumber := drawNumber
    expiresAt := within.map (simulation.world.now + ·)
    cutOffAt := none
    eligible := none
    finish := none }
  let called :=
    { simulation with watches := simulation.watches ++ [watch] }.act (.call number)
  let lined :=
    if called.world.waiting.contains number then called.queueUp (.call number)
    else called
  lined.settle.meetDeadlines

/-- Sends a request. Without any time to take it is cut off before it is looked
at. -/
def sendRequest (simulation : Simulation) (drawNumber : Nat)
    (service : Service) (request : Http.Request) : Simulation :=
  let number := simulation.nextNumber
  let now := simulation.world.now
  let bounded := service != .telemetry
  let watch : Watch := {
    number := number
    isRequest := true
    drawNumber := drawNumber
    expiresAt := some (now + 1000 * simulation.http.dequeueSeconds.toNat)
    cutOffAt :=
      if bounded then some (now + 1000 * simulation.http.requestSeconds.toNat)
      else none
    eligible := none
    finish := none }
  if bounded && simulation.http.requestSeconds == 0 then
    let finish := Finish.replied (Reply.cutOff.forMethod request.method)
    { simulation with
      watches := simulation.watches ++ [{ watch with finish := some finish }] }
  else
    let sent :=
      { simulation with watches := simulation.watches ++ [watch] }.move
        (.arrive number service request (simulation.freshId (simulation.created + 1)))
    let lined :=
      if sent.world.waiting.contains number then sent.queueUp (.call number)
      else sent
    lined.settle.meetDeadlines

def awaitFor (number : Nat) : (fuel : Nat) → Simulation → Simulation
  | 0, simulation => simulation
  | fuel + 1, simulation =>
      match (simulation.watch? number).bind Watch.finish, simulation.nextTime? with
      | none, some time => (simulation.advanceTo time).awaitFor number fuel
      | _, _ => simulation

/-- Lets time pass until a call has ended. One that never ends is left after many
steps. -/
def await (simulation : Simulation) (number : Nat) : Simulation :=
  simulation.awaitFor number 10000

def drop (simulation : Simulation) (number : Nat) : Simulation :=
  match simulation.watch? number with
  | none => simulation
  | some watch =>
      if watch.finish.isSome then simulation
      else
        let dropped :=
          if watch.isRequest then simulation.move (.leave number)
          else simulation.act (.abandon number)
        ((dropped.stepAside (.call number)).updateWatch number fun watch =>
          { watch with expiresAt := none, cutOffAt := none }).settle

/-! ## What can be seen -/

/-- The score of a box, unless the shelf is guarded. -/
def score? (simulation : Simulation) (id : String) : Option Int64 :=
  if simulation.world.visit.isSome then none
  else simulation.world.shelf.pool.get? id

end Simulation

end StalestFirst
