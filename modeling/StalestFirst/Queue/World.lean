import StalestFirst.Queue.Shelf
import StalestFirst.Settings.Basic
import StalestFirst.Store

namespace StalestFirst

/-! ## The queue at work

Retrievals, the loop that applies items, and the rebuilds that it starts run side
by side over one store. The world is the state of them all. -/

/-- A retrieval that guards the shelf: its call, the box it chose, and the moment
of the view it asks the store to record. -/
structure Visit where
  call : Nat
  chosen : String
  viewedAt : Moment
  deriving DecidableEq

inductive Outcome where
  | installed (count : Nat)
  | failed (fault : Fault)
  | panicked
  deriving DecidableEq

/-- How far a rebuild has come: it has begun, the store has made its listing, the
listing has arrived, the pool has been swapped, or the rebuild has ended. -/
inductive Stage where
  | begun
  | listed (result : Except Fault (List ViewedBox))
  | arrived (listing : List ViewedBox)
  | swapped (count : Nat)
  | ended (outcome : Outcome)

/-- A rebuild with its number, counted from zero in the order of starts. -/
structure Rebuild where
  number : Nat
  stage : Stage

inductive Ending where
  | cancelled
  | deserted
  | overflowed
  | dropped
  deriving DecidableEq

/-- The loop: not started yet, running, or gone. A running loop knows when its
next rebuild is due, which rebuild it waits for, and which item it has taken and
not yet applied. -/
inductive Loop where
  | unstarted
  | running (due : Nat) (inFlight : Option Nat) (held : Option Item)
  | ended (ending : Ending)
  deriving DecidableEq

/-- The state of a queue, its loop, its rebuilds and its store. The timers count
milliseconds, apart from the clock. -/
structure World where
  settings : QueueSettings
  store : Store
  clock : Moment
  now : Nat
  shelf : Shelf
  ready : Bool
  waiting : List Nat
  visit : Option Visit
  buffer : List Item
  loop : Loop
  rebuilds : List Rebuild
  started : Nat
  cancelled : Bool
  handles : Nat

/-! ## What can happen -/

/-- A change to the store that does not come from the queue. -/
inductive StoreWrite where
  | insert (box : MessageBox)
  | delete (id : String)
  | recordView (id : String) (viewedAt : Moment)
  | react (id : String) (increments : Tallies)
  | setOffline (offline : Bool)

/-- The store after a change. One that fails changes nothing. -/
def StoreWrite.apply (write : StoreWrite) (store : Store) : Store :=
  match write with
  | .insert box => ((store.insert box).toOption).getD store
  | .delete id => (store.delete id).1
  | .recordView id viewedAt => ((store.recordView id viewedAt).toOption).getD store
  | .react id increments => ((store.react id increments).toOption).getD store
  | .setOffline offline => store.setOffline offline

/-- One step of one party.

A retrieval is called, enters when nobody guards the shelf, and has its view
recorded; it may reach its deadline or be abandoned before that. Items are
submitted, taken by the loop and applied. The loop is spawned or dropped, starts a
rebuild when its timer fires, observes how the rebuild ended, and stops when it is
cancelled or no handle is left. A rebuild lists the store or panics, receives the
listing, installs it and announces that the queue is ready. -/
inductive Action where
  | call (call : Nat)
  | enter (call : Nat) (number : Nat)
  | record (call : Nat)
  | expire (call : Nat)
  | abandon (call : Nat)
  | submit (item : Item)
  | take
  | apply
  | spawn
  | dropLoop
  | cancel
  | cloneHandle
  | dropHandle
  | fireTimer
  | observe
  | stop
  | list (rebuild : Nat)
  | panic (rebuild : Nat)
  | receive (rebuild : Nat)
  | install (rebuild : Nat)
  | announce (rebuild : Nat)
  | write (write : StoreWrite)
  | setClock (clock : Moment)
  | pass (milliseconds : Nat)

inductive Event where
  | answered (call : Nat) (result : Except Fault String)
  | accepted (item : Item)
  | refused (item : Item)
  | applied (item : Item)
  | started (rebuild : Nat) (time : Nat)
  | listed (rebuild : Nat) (result : Except Fault (List ViewedBox))
  | installed (rebuild : Nat) (listing : List ViewedBox)
  | observed (rebuild : Nat) (outcome : Outcome) (time : Nat)
  | ended (ending : Ending)

namespace World

/-! ## Parts of the state -/

def window (world : World) : Window := .ofWidth world.settings.selectionWindow

/-- How many items may wait to be applied. -/
def capacity (world : World) : Nat := (max world.settings.bufferCapacity 1).toNat

/-- Whether there is a loop that can still take items. -/
def receiving (world : World) : Bool :=
  match world.loop with
  | .ended _ => false
  | _ => true

/-- Whether nobody is left who could submit an item. -/
def deserted (world : World) : Bool :=
  world.handles == 0 && world.waiting.isEmpty && world.visit.isNone

def calling (world : World) (call : Nat) : Bool :=
  world.waiting.contains call ||
    world.visit.any fun visit => visit.call == call

def rebuild? (world : World) (number : Nat) : Option Rebuild :=
  world.rebuilds.find? fun rebuild => rebuild.number == number

/-- The pause after a rebuild that ended in a certain way, in milliseconds. -/
def pause (world : World) : Outcome → Nat
  | .installed _ => world.settings.resyncSeconds.toNat * 1000
  | _ => world.settings.retrySeconds.toNat * 1000

/-- The first time that the timer cannot reach, in milliseconds. -/
def horizon : Nat := 9223372036854775808 * 1000

def withoutCall (world : World) (call : Nat) : World :=
  { world with
    waiting := world.waiting.filter (· != call)
    visit := world.visit.filter fun visit => visit.call != call }

def setStage (world : World) (number : Nat) (stage : Stage) : World :=
  { world with
    rebuilds := world.rebuilds.map fun rebuild =>
      if rebuild.number = number then { rebuild with stage } else rebuild }

/-- The world with the loop gone. What still waits to be applied is lost. -/
def endLoop (world : World) (ending : Ending) : World × List Event :=
  ({ world with loop := .ended ending, buffer := [] }, [.ended ending])

/-! ## Steps -/

/-- A retrieval is called. It fails at once unless the queue is ready. -/
def stepCall (world : World) (call : Nat) : World × List Event :=
  if world.handles = 0 ∨ world.calling call then (world, [])
  else if world.ready then
    ({ world with waiting := world.waiting ++ [call] }, [])
  else (world, [.answered call (.error .notReady)])

/-- A waiting retrieval enters. It chooses a box and reads the clock, or fails for
want of boxes. -/
def stepEnter (world : World) (call number : Nat) : World × List Event :=
  if !world.waiting.contains call || world.visit.isSome then (world, [])
  else
    let left := world.withoutCall call
    match world.shelf.draw world.window number with
    | none => (left, [.answered call (.error .emptyPool)])
    | some chosen =>
        ({ left with visit := some ⟨call, chosen, world.clock⟩ }, [])

/-- The store is asked to record the view of a retrieval, and the retrieval ends
with what the store says. -/
def stepRecord (world : World) (call : Nat) : World × List Event :=
  match world.visit with
  | none => (world, [])
  | some visit =>
      if visit.call = call then
        let recorded := world.store.recordView visit.chosen visit.viewedAt
        let outcome := recorded.map fun _ => ()
        ({ world with
            visit := none
            store := recorded.toOption.getD world.store
            shelf := world.shelf.conclude visit.chosen visit.viewedAt outcome },
          [.answered call (Shelf.verdict visit.chosen outcome)])
      else (world, [])

def stepExpire (world : World) (call : Nat) : World × List Event :=
  if world.calling call then
    (world.withoutCall call, [.answered call (.error .timeout)])
  else (world, [])

/-- An item is submitted. It is accepted if the queue is ready, the loop can take
it and there is room for it. -/
def stepSubmit (world : World) (item : Item) : World × List Event :=
  if world.handles = 0 then (world, [])
  else if world.ready && world.receiving &&
      decide (world.buffer.length < world.capacity) then
    ({ world with buffer := world.buffer ++ [item] }, [.accepted item])
  else (world, [.refused item])

def stepTake (world : World) : World × List Event :=
  match world.loop, world.buffer with
  | .running due inFlight none, item :: rest =>
      if world.cancelled then (world, [])
      else
        ({ world with buffer := rest, loop := .running due inFlight (some item) }, [])
  | _, _ => (world, [])

/-- The loop applies the item it has taken, when nobody guards the shelf. -/
def stepApply (world : World) : World × List Event :=
  match world.loop with
  | .running due inFlight (some item) =>
      if world.visit.isSome then (world, [])
      else
        ({ world with
            shelf := world.shelf.apply item
            loop := .running due inFlight none },
          [.applied item])
  | _ => (world, [])

/-- The loop starts. Its first rebuild is due at once. -/
def stepSpawn (world : World) : World × List Event :=
  match world.loop with
  | .unstarted => ({ world with loop := .running world.now none none }, [])
  | _ => (world, [])

/-- The loop is dropped before it has started. -/
def stepDropLoop (world : World) : World × List Event :=
  match world.loop with
  | .unstarted => world.endLoop .dropped
  | _ => (world, [])

/-- The timer fires and a rebuild starts, unless one is in flight. -/
def stepFireTimer (world : World) : World × List Event :=
  match world.loop with
  | .running due none none =>
      if world.cancelled || decide (world.now < due) then (world, [])
      else
        ({ world with
            loop := .running due (some world.started) none
            rebuilds := world.rebuilds ++ [⟨world.started, .begun⟩]
            started := world.started + 1 },
          [.started world.started world.now])
  | _ => (world, [])

/-- The loop observes how the rebuild in flight ended and sets its timer. A timer
beyond the horizon is the end of the loop. -/
def stepObserve (world : World) : World × List Event :=
  match world.loop with
  | .running _ (some number) none =>
      match world.cancelled, world.rebuild? number with
      | false, some ⟨_, .ended outcome⟩ =>
          let due := world.now + world.pause outcome
          let seen := { world with
            rebuilds := world.rebuilds.filter fun rebuild =>
              rebuild.number != number }
          let event := Event.observed number outcome world.now
          if horizon ≤ due then
            let (gone, events) := seen.endLoop .overflowed
            (gone, event :: events)
          else ({ seen with loop := .running due none none }, [event])
      | _, _ => (world, [])
  | _ => (world, [])

/-- The loop stops when it is cancelled, or when nothing is left to apply and
nobody could submit more. -/
def stepStop (world : World) : World × List Event :=
  match world.loop with
  | .running _ _ none =>
      if world.cancelled then world.endLoop .cancelled
      else if world.deserted && world.buffer.isEmpty then world.endLoop .deserted
      else (world, [])
  | _ => (world, [])

def stepList (world : World) (number : Nat) : World × List Event :=
  match world.rebuild? number with
  | some ⟨_, .begun⟩ =>
      let result := world.store.listing
      (world.setStage number (.listed result), [.listed number result])
  | _ => (world, [])

def stepPanic (world : World) (number : Nat) : World × List Event :=
  match world.rebuild? number with
  | some ⟨_, .begun⟩ => (world.setStage number (.ended .panicked), [])
  | _ => (world, [])

def stepReceive (world : World) (number : Nat) : World × List Event :=
  match world.rebuild? number with
  | some ⟨_, .listed (.ok listing)⟩ =>
      (world.setStage number (.arrived listing), [])
  | some ⟨_, .listed (.error fault)⟩ =>
      (world.setStage number (.ended (.failed fault)), [])
  | _ => (world, [])

/-- A rebuild installs its listing, when nobody guards the shelf. -/
def stepInstall (world : World) (number : Nat) : World × List Event :=
  match world.visit, world.rebuild? number with
  | none, some ⟨_, .arrived listing⟩ =>
      let shelf := world.shelf.install listing
      ({ world with shelf }.setStage number (.swapped shelf.pool.size),
        [.installed number listing])
  | _, _ => (world, [])

/-- A rebuild announces that the queue is ready, and ends. -/
def stepAnnounce (world : World) (number : Nat) : World × List Event :=
  match world.rebuild? number with
  | some ⟨_, .swapped count⟩ =>
      ({ world with ready := true }.setStage number (.ended (.installed count)), [])
  | _ => (world, [])

/-- One step. A step that its party cannot take changes nothing. -/
def step (world : World) : Action → World × List Event
  | .call call => world.stepCall call
  | .enter call number => world.stepEnter call number
  | .record call => world.stepRecord call
  | .expire call => world.stepExpire call
  | .abandon call => (world.withoutCall call, [])
  | .submit item => world.stepSubmit item
  | .take => world.stepTake
  | .apply => world.stepApply
  | .spawn => world.stepSpawn
  | .dropLoop => world.stepDropLoop
  | .cancel => ({ world with cancelled := true }, [])
  | .cloneHandle =>
      if world.handles = 0 then (world, [])
      else ({ world with handles := world.handles + 1 }, [])
  | .dropHandle => ({ world with handles := world.handles - 1 }, [])
  | .fireTimer => world.stepFireTimer
  | .observe => world.stepObserve
  | .stop => world.stepStop
  | .list number => world.stepList number
  | .panic number => world.stepPanic number
  | .receive number => world.stepReceive number
  | .install number => world.stepInstall number
  | .announce number => world.stepAnnounce number
  | .write write => ({ world with store := write.apply world.store }, [])
  | .setClock clock => ({ world with clock }, [])
  | .pass milliseconds => ({ world with now := world.now + milliseconds }, [])

/-! ## Runs -/

/-- The world after a row of steps, and what was seen of them. -/
def run (world : World) : List Action → World × List Event
  | [] => (world, [])
  | action :: rest =>
      let (next, events) := world.step action
      let (last, later) := next.run rest
      (last, events ++ later)

/-- A new queue over a store, with one handle and a loop that has not started. -/
def start (settings : QueueSettings) (store : Store) (clock : Moment) : World where
  settings := settings
  store := store
  clock := clock
  now := 0
  shelf := .empty
  ready := false
  waiting := []
  visit := none
  buffer := []
  loop := .unstarted
  rebuilds := []
  started := 0
  cancelled := false
  handles := 1

/-- The greatest buffer that can be made. -/
def greatestCapacity : Nat := 2305843009213693951

/-- A new queue, unless its buffer cannot be made. -/
def start? (settings : QueueSettings) (store : Store) (clock : Moment) :
    Option World :=
  let world := start settings store clock
  if world.capacity ≤ greatestCapacity then some world else none

/-- A world that some row of steps leads to from a new queue. -/
def Reachable (world : World) : Prop :=
  ∃ settings store clock actions,
    world = ((start settings store clock).run actions).1

end World

end StalestFirst
