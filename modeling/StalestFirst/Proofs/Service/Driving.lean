import Mathlib
import StalestFirst.Proofs.Queue.Run
import StalestFirst.Proofs.Service.Standalone

namespace StalestFirst

/-! ## How the services drive the queue

To the queue, a step of the services is a row of steps of its own. -/

/-- What a notice tells of the queue. -/
def Notice.event? : Notice → Option Event
  | .queue event => some event
  | .replied _ _ => none

/-- What the services do to the queue and its store. -/
def Action.OfServices : Action → Prop
  | .call _ | .abandon _ | .submit _ | .cloneHandle | .dropHandle => True
  | .write (.insert _) | .write (.react _ _) => True
  | _ => False

/-- A box that is made is written to the store. -/
theorem World.step_insert_of_create {world : World} {draft : BoxDraft} {id : String}
    {now : Moment} {grown : Store} {box : MessageBox}
    (created : BoxService.create world.store draft id now = .ok (grown, box)) :
    world.step (.write (.insert box)) = ({ world with store := grown }, []) := by
  obtain ⟨_, inserted⟩ := BoxService.create_eq_ok created
  simp only [step, StoreWrite.apply, inserted]
  rfl

namespace Deployment

variable {deployment : Deployment}

/-- The world has made a row of steps, and what was seen of them was noticed. -/
structure Drives (deployment : Deployment) (actions : List Action)
    (result : Deployment × List Notice) : Prop where
  world : result.1.world = (deployment.world.run actions).1
  events : result.2.filterMap Notice.event? = (deployment.world.run actions).2

theorem Drives.idle {next : Deployment} {notices : List Notice}
    (sameWorld : next.world = deployment.world)
    (unseen : notices.filterMap Notice.event? = []) :
    deployment.Drives [] (next, notices) :=
  ⟨sameWorld, unseen⟩

theorem Drives.andThen {first second : Deployment × List Notice}
    {actions others : List Action} (drives : deployment.Drives actions first)
    (later : first.1.Drives others second) :
    deployment.Drives (actions ++ others) (second.1, first.2 ++ second.2) where
  world := by
    rw [World.run_append, ← drives.world]
    exact later.world
  events := by
    rw [World.run_append, ← drives.world, List.filterMap_append, drives.events, later.events]

/-- Before a step only the world counts. -/
theorem Drives.of_world {other : Deployment} {actions : List Action}
    {result : Deployment × List Notice} (drives : other.Drives actions result)
    (sameWorld : other.world = deployment.world) : deployment.Drives actions result :=
  ⟨sameWorld ▸ drives.world, sameWorld ▸ drives.events⟩

/-- To answer requests is nothing to the queue. -/
theorem drives_absorbEvent (deployment : Deployment) (event : Event) :
    deployment.Drives [] (deployment.absorbEvent event) := by
  cases event with
  | answered call result =>
      refine .idle (world_absorbAnswer ..) ?_
      change (deployment.absorbAnswer call result).2.filterMap _ = []
      unfold absorbAnswer
      split
      · rfl
      · split
        all_goals rfl
  | _ =>
      exact .idle rfl rfl

theorem world_absorb (deployment : Deployment) (events : List Event) :
    (deployment.absorb events).1.world = deployment.world := by
  induction events generalizing deployment with
  | nil =>
      rfl
  | cons event rest inductionHypothesis =>
      rw [absorb_cons]
      exact (inductionHypothesis _).trans (drives_absorbEvent deployment event).world

theorem events_absorb (deployment : Deployment) (events : List Event) :
    (deployment.absorb events).2.filterMap Notice.event? = events := by
  induction events generalizing deployment with
  | nil =>
      rfl
  | cons event rest inductionHypothesis =>
      have first := (drives_absorbEvent deployment event).events
      have told : (Notice.queue event).event? = some event := rfl
      rw [absorb_cons, List.filterMap_cons_some told, List.filterMap_append,
        inductionHypothesis, first]
      rfl

theorem drives_stepQueue (deployment : Deployment) (action : Action) :
    deployment.Drives [action] (deployment.stepQueue action) where
  world := world_absorb ..
  events := by
    rw [World.run_cons, World.run_nil, List.append_nil]
    exact events_absorb ..

theorem world_stepQueue (deployment : Deployment) (action : Action) :
    (deployment.stepQueue action).1.world = (deployment.world.step action).1 :=
  (drives_stepQueue deployment action).world

/-- A step in which nobody but the services does anything to the queue. -/
def Steers (deployment : Deployment) (result : Deployment × List Notice) : Prop :=
  ∃ actions, deployment.Drives actions result ∧ ∀ action ∈ actions, action.OfServices

theorem Steers.idle {next : Deployment} {notices : List Notice}
    (sameWorld : next.world = deployment.world)
    (unseen : notices.filterMap Notice.event? = []) : deployment.Steers (next, notices) :=
  ⟨[], .idle sameWorld unseen, fun _ member => absurd member List.not_mem_nil⟩

theorem Steers.stepQueue {action : Action} (ofServices : action.OfServices) :
    deployment.Steers (deployment.stepQueue action) := by
  refine ⟨[action], drives_stepQueue deployment action, fun other member => ?_⟩
  rw [List.mem_singleton.1 member]
  exact ofServices

theorem Steers.of_world {other : Deployment} {result : Deployment × List Notice}
    (steers : other.Steers result) (sameWorld : other.world = deployment.world) :
    deployment.Steers result := by
  obtain ⟨actions, drives, ofServices⟩ := steers
  exact ⟨actions, drives.of_world sameWorld, ofServices⟩

theorem Steers.andThen {first second : Deployment × List Notice}
    (steers : deployment.Steers first) (later : first.1.Steers second) :
    deployment.Steers (second.1, first.2 ++ second.2) := by
  obtain ⟨actions, drives, ofServices⟩ := steers
  obtain ⟨others, drivesLater, ofServicesLater⟩ := later
  refine ⟨actions ++ others, drives.andThen drivesLater, fun action member => ?_⟩
  rcases List.mem_append.1 member with early | late
  · exact ofServices action early
  · exact ofServicesLater action late

theorem steers_beginQueueOrder (deployment : Deployment) (request : Pending)
    (order : QueueOrder) : deployment.Steers (deployment.beginQueueOrder request order) := by
  cases order with
  | accept item =>
      have accepted : deployment.Steers (deployment.stepQueue (.submit item)) :=
        .stepQueue trivial
      have answered : (deployment.stepQueue (.submit item)).1.Steers
          ((deployment.stepQueue (.submit item)).1.answer request (.ok Accepted.mk)) :=
        .idle rfl rfl
      exact accepted.andThen answered
  | draw =>
      have called : (deployment.await request .draw).Steers
          ((deployment.await request .draw).stepQueue (.call request.number)) :=
        .stepQueue trivial
      exact called.of_world rfl

theorem steers_beginBoxOrder (deployment : Deployment) (request : Pending)
    (freshId : String) (order : BoxOrder) :
    deployment.Steers (deployment.beginBoxOrder request freshId order) := by
  cases order with
  | create draft =>
      unfold beginBoxOrder
      dsimp only
      split
      · exact .idle rfl rfl
      · rename_i grown box created
        have written := World.step_insert_of_create created
        refine ⟨[.write (.insert box), .cloneHandle], ⟨?_, ?_⟩, ?_⟩
        · rw [World.run_cons, World.run_cons, World.run_nil, written]
          rfl
        · have silent : ∀ world : World, (world.step .cloneHandle).2 = [] := by
            intro world
            simp only [World.step]
            split
            all_goals rfl
          rw [World.run_cons, World.run_cons, World.run_nil, silent, written]
          rfl
        · intro action member
          simp only [List.mem_cons, List.not_mem_nil, or_false] at member
          rcases member with rfl | rfl
          · trivial
          · trivial
  | react reactions =>
      unfold beginBoxOrder
      dsimp only
      split
      · exact .idle rfl rfl
      · rename_i grown added
        rcases BoxService.addReactions_eq_ok added with rfl | rfl
        · exact .idle rfl rfl
        · refine ⟨[.write (.react reactions.id reactions.tallies)], ⟨rfl, rfl⟩, ?_⟩
          intro action member
          rw [List.mem_singleton.1 member]
          trivial
  | view =>
      have called : (deployment.await request .drawToView).Steers
          ((deployment.await request .drawToView).stepQueue (.call request.number)) :=
        .stepQueue trivial
      exact called.of_world rfl

theorem steers_arrive (deployment : Deployment) (number : Nat) (service : Service)
    (request : Http.Request) (freshId : String) :
    deployment.Steers (deployment.stepArrive number service request freshId) := by
  unfold stepArrive
  split
  · exact .idle rfl rfl
  · unfold meet
    split
    · exact .idle rfl rfl
    · split
      · exact .idle rfl rfl
      · split
        · exact .idle rfl rfl
        · exact steers_beginQueueOrder ..
    · split
      · exact .idle rfl rfl
      · split
        · exact .idle rfl rfl
        · exact steers_beginBoxOrder ..

theorem steers_abandon (deployment : Deployment) (number : Nat) {notices : List Notice}
    (unseen : notices.filterMap Notice.event? = []) :
    deployment.Steers (deployment.abandon number, notices) := by
  refine ⟨[.abandon number], ⟨rfl, unseen⟩, fun action member => ?_⟩
  rw [List.mem_singleton.1 member]
  trivial

theorem steers_announce (deployment : Deployment) (position : Nat) :
    deployment.Steers (deployment.stepAnnounce position) := by
  unfold stepAnnounce
  split
  · exact .idle rfl rfl
  · rename_i item found
    let rest : Deployment := { deployment with
      announcements := deployment.announcements.eraseIdx position }
    have told : rest.Steers (rest.stepQueue (.submit item)) := .stepQueue trivial
    have dropped : (rest.stepQueue (.submit item)).1.Steers
        ((rest.stepQueue (.submit item)).1.stepQueue .dropHandle) :=
      .stepQueue trivial
    exact (told.andThen dropped).of_world rfl

/-- Each step drives the queue by what the services do to it, or is one of the queue. -/
theorem exists_drives_step (deployment : Deployment) (move : Move) :
    ∃ actions, deployment.Drives actions (deployment.step move) ∧
      ∀ action ∈ actions, action.OfServices ∨ move = .queue action := by
  have served (steers : deployment.Steers (deployment.step move)) :
      ∃ actions, deployment.Drives actions (deployment.step move) ∧
        ∀ action ∈ actions, action.OfServices ∨ move = .queue action := by
    obtain ⟨actions, drives, ofServices⟩ := steers
    exact ⟨actions, drives, fun action member => Or.inl (ofServices action member)⟩
  cases move with
  | arrive number service request freshId =>
      exact served (steers_arrive ..)
  | readBack number =>
      refine served ?_
      simp only [step, stepReadBack]
      split
      · exact .idle rfl rfl
      · split
        all_goals exact .idle rfl rfl
  | cutOff number =>
      refine served ?_
      simp only [step, stepCutOff]
      split
      · exact .idle rfl rfl
      · exact steers_abandon deployment number rfl
  | leave number =>
      refine served ?_
      simp only [step, stepLeave]
      split
      · exact .idle rfl rfl
      · exact steers_abandon deployment number rfl
  | announce position =>
      exact served (steers_announce ..)
  | queue action =>
      refine ⟨[action], drives_stepQueue deployment action, fun other member => ?_⟩
      rw [List.mem_singleton.1 member]
      exact Or.inr rfl

theorem exists_drives_run (deployment : Deployment) (moves : List Move) :
    ∃ actions, deployment.Drives actions (deployment.run moves) ∧
      ∀ action ∈ actions, action.OfServices ∨ .queue action ∈ moves := by
  induction moves generalizing deployment with
  | nil =>
      exact ⟨[], .idle rfl rfl, fun _ member => absurd member List.not_mem_nil⟩
  | cons move rest inductionHypothesis =>
      obtain ⟨actions, drives, served⟩ := exists_drives_step deployment move
      obtain ⟨others, later, servedLater⟩ := inductionHypothesis (deployment.step move).1
      refine ⟨actions ++ others, drives.andThen later, fun action member => ?_⟩
      rcases List.mem_append.1 member with early | late
      · rcases served action early with ofServices | rfl
        · exact Or.inl ofServices
        · exact Or.inr List.mem_cons_self
      · rcases servedLater action late with ofServices | ofQueue
        · exact Or.inl ofServices
        · exact Or.inr (List.mem_cons_of_mem move ofQueue)

/-- The services delete no box. -/
theorem exists_drives_run_undeleted {deployment : Deployment} {id : String}
    {moves : List Move} (undeleted : .queue (.write (.delete id)) ∉ moves) :
    ∃ actions, deployment.Drives actions (deployment.run moves) ∧
      .write (.delete id) ∉ actions := by
  obtain ⟨actions, drives, allowed⟩ := exists_drives_run deployment moves
  refine ⟨actions, drives, fun deletes => ?_⟩
  rcases allowed _ deletes with ofServices | ofQueue
  · exact ofServices
  · exact undeleted ofQueue

end Deployment

end StalestFirst
