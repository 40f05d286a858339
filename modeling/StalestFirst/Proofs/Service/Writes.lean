import Mathlib
import StalestFirst.Proofs.Service.Driving
import StalestFirst.Proofs.Store.Tallies

namespace StalestFirst

/-! ## What is written to the store -/

/-- What a step of the queue asks the store to change. -/
def World.writes (world : World) : Action → List StoreWrite
  | .record call =>
      match world.visit with
      | some visit =>
          if visit.call = call then [.recordView visit.chosen visit.viewedAt] else []
      | none => []
  | .write write => [write]
  | _ => []

theorem World.store_step (world : World) (action : Action) :
    (world.step action).1.store = world.store.writeAll (world.writes action) := by
  have change := world.change action
  generalize (world.step action).1 = next at change ⊢
  generalize (world.step action).2 = events at change
  cases change with
  | aside idle alike silent =>
      rw [alike.store]
      cases action with
      | record call =>
          have nothing : world.writes (.record call) = [] := by
            simp only [writes]
            split
            · rename_i visit guarded
              exact if_neg (idle visit guarded)
            · rfl
          rw [nothing]
          rfl
      | write write =>
          cases idle
      | _ =>
          rfl
  | @records visit guarded =>
      have written : world.writes (.record visit.call) =
          [.recordView visit.chosen visit.viewedAt] := by
        simp only [writes, guarded, if_true]
      rw [written]
      rfl
  | leaves guarded leaving silent =>
      rcases leaving with rfl | rfl
      · rfl
      · rfl
  | finishes ready finish =>
      cases finish with
      | panics begun =>
          rfl
      | fails listed =>
          rfl
      | announces swapped =>
          rfl
  | _ =>
      rfl

/-- What an order asks the store to change. -/
def BoxOrder.writes (order : BoxOrder) (freshId : String) (now : Moment) :
    List StoreWrite :=
  match order with
  | .create draft => [.insert (MessageBox.create freshId draft.body now)]
  | .react reactions =>
      if reactions.tallies.isEmpty then [] else [.react reactions.id reactions.tallies]
  | .view => []

namespace Deployment

/-- What a step asks the store to change. -/
def writes (deployment : Deployment) : Move → List StoreWrite
  | .arrive number .box request freshId =>
      if deployment.isTaken number || (Reply.beforehand? request).isSome then []
      else
        match (BoxOrder.ofRequest request).outcome with
        | .ok order => order.writes freshId deployment.world.clock
        | .error _ => []
  | .queue action => deployment.world.writes action
  | _ => []

/-- What a row of steps asks the store to change. -/
def writesOf (deployment : Deployment) : List Move → List StoreWrite
  | [] => []
  | move :: rest => deployment.writes move ++ (deployment.step move).1.writesOf rest

variable {deployment : Deployment} {id : String}

theorem run_cons (deployment : Deployment) (move : Move) (rest : List Move) :
    deployment.run (move :: rest) =
      (((deployment.step move).1.run rest).1,
        (deployment.step move).2 ++ ((deployment.step move).1.run rest).2) :=
  rfl

theorem run_append (deployment : Deployment) (moves others : List Move) :
    (deployment.run (moves ++ others)).1 = ((deployment.run moves).1.run others).1 := by
  induction moves generalizing deployment with
  | nil =>
      rfl
  | cons move rest inductionHypothesis =>
      exact inductionHypothesis _

theorem writesOf_append (deployment : Deployment) (moves others : List Move) :
    deployment.writesOf (moves ++ others) =
      deployment.writesOf moves ++ (deployment.run moves).1.writesOf others := by
  induction moves generalizing deployment with
  | nil =>
      rfl
  | cons move rest inductionHypothesis =>
      rw [List.cons_append, writesOf, writesOf, inductionHypothesis, List.append_assoc]
      rfl

theorem store_stepQueue (deployment : Deployment) (action : Action) :
    (deployment.stepQueue action).1.world.store =
      deployment.world.store.writeAll (deployment.world.writes action) := by
  rw [world_stepQueue, World.store_step]

theorem store_beginQueueOrder (deployment : Deployment) (request : Pending)
    (order : QueueOrder) :
    (deployment.beginQueueOrder request order).1.world.store = deployment.world.store := by
  cases order with
  | accept item =>
      exact store_stepQueue deployment (.submit item)
  | draw =>
      exact store_stepQueue (deployment.await request .draw) (.call request.number)

theorem store_beginBoxOrder (deployment : Deployment) (request : Pending)
    (freshId : String) (order : BoxOrder) :
    (deployment.beginBoxOrder request freshId order).1.world.store =
      deployment.world.store.writeAll (order.writes freshId deployment.world.clock) := by
  cases order with
  | create draft =>
      simp only [beginBoxOrder, BoxService.create, BoxOrder.writes]
      cases inserted : deployment.world.store.insert
          (MessageBox.create freshId draft.body deployment.world.clock) with
      | error fault =>
          simp only [Store.writeAll, List.foldl, StoreWrite.apply, inserted]
          rfl
      | ok grown =>
          simp only [Store.writeAll, List.foldl, StoreWrite.apply, inserted]
          exact World.store_step _ .cloneHandle
  | react reactions =>
      simp only [beginBoxOrder, BoxService.addReactions, BoxOrder.writes]
      cases reactions.tallies.isEmpty with
      | true =>
          rfl
      | false =>
          simp only [Bool.false_eq_true, if_false, Store.writeAll, List.foldl,
            StoreWrite.apply]
          cases deployment.world.store.react reactions.id reactions.tallies with
          | error fault =>
              rfl
          | ok next =>
              rfl
  | view =>
      exact store_stepQueue (deployment.await request .drawToView) (.call request.number)

theorem store_arrive (deployment : Deployment) (number : Nat) (service : Service)
    (request : Http.Request) (freshId : String) :
    (deployment.stepArrive number service request freshId).1.world.store =
      deployment.world.store.writeAll
        (deployment.writes (.arrive number service request freshId)) := by
  cases taken : deployment.isTaken number with
  | true =>
      rw [stepArrive, if_pos taken]
      cases service with
      | box =>
          simp only [writes, taken, Bool.true_or, if_true]
          rfl
      | _ =>
          rfl
  | false =>
      rw [stepArrive, if_neg (ne_true_of_eq_false taken)]
      unfold meet
      cases service with
      | telemetry =>
          rfl
      | queue =>
          dsimp only
          split
          · rfl
          · split
            · rfl
            · exact store_beginQueueOrder ..
      | box =>
          dsimp only
          split
          · rename_i response beforehand
            simp only [writes, taken, beforehand, Option.isSome_some, Bool.or_true, if_true]
            rfl
          · rename_i beforehand
            split
            · rename_i metadata fault checked
              simp only [writes, taken, beforehand, checked]
              rfl
            · rename_i metadata order checked
              simp only [writes, taken, beforehand, checked]
              exact store_beginBoxOrder ..

/-- The store after a step is what the writes of the step make of it. -/
theorem store_step (deployment : Deployment) (move : Move) :
    (deployment.step move).1.world.store =
      deployment.world.store.writeAll (deployment.writes move) := by
  cases move with
  | arrive number service request freshId =>
      exact store_arrive ..
  | readBack number =>
      simp only [step, stepReadBack]
      split
      · rfl
      · split
        all_goals rfl
  | cutOff number =>
      simp only [step, stepCutOff]
      split
      · rfl
      · exact World.store_step deployment.world (.abandon number)
  | leave number =>
      simp only [step, stepLeave]
      split
      · rfl
      · exact World.store_step deployment.world (.abandon number)
  | announce position =>
      simp only [step, stepAnnounce]
      split
      · rfl
      · exact (store_stepQueue _ .dropHandle).trans (store_stepQueue _ (.submit _))
  | queue action =>
      exact store_stepQueue deployment action

theorem store_run (deployment : Deployment) (moves : List Move) :
    (deployment.run moves).1.world.store =
      deployment.world.store.writeAll (deployment.writesOf moves) := by
  induction moves generalizing deployment with
  | nil =>
      rfl
  | cons move rest inductionHypothesis =>
      rw [run_cons, writesOf, Store.writeAll_append, ← store_step]
      exact inductionHypothesis _

/-- A change comes with an order, is the record of a view, or is made directly. -/
theorem mem_writes_cases {move : Move} {write : StoreWrite}
    (member : write ∈ deployment.writes move) :
    (∃ number asked freshId metadata order, move = .arrive number .box asked freshId ∧
      deployment.isTaken number = false ∧ Reply.beforehand? asked = none ∧
      BoxOrder.ofRequest asked = ⟨metadata, .ok order⟩ ∧
      write ∈ order.writes freshId deployment.world.clock) ∨
    (∃ id now, write = .recordView id now) ∨
    move = .queue (.write write) := by
  cases move with
  | arrive number service asked freshId =>
      cases service with
      | box =>
          simp only [writes] at member
          split at member
          · cases member
          · rename_i begun
            rw [Bool.or_eq_true, not_or] at begun
            cases checked : BoxOrder.ofRequest asked with
            | mk metadata outcome =>
                rw [checked] at member
                cases outcome with
                | error fault =>
                    cases member
                | ok order =>
                    exact Or.inl ⟨number, asked, freshId, metadata, order, rfl,
                      eq_false_of_ne_true begun.1,
                      Option.not_isSome_iff_eq_none.1 begun.2, checked, member⟩
      | _ =>
          cases member
  | queue action =>
      cases action with
      | record call =>
          simp only [writes, World.writes] at member
          split at member
          · split at member
            · exact Or.inr (Or.inl ⟨_, _, List.mem_singleton.1 member⟩)
            · cases member
          · cases member
      | write direct =>
          rw [List.mem_singleton.1 member]
          exact Or.inr (Or.inr rfl)
      | _ =>
          cases member
  | _ =>
      cases member

/-- The services delete no box. -/
theorem undeleted_writes {move : Move} (undeleted : move ≠ .queue (.write (.delete id))) :
    .delete id ∉ deployment.writes move := by
  intro member
  rcases mem_writes_cases member with ⟨_, _, _, _, order, _, _, _, _, ordered⟩ |
    ⟨_, _, recorded⟩ | direct
  · cases order with
    | create draft =>
        cases List.mem_singleton.1 ordered
    | react reactions =>
        simp only [BoxOrder.writes] at ordered
        split at ordered
        · cases ordered
        · cases List.mem_singleton.1 ordered
    | view =>
        cases ordered
  · cases recorded
  · exact undeleted direct

theorem undeleted_writesOf {moves : List Move}
    (undeleted : .queue (.write (.delete id)) ∉ moves) :
    .delete id ∉ deployment.writesOf moves := by
  induction moves generalizing deployment with
  | nil =>
      exact List.not_mem_nil
  | cons move rest inductionHypothesis =>
      rw [List.mem_cons, not_or] at undeleted
      rw [writesOf, List.mem_append, not_or]
      exact ⟨undeleted_writes (Ne.symm undeleted.1), inductionHypothesis undeleted.2⟩

end Deployment

end StalestFirst
