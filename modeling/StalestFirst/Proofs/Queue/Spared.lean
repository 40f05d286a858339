import Mathlib
import StalestFirst.Proofs.Queue.Schedule
import StalestFirst.Proofs.Queue.Stages

namespace StalestFirst

/-! ## A world without some of its rebuilds

If some rebuilds never have a listing, the queue is as it would be without them. Only the
numbers of the others would be lower. -/

/-- The step is one that the loop takes while it runs. -/
def Action.isOfLoop : Action → Bool
  | .take | .apply | .fireTimer | .observe | .stop => true
  | _ => false

/-- The step may move the loop or the items that wait for it. -/
def Action.movesLoop : Action → Bool
  | .submit _ | .spawn | .dropLoop => true
  | action => action.isOfLoop

namespace World

/-! ### Whose step it is -/

/-- The rebuild that a step belongs to. -/
def rebuildOf? (world : World) : Action → Option Nat
  | .list number | .panic number | .receive number | .install number | .announce number =>
      some number
  | .fireTimer => some world.started
  | .observe => world.loop.inFlight?
  | _ => none

end World

/-! ### Other numbers

Without some of the rebuilds the others have lower numbers. -/

/-- The number of a rebuild if the given ones are not counted. -/
def Rebuild.rank (futile : Nat → Bool) (number : Nat) : Nat :=
  Nat.count (fun other => futile other = false) number

/-- The rebuild with its number among those that are counted. -/
def Rebuild.renumber (futile : Nat → Bool) (rebuild : Rebuild) : Rebuild :=
  { rebuild with number := rank futile rebuild.number }

/-- The step with the new number of its rebuild. -/
def Action.renumber (futile : Nat → Bool) : Action → Action
  | .list number => .list (Rebuild.rank futile number)
  | .panic number => .panic (Rebuild.rank futile number)
  | .receive number => .receive (Rebuild.rank futile number)
  | .install number => .install (Rebuild.rank futile number)
  | .announce number => .announce (Rebuild.rank futile number)
  | action => action

namespace Rebuild

variable {futile : Nat → Bool} {number other : Nat}

theorem rank_succ_of_futile (isFutile : futile number = true) :
    rank futile (number + 1) = rank futile number := by
  rw [rank, Nat.count_succ, if_neg (by simp [isFutile])]
  rfl

theorem rank_succ_of_kept (kept : futile number = false) :
    rank futile (number + 1) = rank futile number + 1 := by
  rw [rank, Nat.count_succ, if_pos kept]
  rfl

theorem rank_eq_iff (kept : futile number = false) (otherKept : futile other = false) :
    rank futile number = rank futile other ↔ number = other :=
  ⟨fun same => Nat.count_injective kept otherKept same, congrArg (rank futile)⟩

theorem beq_rank (kept : futile number = false) (otherKept : futile other = false) :
    (rank futile number == rank futile other) = (number == other) := by
  rw [Bool.eq_iff_iff, beq_iff_eq, beq_iff_eq, rank_eq_iff kept otherKept]

/-- The rebuilds that are counted, with their new numbers. -/
def counted (futile : Nat → Bool) (rebuilds : List Rebuild) : List Rebuild :=
  (rebuilds.filter fun rebuild => !futile rebuild.number).map (renumber futile)

theorem counted_nil : counted futile [] = [] :=
  rfl

theorem counted_cons_of_kept {first : Rebuild} (kept : futile first.number = false)
    (rest : List Rebuild) :
    counted futile (first :: rest) = first.renumber futile :: counted futile rest := by
  rw [counted, List.filter_cons_of_pos (by simp [kept]), List.map_cons, counted]

theorem counted_cons_of_futile {first : Rebuild} (isFutile : futile first.number = true)
    (rest : List Rebuild) : counted futile (first :: rest) = counted futile rest := by
  rw [counted, List.filter_cons_of_neg (by simp [isFutile]), counted]

theorem counted_append (rebuilds others : List Rebuild) :
    counted futile (rebuilds ++ others) = counted futile rebuilds ++ counted futile others := by
  rw [counted, List.filter_append, List.map_append, counted, counted]

theorem find?_counted (kept : futile number = false) (rebuilds : List Rebuild) :
    (counted futile rebuilds).find? (fun rebuild => rebuild.number == rank futile number) =
      (rebuilds.find? fun rebuild => rebuild.number == number).map (renumber futile) := by
  rw [counted, List.find?_map, List.find?_filter]
  congr 2
  funext rebuild
  cases isFutile : futile rebuild.number with
  | true =>
      have different : rebuild.number ≠ number := by
        intro same
        rw [same, kept] at isFutile
        cases isFutile
      simp [different]
  | false =>
      simp only [Bool.not_false, true_and, Bool.decide_eq_true]
      exact beq_rank isFutile kept

/-- An observed rebuild is gone on both sides. -/
theorem counted_filter_of_kept (kept : futile number = false) (rebuilds : List Rebuild) :
    counted futile (rebuilds.filter fun rebuild => rebuild.number != number) =
      (counted futile rebuilds).filter fun rebuild => rebuild.number != rank futile number := by
  rw [counted, counted, List.filter_map, List.filter_filter, List.filter_filter]
  congr 1
  apply List.filter_congr
  intro rebuild member
  cases isFutile : futile rebuild.number with
  | true =>
      simp
  | false =>
      simpa [renumber, bne] using (beq_rank isFutile kept).symm

theorem counted_filter_of_futile (isFutile : futile number = true) (rebuilds : List Rebuild) :
    counted futile (rebuilds.filter fun rebuild => rebuild.number != number) =
      counted futile rebuilds := by
  rw [counted, counted, List.filter_filter]
  congr 1
  apply List.filter_congr
  intro rebuild member
  by_cases same : rebuild.number = number
  · simp [same, isFutile]
  · simp [same]

/-- A rebuild that goes to another stage does so under its new number. -/
theorem counted_stage_of_kept (kept : futile number = false) (stage : Stage)
    (rebuilds : List Rebuild) :
    counted futile (rebuilds.map fun rebuild =>
        if rebuild.number = number then { rebuild with stage } else rebuild) =
      (counted futile rebuilds).map fun rebuild =>
        if rebuild.number = rank futile number then { rebuild with stage } else rebuild := by
  induction rebuilds with
  | nil =>
      rfl
  | cons first rest inductionHypothesis =>
      rw [List.map_cons]
      cases isFutile : futile first.number with
      | true =>
          have different : first.number ≠ number := by
            intro same
            rw [same, kept] at isFutile
            cases isFutile
          rw [if_neg different, counted_cons_of_futile isFutile, counted_cons_of_futile isFutile,
            inductionHypothesis]
      | false =>
          rw [counted_cons_of_kept isFutile, List.map_cons, ← inductionHypothesis]
          by_cases same : first.number = number
          · have sameRank : (first.renumber futile).number = rank futile number :=
              congrArg (rank futile) same
            have moved : futile (Rebuild.mk first.number stage).number = false := isFutile
            rw [if_pos same, if_pos sameRank, counted_cons_of_kept moved]
            rfl
          · have otherRank : (first.renumber futile).number ≠ rank futile number :=
              fun sameRank => same ((rank_eq_iff isFutile kept).1 sameRank)
            rw [if_neg same, if_neg otherRank, counted_cons_of_kept isFutile]

theorem counted_stage_of_futile (isFutile : futile number = true) (stage : Stage)
    (rebuilds : List Rebuild) :
    counted futile (rebuilds.map fun rebuild =>
        if rebuild.number = number then { rebuild with stage } else rebuild) =
      counted futile rebuilds := by
  induction rebuilds with
  | nil =>
      rfl
  | cons first rest inductionHypothesis =>
      rw [List.map_cons]
      by_cases same : first.number = number
      · have firstFutile : futile first.number = true := by
          rw [same]
          exact isFutile
        have moved : futile (Rebuild.mk first.number stage).number = true := firstFutile
        rw [if_pos same, counted_cons_of_futile moved, counted_cons_of_futile firstFutile,
          inductionHypothesis]
      · rw [if_neg same]
        cases futileFirst : futile first.number with
        | true =>
            rw [counted_cons_of_futile futileFirst, counted_cons_of_futile futileFirst,
              inductionHypothesis]
        | false =>
            rw [counted_cons_of_kept futileFirst, counted_cons_of_kept futileFirst,
              inductionHypothesis]

end Rebuild

namespace World

variable {world : World} {futile : Nat → Bool} {loop : Loop} {buffer : List Item}

/-! ### The world without them -/

/-- The world without the given rebuilds. Its loop is another one, and so may be the items
that wait for it. -/
def spared (world : World) (futile : Nat → Bool) (loop : Loop) (buffer : List Item) : World :=
  { world with
    loop := loop
    buffer := buffer
    rebuilds := Rebuild.counted futile world.rebuilds
    started := Rebuild.rank futile world.started }

theorem rebuild?_spared {number : Nat} (kept : futile number = false) :
    (world.spared futile loop buffer).rebuild? (Rebuild.rank futile number) =
      (world.rebuild? number).map (Rebuild.renumber futile) :=
  Rebuild.find?_counted kept world.rebuilds

theorem finished_spared {number found : Nat} {outcome : Outcome} (kept : futile number = false)
    (finished : world.rebuild? number = some ⟨found, .ended outcome⟩) :
    (world.spared futile loop buffer).rebuild? (Rebuild.rank futile number) =
      some ⟨Rebuild.rank futile found, .ended outcome⟩ := by
  rw [rebuild?_spared kept, finished]
  rfl

theorem setStage_spared (world : World) {number : Nat} (kept : futile number = false)
    (stage : Stage) :
    (world.spared futile loop buffer).setStage (Rebuild.rank futile number) stage =
      (world.setStage number stage).spared futile loop buffer := by
  simp only [setStage, spared, Rebuild.counted_stage_of_kept kept]

theorem spared_setStage {number : Nat} (isFutile : futile number = true) (stage : Stage) :
    (world.setStage number stage).spared futile loop buffer =
      world.spared futile loop buffer := by
  simp only [setStage, spared, Rebuild.counted_stage_of_futile isFutile]

/-! ### One step of others

The steps of retrievals, and changes from outside, are the same in both worlds. -/

theorem step_spared_call (call : Nat) :
    (world.spared futile loop buffer).stepCall call =
      ((world.stepCall call).1.spared futile loop buffer, (world.stepCall call).2) := by
  have sameHandles : (world.spared futile loop buffer).handles = world.handles := rfl
  have sameReady : (world.spared futile loop buffer).ready = world.ready := rfl
  have sameCalling : (world.spared futile loop buffer).calling call = world.calling call := rfl
  simp only [stepCall, sameHandles, sameReady, sameCalling]
  split
  · rfl
  · split
    · rfl
    · rfl

theorem step_spared_enter (call number : Nat) :
    (world.spared futile loop buffer).stepEnter call number =
      ((world.stepEnter call number).1.spared futile loop buffer,
        (world.stepEnter call number).2) := by
  have sameWaiting : (world.spared futile loop buffer).waiting = world.waiting := rfl
  have sameVisit : (world.spared futile loop buffer).visit = world.visit := rfl
  have sameShelf : (world.spared futile loop buffer).shelf = world.shelf := rfl
  have sameWindow : (world.spared futile loop buffer).window = world.window := rfl
  simp only [stepEnter, sameWaiting, sameVisit, sameShelf, sameWindow]
  split
  · rfl
  · split
    · rfl
    · rfl

theorem step_spared_record (call : Nat) :
    (world.spared futile loop buffer).stepRecord call =
      ((world.stepRecord call).1.spared futile loop buffer, (world.stepRecord call).2) := by
  have sameVisit : (world.spared futile loop buffer).visit = world.visit := rfl
  simp only [stepRecord, sameVisit]
  split
  · rfl
  · split
    · rfl
    · rfl

theorem step_spared_expire (call : Nat) :
    (world.spared futile loop buffer).stepExpire call =
      ((world.stepExpire call).1.spared futile loop buffer, (world.stepExpire call).2) := by
  have sameCalling : (world.spared futile loop buffer).calling call = world.calling call := rfl
  simp only [stepExpire, sameCalling]
  split
  · rfl
  · rfl

/-! ### One step of a rebuild -/

/-- A rebuild that comes to nothing takes only such steps as go unnoticed. -/
theorem spared_step_of_futile {action : Action} {number : Nat}
    (aside : action.movesLoop = false) (own : world.rebuildOf? action = some number)
    (isFutile : futile number = true)
    (noListing : ∀ rebuild ∈ world.rebuilds, rebuild.number = number →
      rebuild.stage.succeeds = false) :
    (world.step action).1.spared futile loop buffer = world.spared futile loop buffer := by
  have unlisted {found : Nat} {stage : Stage}
      (present : world.rebuild? number = some ⟨found, stage⟩) : stage.succeeds = false := by
    obtain ⟨member, named⟩ := rebuild?_eq_some present
    exact noListing _ member named
  cases action with
  | list other =>
      cases own
      simp only [step, stepList]
      split
      · exact spared_setStage isFutile _
      · rfl
  | panic other =>
      cases own
      simp only [step, stepPanic]
      split
      · exact spared_setStage isFutile _
      · rfl
  | receive other =>
      cases own
      simp only [step, stepReceive]
      split
      · exact spared_setStage isFutile _
      · exact spared_setStage isFutile _
      · rfl
  | install other =>
      cases own
      simp only [step, stepInstall]
      split
      · rename_i free arrived
        cases unlisted arrived
      · rfl
  | announce other =>
      cases own
      simp only [step, stepAnnounce]
      split
      · rename_i swapped
        cases unlisted swapped
      · rfl
  | fireTimer =>
      cases aside
  | observe =>
      cases aside
  | _ =>
      cases own

theorem step_spared_list {number : Nat} (kept : futile number = false) :
    ((world.spared futile loop buffer).stepList (Rebuild.rank futile number)).1 =
      (world.stepList number).1.spared futile loop buffer := by
  have sameStore : (world.spared futile loop buffer).store = world.store := rfl
  simp only [stepList, rebuild?_spared kept, sameStore]
  cases world.rebuild? number with
  | none =>
      rfl
  | some rebuild =>
      obtain ⟨found, stage⟩ := rebuild
      cases stage with
      | begun =>
          exact setStage_spared world kept _
      | _ =>
          rfl

theorem step_spared_panic {number : Nat} (kept : futile number = false) :
    ((world.spared futile loop buffer).stepPanic (Rebuild.rank futile number)).1 =
      (world.stepPanic number).1.spared futile loop buffer := by
  simp only [stepPanic, rebuild?_spared kept]
  cases world.rebuild? number with
  | none =>
      rfl
  | some rebuild =>
      obtain ⟨found, stage⟩ := rebuild
      cases stage with
      | begun =>
          exact setStage_spared world kept _
      | _ =>
          rfl

theorem step_spared_receive {number : Nat} (kept : futile number = false) :
    ((world.spared futile loop buffer).stepReceive (Rebuild.rank futile number)).1 =
      (world.stepReceive number).1.spared futile loop buffer := by
  simp only [stepReceive, rebuild?_spared kept]
  cases world.rebuild? number with
  | none =>
      rfl
  | some rebuild =>
      obtain ⟨found, stage⟩ := rebuild
      cases stage with
      | listed result =>
          cases result with
          | ok listing =>
              exact setStage_spared world kept _
          | error fault =>
              exact setStage_spared world kept _
      | _ =>
          rfl

theorem step_spared_install {number : Nat} (kept : futile number = false) :
    ((world.spared futile loop buffer).stepInstall (Rebuild.rank futile number)).1 =
      (world.stepInstall number).1.spared futile loop buffer := by
  have sameVisit : (world.spared futile loop buffer).visit = world.visit := rfl
  simp only [stepInstall, rebuild?_spared kept, sameVisit]
  cases world.visit with
  | some visit =>
      rfl
  | none =>
      cases world.rebuild? number with
      | none =>
          rfl
      | some rebuild =>
          obtain ⟨found, stage⟩ := rebuild
          cases stage with
          | arrived listing =>
              exact setStage_spared
                { world with shelf := world.shelf.install listing, visit := none }
                kept _
          | _ =>
              rfl

theorem step_spared_announce {number : Nat} (kept : futile number = false) :
    ((world.spared futile loop buffer).stepAnnounce (Rebuild.rank futile number)).1 =
      (world.stepAnnounce number).1.spared futile loop buffer := by
  simp only [stepAnnounce, rebuild?_spared kept]
  cases world.rebuild? number with
  | none =>
      rfl
  | some rebuild =>
      obtain ⟨found, stage⟩ := rebuild
      cases stage with
      | swapped count =>
          exact setStage_spared { world with ready := true } kept _
      | _ =>
          rfl

/-- All other steps of rebuilds, of retrievals and from outside are the same in both
worlds. -/
theorem step_spared {action : Action} (aside : action.movesLoop = false)
    (kept : ∀ number, world.rebuildOf? action = some number → futile number = false) :
    ((world.spared futile loop buffer).step (action.renumber futile)).1 =
      (world.step action).1.spared futile loop buffer := by
  cases action with
  | call call =>
      exact congrArg Prod.fst (step_spared_call call)
  | enter call number =>
      exact congrArg Prod.fst (step_spared_enter call number)
  | record call =>
      exact congrArg Prod.fst (step_spared_record call)
  | expire call =>
      exact congrArg Prod.fst (step_spared_expire call)
  | cloneHandle =>
      have sameHandles : (world.spared futile loop buffer).handles = world.handles := rfl
      simp only [Action.renumber, step, sameHandles]
      split
      · rfl
      · rfl
  | list number =>
      exact step_spared_list (kept number rfl)
  | panic number =>
      exact step_spared_panic (kept number rfl)
  | receive number =>
      exact step_spared_receive (kept number rfl)
  | install number =>
      exact step_spared_install (kept number rfl)
  | announce number =>
      exact step_spared_announce (kept number rfl)
  | abandon | cancel | dropHandle | write | setClock | pass =>
      rfl
  | submit | spawn | dropLoop | take | apply | fireTimer | observe | stop =>
      cases aside

end World

end StalestFirst
