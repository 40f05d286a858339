import Mathlib
import StalestFirst.Proofs.Queue.Stale
import StalestFirst.Proofs.Service.Driving
import StalestFirst.Proofs.Service.Envelopes

namespace StalestFirst

namespace Deployment

/-! ## Boxes that are created -/

variable {deployment : Deployment} {number : Nat} {request : Http.Request}
  {freshId : String} {draft : BoxDraft} {response : Http.Response}

theorem status_beforehand? (early : Reply.beforehand? request = some response) :
    response.status ≠ 200 := by
  unfold Reply.beforehand? at early
  split at early
  · split at early
    · cases early
      exact Nat.ne_of_beq_eq_false rfl
    · cases early
  · cases early
    exact Nat.ne_of_beq_eq_false rfl

/-- A request to make a box succeeds only if the box is stored. -/
theorem exists_created_of_replied
    (creates : (BoxOrder.ofRequest request).outcome = .ok (.create draft))
    (replied : .replied number response ∈
      (deployment.stepArrive number .box request freshId).2)
    (success : response.status = 200) :
    ∃ grown box,
      BoxService.create deployment.world.store draft freshId deployment.world.clock =
        .ok (grown, box) ∧
      (deployment.stepArrive number .box request freshId).1.world =
        (({ deployment.world with store := grown } : World).step .cloneHandle).1 := by
  unfold stepArrive at replied ⊢
  split at replied
  · cases replied
  · rename_i free
    rw [if_neg free]
    unfold meet at replied ⊢
    dsimp only at replied ⊢
    cases early : Reply.beforehand? request with
    | some first =>
        rw [early] at replied
        cases List.mem_singleton.1 replied
        rw [Http.Response.status_forMethod] at success
        exact absurd success (status_beforehand? early)
    | none =>
        rw [early] at replied
        cases checked : BoxOrder.ofRequest request with
        | mk metadata outcome =>
            rw [checked] at creates replied
            cases creates
            unfold beginBoxOrder at replied ⊢
            dsimp only at replied ⊢
            cases made : BoxService.create deployment.world.store draft freshId
                deployment.world.clock with
            | error failure =>
                rw [made] at replied
                cases List.mem_singleton.1 replied
                rw [Http.Response.status_forMethod] at success
                have refused := BoxService.isSuccess_create made
                change (Refusal.ofFailure failure).status = 200 at success
                rw [success] at refused
                cases refused
            | ok stored =>
                exact ⟨stored.1, stored.2, rfl, rfl⟩

theorem awaiting_of_created {grown : Store} {box : MessageBox}
    (filed : deployment.world.store.Filed)
    (created : BoxService.create deployment.world.store draft freshId
      deployment.world.clock = .ok (grown, box)) :
    (({ deployment.world with store := grown } : World).step .cloneHandle).1.Awaiting freshId
      deployment.world.Pending := by
  obtain ⟨rfl, inserted⟩ := BoxService.create_eq_ok created
  obtain ⟨_, _, put⟩ := Store.insert_eq_ok_iff.1 inserted
  have stored : ({ deployment.world with store := grown } : World).Awaiting freshId
      deployment.world.Pending := by
    refine ⟨put ▸ filed.put rfl, ?_, fun rebuild listing pending => Or.inr ?_⟩
    · rw [← put, Store.lastView?_put]
      exact congrArg Option.isSome (if_pos rfl)
    · exact pending.of_same rfl
  exact World.awaiting_step nofun stored

/-- Suppose that a box is made and stored, the queue applies an item for it, and nobody
deletes it. Then the box is in the pool from there on, unless a listing without it that
was already on its way before the box was made is installed. It then stays out until an
event admits it, such as the installation of a listing that names it. -/
theorem created_stays_iff (settings : QueueSettings)
    (writes : List StoreWrite) (clock : Moment) (before between after : List Move)
    (number : Nat) (request : Http.Request) (freshId : String) (draft : BoxDraft)
    (response : Http.Response) (item : Item) :
    let asked := ((ofWorld (World.start settings (Store.ofWrites writes) clock)).run before).1
    let created := asked.step (.arrive number .box request freshId)
    let told := (created.1.run between).1
    let applied := told.step (.queue .apply)
    let last := applied.1.run after
    (BoxOrder.ofRequest request).outcome = .ok (.create draft) →
    .replied number response ∈ created.2 → response.status = 200 →
    applied.2 = [.queue (.applied item)] → item.id = freshId →
    .queue (.write (.delete freshId)) ∉ between ++ after →
    (last.1.world.shelf.pool.contains freshId = true ↔
      ¬ ∃ front rebuild listing back,
        last.2.filterMap Notice.event? = front ++ .installed rebuild listing :: back ∧
        asked.world.Pending rebuild listing ∧
        (∀ viewed ∈ listing, viewed.id ≠ freshId) ∧
        ∀ event ∈ back, ¬ event.Admits freshId) := by
  intro asked created told applied last creates replied success appliedItem sameId undeleted
  have filed : asked.world.store.Filed := by
    obtain ⟨actions, drives, _⟩ :=
      exists_drives_run (ofWorld (World.start settings (Store.ofWrites writes) clock)) before
    rw [drives.world]
    exact World.run_invariant_of_all World.filed_step actions (Store.filed_ofWrites writes)
  obtain ⟨grown, box, made, world⟩ := exists_created_of_replied creates replied success
  have awaited : created.1.world.Awaiting freshId asked.world.Pending := by
    change (asked.stepArrive number .box request freshId).1.world.Awaiting _ _
    rw [world]
    exact awaiting_of_created filed made
  have toldAwaiting : told.world.Awaiting freshId asked.world.Pending := by
    obtain ⟨actions, drives, kept⟩ := exists_drives_run_undeleted
      fun member => undeleted (List.mem_append_left after member)
    rw [drives.world]
    exact World.awaiting_run kept awaited
  -- The item puts the box into the pool.
  have drivesApply := drives_stepQueue told .apply
  have appliedWorld : applied.1.world = (told.world.step .apply).1 := drivesApply.world
  have seen : (told.world.step .apply).2 = [.applied item] := by
    have events := drivesApply.events
    rw [World.run_cons, World.run_nil, List.append_nil] at events
    rw [← events]
    change applied.2.filterMap Notice.event? = _
    rw [appliedItem]
    rfl
  have contained : applied.1.world.shelf.pool.contains freshId = true := by
    rw [appliedWorld, World.contains_step_iff toldAwaiting.viewed, seen]
    exact Or.inl ⟨.applied item, List.mem_singleton_self _, sameId⟩
  have appliedAwaiting : applied.1.world.Awaiting freshId asked.world.Pending := by
    rw [appliedWorld]
    exact World.awaiting_step nofun toldAwaiting
  obtain ⟨actions, drives, kept⟩ := exists_drives_run_undeleted
    fun member => undeleted (List.mem_append_right between member)
  rw [drives.world, drives.events, iff_not_comm, iff_comm]
  refine (World.not_contains_run_iff kept appliedAwaiting).trans ?_
  exact or_iff_left fun missing => missing.1 contained

/-- The queue becomes ready, and a quarter of an hour later it makes its next listing. -/
def listedAgain : List Move :=
  [.queue .spawn, .queue .fireTimer, .queue (.list 0), .queue (.receive 0),
    .queue (.install 0), .queue (.announce 0), .queue .observe, .queue (.pass 900000),
    .queue .fireTimer, .queue (.list 1)]

/-- That listing is installed. -/
def installedAgain : List Move := [.queue (.receive 1), .queue (.install 1)]

theorem created_stays_iff_listedAgain :
    let asked := (overOneBox.run listedAgain).1
    let created := asked.step (.arrive 0 .box requestToCreate "b")
    let told := (created.1.run [.announce 0, .queue .take]).1
    let applied := told.step (.queue .apply)
    let last := applied.1.run installedAgain
    (BoxOrder.ofRequest requestToCreate).outcome = .ok (.create ⟨"hello"⟩) ∧
    (∃ response, .replied 0 response ∈ created.2 ∧ response.status = 200) ∧
    applied.2 = [.queue (.applied ⟨"b", 0⟩)] ∧
    .queue (.write (.delete "b")) ∉ [.announce 0, .queue .take] ++ installedAgain ∧
    ∃ front rebuild listing back,
      last.2.filterMap Notice.event? = front ++ .installed rebuild listing :: back ∧
      asked.world.Pending rebuild listing ∧ (∀ viewed ∈ listing, viewed.id ≠ "b") ∧
      ∀ event ∈ back, ¬ event.Admits "b" := by
  intro asked created told applied last
  have creates : (BoxOrder.ofRequest requestToCreate).outcome =
      .ok (.create ⟨"hello"⟩) := by
    cbv
  have answered : (created.2.findSome? (Notice.responseTo? 0)).map (·.status) = some 200 := by
    decide +kernel
  obtain ⟨response, found, success⟩ := Option.map_eq_some_iff.1 answered
  obtain ⟨notice, replied, brings⟩ := List.exists_of_findSome?_eq_some found
  rw [Notice.eq_of_responseTo? brings] at replied
  have taken : told.world.loop = .running 900000 (some 1) (some ⟨"b", 0⟩) := by
    decide +kernel
  have free : told.world.visit = none := by
    decide +kernel
  have appliedItem : applied.2 = [.queue (.applied ⟨"b", 0⟩)] := by
    change (told.stepQueue .apply).2 = _
    simp only [stepQueue, World.step, World.stepApply, taken, free]
    rfl
  have undeleted : .queue (.write (.delete "b")) ∉
      [.announce 0, .queue .take] ++ installedAgain := by
    simp [installedAgain]
  have lost : last.1.world.shelf.pool.contains "b" ≠ true := by
    decide +kernel
  have stays := created_stays_iff .standard
    [.insert (MessageBox.create "a" "" Moment.epoch)] Moment.epoch listedAgain
    [.announce 0, .queue .take] installedAgain 0 requestToCreate "b" ⟨"hello"⟩ response
    ⟨"b", 0⟩ creates replied success appliedItem rfl undeleted
  exact ⟨creates, ⟨response, replied, success⟩, appliedItem, undeleted,
    not_not.1 (mt stays.2 lost)⟩

/-- A box that was made, stored and put into the pool is taken out of it by a listing
that was made before. -/
theorem created_box_taken_out :
    let created := (overOneBox.run listedAgain).1.step (.arrive 0 .box requestToCreate "b")
    let told := (created.1.run [.announce 0, .queue .take]).1
    let applied := (told.step (.queue .apply)).1
    let last := (applied.run installedAgain).1
    (∀ id, .queue (.write (.delete id)) ∉
      listedAgain ++ [.announce 0, .queue .take, .queue .apply] ++ installedAgain) ∧
    (created.2.findSome? (Notice.responseTo? 0)).map (·.status) = some 200 ∧
    told.world.shelf.pool.contains "b" = false ∧
    applied.world.shelf.pool.contains "b" = true ∧
    last.world.store.boxes.contains "b" = true ∧
    last.world.shelf.pool.contains "b" = false := by
  have undeleted : ∀ id, .queue (.write (.delete id)) ∉
      listedAgain ++ [.announce 0, .queue .take, .queue .apply] ++ installedAgain := by
    simp [listedAgain, installedAgain]
  exact ⟨undeleted, by decide +kernel, by decide +kernel, by decide +kernel,
    by decide +kernel, by decide +kernel⟩

end Deployment

end StalestFirst
