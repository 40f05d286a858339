import Mathlib
import StalestFirst.Proofs.Draw
import StalestFirst.Proofs.Queue.Exclusion
import StalestFirst.Proofs.Queue.Views

namespace StalestFirst.World

/-! ## The same box twice in a row

The shelf remembers the box that was served last, whatever else happens to it. So
that box is chosen again only when there is no other one. -/

variable {world : World}

/-- Only a recorded view serves a box: the one that the retrieval has chosen. -/
theorem recorded_of_served {action : Action} {call : Nat} {id : String}
    (seen : .answered call (.ok id) ∈ (world.step action).2) :
    ∃ visit, world.visit = some visit ∧ visit.call = call ∧ visit.chosen = id ∧
      action = .record call ∧ (world.step action).2 = [.answered call (.ok id)] := by
  have change := world.change action
  generalize (world.step action).1 = next at change
  generalize (world.step action).2 = events at change seen ⊢
  cases change with
  | aside idle alike silent =>
      cases silent _ seen
  | @records visit guarded =>
      have result := Store.recording world.store visit.chosen visit.viewedAt
      generalize world.store.recordView visit.chosen visit.viewedAt = answer
        at result seen ⊢
      cases result with
      | recorded found =>
          simp only [Except.map, Shelf.verdict, List.mem_singleton, Event.answered.injEq,
            Except.ok.injEq] at seen
          obtain ⟨rfl, rfl⟩ := seen
          exact ⟨visit, guarded, rfl, rfl, rfl, rfl⟩
      | missing absent =>
          simp [Except.map, Shelf.verdict] at seen
      | unreachable =>
          simp [Except.map, Shelf.verdict, Store.outage] at seen
  | leaves guarded leaving silent =>
      cases silent _ seen
  | observes waits finished silent =>
      rcases List.mem_cons.1 seen with same | later
      · cases same
      · cases silent _ later
  | _ =>
      simp at seen

/-- The shelf remembers whom a step has served, and otherwise what it remembered
before. -/
theorem lastServed_step (world : World) (action : Action) :
    (world.step action).1.shelf.lastServed =
      (served (world.step action).2).getLast?.or world.shelf.lastServed := by
  have change := world.change action
  generalize (world.step action).1 = next at change ⊢
  generalize (world.step action).2 = events at change ⊢
  cases change with
  | aside idle alike silent =>
      rw [alike.shelf, served_of_silent silent]
      rfl
  | @records visit guarded =>
      dsimp only
      have result := Store.recording world.store visit.chosen visit.viewedAt
      generalize world.store.recordView visit.chosen visit.viewedAt = answer at result ⊢
      cases result with
      | recorded found =>
          rfl
      | missing absent =>
          rfl
      | unreachable =>
          rfl
  | leaves guarded leaving silent =>
      rw [served_of_silent silent]
      rfl
  | @observes _ number _ outcome _ _ events waits finished silent =>
      have none : served (.observed number outcome world.now :: events) = served events :=
        rfl
      rw [none, served_of_silent silent]
      rfl
  | _ =>
      rfl

theorem lastServed_run (world : World) (actions : List Action) :
    (world.run actions).1.shelf.lastServed =
      (served (world.run actions).2).getLast?.or world.shelf.lastServed := by
  induction actions generalizing world with
  | nil =>
      rfl
  | cons action rest inductionHypothesis =>
      rw [run_cons, inductionHypothesis, lastServed_step, served_append,
        List.getLast?_append, Option.or_assoc]

theorem shelf_enter (world : World) (call number : Nat) :
    (world.step (.enter call number)).1.shelf = world.shelf := by
  simp only [step, stepEnter]
  split
  · rfl
  · split
    · rfl
    · rfl

/-- In every run, whatever is submitted, installed or removed, however the store
answers and whatever the clock says: when two servings with no other one between them
are of the same box, the pool had no other box at the moment when the second one was
chosen. -/
theorem servedAgain_only_alone (settings : QueueSettings) (store : Store)
    (clock : Moment) (actions : List Action) (earlier between later : List Event)
    (call again : Nat) (id : String) :
    let first := start settings store clock
    (first.run actions).2 =
      earlier ++ .answered call (.ok id) :: between ++
        .answered again (.ok id) :: later →
    served between = [] →
    ∃ before number during after viewedAt,
      actions = before ++ .enter again number :: during ++ .record again :: after ∧
      (first.run (before ++ .enter again number :: during)).2 =
        earlier ++ .answered call (.ok id) :: between ∧
      ((first.run before).1.step (.enter again number)).1.visit =
        some ⟨again, id, viewedAt⟩ ∧
      (∀ action ∈ during, action.ends again = false) ∧
      ∀ other, (first.run before).1.shelf.pool.contains other = true → other = id := by
  intro first seen unserved
  obtain ⟨early, action, after, front, back, rfl, ofStep, past⟩ :=
    exists_step_of_seen seen
  obtain ⟨visit, guarded, rfl, rfl, rfl, whole⟩ :=
    recorded_of_served (ofStep ▸ List.mem_append_right front (List.mem_cons_self ..))
  -- The view is all that is seen of its step, so the run before ends with the past.
  have noFront : front = [] := by
    rw [whole] at ofStep
    exact (List.singleton_eq_append_iff.1 ofStep).elim (fun both => both.1)
      fun both => absurd both.2 (by simp)
  rw [noFront, List.append_nil] at past
  obtain ⟨before, number, during, rfl, begun, chose, goesOn⟩ :=
    guards_since_enter rfl guarded
  have remembered :
      (first.run (before ++ .enter visit.call number :: during)).1.shelf.lastServed =
        some visit.chosen := by
    have servings : served (earlier ++ .answered call (.ok visit.chosen) :: between) =
        served earlier ++ [visit.chosen] := by
      rw [← unserved, served_append]
      rfl
    rw [lastServed_run, ← past, servings, List.getLast?_concat]
    rfl
  -- The shelf has not changed since the choice.
  have sameShelf : (first.run (before ++ .enter visit.call number :: during)).1.shelf =
      (first.run before).1.shelf := by
    rw [run_append, run_cons]
    exact (guarded_run chose goesOn).2.1.trans (shelf_enter ..)
  have couldChoose : (first.run (before ++ .enter visit.call number :: during)).1.Drawn :=
    run_invariant_of_all drawn_step _ fun _ none => nomatch none
  obtain ⟨drawNumber, drawn⟩ := couldChoose visit guarded
  rw [Shelf.draw, remembered, sameShelf] at drawn
  refine ⟨before, number, during, after, visit.viewedAt, by simp, past.symm, chose, goesOn,
    fun other contained => ?_⟩
  exact Window.eq_of_draw_again drawn contained

/-- The first of two boxes is served. The second one is deleted and drops out when it
is chosen. Then a score is submitted for the first one, and it is served again. -/
def otherGone : List Action :=
  [.spawn, .fireTimer, .list 0, .receive 0, .install 0, .announce 0, .observe,
    .call 0, .enter 0 0, .record 0, .write (.delete "b"), .call 1, .enter 1 0, .record 1,
    .submit ⟨"a", 7⟩, .take, .apply, .call 2, .enter 2 0, .record 2]

theorem servedAgain_only_alone_otherGone :
    let first := start ⟨900, 10, 1000, 0⟩ (Store.ofWrites
      [.insert (MessageBox.create "a" "" Moment.epoch),
        .insert (MessageBox.create "b" "" Moment.epoch)]) Moment.epoch
    let earlier : List Event :=
      [.started 0 0, .listed 0 (.ok [⟨"a", Moment.epoch⟩, ⟨"b", Moment.epoch⟩]),
        .installed 0 [⟨"a", Moment.epoch⟩, ⟨"b", Moment.epoch⟩],
        .observed 0 (.installed 2) 0]
    let between : List Event :=
      [.answered 1 (.error (.boxNotFound "b")), .accepted ⟨"a", 7⟩, .applied ⟨"a", 7⟩]
    (first.run otherGone).2 = earlier ++ .answered 0 (.ok "a") :: between ++
        .answered 2 (.ok "a") :: [] ∧
      served between = [] ∧
      ∃ before number during after viewedAt,
        otherGone = before ++ .enter 2 number :: during ++ .record 2 :: after ∧
        (first.run (before ++ .enter 2 number :: during)).2 =
          earlier ++ .answered 0 (.ok "a") :: between ∧
        ((first.run before).1.step (.enter 2 number)).1.visit =
          some ⟨2, "a", viewedAt⟩ ∧
        (∀ action ∈ during, action.ends 2 = false) ∧
        ∀ other, (first.run before).1.shelf.pool.contains other = true → other = "a" := by
  intro first earlier between
  have seen : (first.run otherGone).2 = earlier ++ .answered 0 (.ok "a") :: between ++
      .answered 2 (.ok "a") :: [] := by
    cbv
  exact ⟨seen, rfl, servedAgain_only_alone ⟨900, 10, 1000, 0⟩ _ Moment.epoch otherGone
    earlier between [] 0 2 "a" seen rfl⟩

end StalestFirst.World
