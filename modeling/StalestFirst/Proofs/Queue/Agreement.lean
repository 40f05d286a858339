import Mathlib
import StalestFirst.Proofs.Queue.InStep

namespace StalestFirst.World

/-! ## The pool agrees with the store

Where time only goes forward, a new view never lowers a score. So the pool stays in
step with the store in every run that changes the store by insertions alone. -/

variable {world next : World}

/-- Nothing is submitted, the store is changed from outside only by insertions,
reactions and outages, and time goes forward without leap seconds. No inserted box
was viewed in the future. -/
def Orderly (world : World) : Action → Prop
  | .submit _ | .write (.delete _) | .write (.recordView _ _) => False
  | .write (.insert box) => (world.store.insert box).isOk = true →
      ∀ moment ∈ box.lastViewed, moment.isLeap = false ∧ ¬ world.clock.Before moment
  | .setClock clock => clock.isLeap = false ∧ ¬ clock.Before world.clock
  | _ => True

instance (world : World) : (action : Action) → Decidable (world.Orderly action)
  | .submit _ | .write (.delete _) | .write (.recordView _ _) =>
      inferInstanceAs (Decidable False)
  | .write (.insert box) => inferInstanceAs (Decidable (_ →
      ∀ moment ∈ box.lastViewed, moment.isLeap = false ∧ ¬ world.clock.Before moment))
  | .setClock clock =>
      inferInstanceAs (Decidable (clock.isLeap = false ∧ ¬ clock.Before world.clock))
  | .call _ | .enter _ _ | .expire _ | .abandon _ | .take | .apply | .spawn | .dropLoop
  | .cancel | .cloneHandle | .dropHandle | .fireTimer | .observe | .stop | .list _
  | .panic _ | .receive _ | .install _ | .announce _ | .write (.react _ _)
  | .write (.setOffline _) | .pass _ | .record _ => inferInstanceAs (Decidable True)

/-- Time has gone forward without leap seconds. A retrieval looked at the clock after
the last view of the box that it has chosen. -/
structure Prompt (world : World) : Prop where
  clock : world.clock.isLeap = false
  stored : ∀ id moment, world.store.lastView? id = some moment →
    moment.isLeap = false ∧ ¬ world.clock.Before moment
  visit : ∀ visit, world.visit = some visit →
    visit.viewedAt.isLeap = false ∧ ¬ world.clock.Before visit.viewedAt ∧
      ∀ moment, world.store.lastView? visit.chosen = some moment →
        ¬ visit.viewedAt.Before moment

theorem prompt_start (settings : QueueSettings) {store : Store} {clock : Moment}
    (ordinary : clock.isLeap = false)
    (stored : ∀ id moment, store.lastView? id = some moment →
      moment.isLeap = false ∧ ¬ clock.Before moment) :
    (start settings store clock).Prompt where
  clock := ordinary
  stored := stored
  visit := by
    intro visit guarded
    cases guarded

/-- A retrieval never moves the last view of its box back. -/
theorem Prompt.forward (prompt : world.Prompt) {visit : Visit}
    (guarded : world.visit = some visit) {moment : Moment}
    (last : world.store.lastView? visit.chosen = some moment) :
    moment.score ≤ visit.viewedAt.score :=
  Moment.score_le_of_not_before (prompt.stored visit.chosen moment last).1
    (prompt.visit visit guarded).1 ((prompt.visit visit guarded).2.2 moment last)

/-- Time may go on, and the store may learn of views that are not in the future, but
not of the box that a retrieval has chosen. -/
private theorem Prompt.of_later (prompt : world.Prompt)
    (ordinary : next.clock.isLeap = false) (forward : ¬ next.clock.Before world.clock)
    (views : ∀ id moment, next.store.lastView? id = some moment →
      world.store.lastView? id = some moment ∨
        (moment.isLeap = false ∧ ¬ world.clock.Before moment))
    (guards : ∀ visit, next.visit = some visit → world.visit = some visit ∧
      next.store.lastView? visit.chosen = world.store.lastView? visit.chosen) :
    next.Prompt where
  clock := ordinary
  stored := by
    intro id moment last
    have before : moment.isLeap = false ∧ ¬ world.clock.Before moment :=
      (views id moment last).elim (prompt.stored id moment) fun fresh => fresh
    exact ⟨before.1, Moment.notBefore_trans before.2 forward⟩
  visit := by
    intro visit guarded
    obtain ⟨present, sameView⟩ := guards visit guarded
    obtain ⟨notLeap, notLater, afterLast⟩ := prompt.visit visit present
    rw [sameView]
    exact ⟨notLeap, Moment.notBefore_trans notLater forward, afterLast⟩

private theorem Prompt.of_same (prompt : world.Prompt)
    (sameClock : next.clock = world.clock) (sameStore : next.store = world.store)
    (guards : ∀ visit, next.visit = some visit → world.visit = some visit) :
    next.Prompt := by
  refine prompt.of_later (sameClock ▸ prompt.clock) ?_ ?_ ?_
  · rw [sameClock]
    exact Moment.Before.irrefl _
  · rw [sameStore]
    exact fun _ _ => Or.inl
  · rw [sameStore]
    exact fun visit guarded => ⟨guards visit guarded, rfl⟩

/-- A recorded view is that of the retrieval that guards the shelf. -/
theorem lastView?_of_record (visit : Visit) {id : String} {moment : Moment}
    (viewed : ((world.store.recordView visit.chosen visit.viewedAt).toOption.getD
      world.store).lastView? id = some moment) :
    world.store.lastView? id = some moment ∨ moment = visit.viewedAt := by
  have result := Store.recording world.store visit.chosen visit.viewedAt
  generalize world.store.recordView visit.chosen visit.viewedAt = answer
    at result viewed
  cases result with
  | @recorded stored found =>
      have inGrown : (world.store.put visit.chosen
          (stored.withView visit.viewedAt)).lastView? id = some moment := viewed
      rw [Store.lastView?_put] at inGrown
      split at inGrown
      · exact Or.inr (Option.some.inj inGrown).symm
      · exact Or.inl inGrown
  | missing absent =>
      exact Or.inl viewed
  | unreachable =>
      exact Or.inl viewed

theorem undisturbed_of_orderly (world : World) (action : Action)
    (orderly : world.Orderly action) : action.Undisturbed := by
  unfold Action.Undisturbed StoreWrite.Gentle
  split
  · split
    · exact orderly
    · exact orderly
    · trivial
  · trivial

/-- An insertion brings the view of the inserted box, if any, and no other change
from outside brings a view. -/
theorem lastView?_of_write {write : StoreWrite}
    (orderly : world.Orderly (.write write)) {id : String} {moment : Moment}
    (viewed : (write.apply world.store).lastView? id = some moment) :
    world.store.lastView? id = some moment ∨
      (moment.isLeap = false ∧ ¬ world.clock.Before moment) := by
  have gentle : write.Gentle := undisturbed_of_orderly world (.write write) orderly
  rcases Store.lastView?_of_gentle world.store gentle id with
    same | ⟨box, rfl, inserted, _, brought⟩
  · exact Or.inl (same.symm.trans viewed)
  · exact Or.inr (orderly inserted moment (brought.symm.trans viewed))

/-- An orderly step keeps time, and so does one that submits an item, if the store knows
of the boxes chosen. -/
theorem prompt_step {action : Action}
    (orderly : (∃ item, action = .submit item) ∨ world.Orderly action)
    (viewed : ∀ visit, world.visit = some visit →
      ∃ moment, world.store.lastView? visit.chosen = some moment)
    (prompt : world.Prompt) : (world.step action).1.Prompt := by
  have change := world.change action
  generalize (world.step action).1 = next at change ⊢
  generalize (world.step action).2 = events at change
  have still := Moment.Before.irrefl world.clock
  cases change with
  | aside idle alike silent =>
      refine prompt.of_same alike.clock alike.store ?_
      rw [alike.visit]
      exact fun _ => id
  | @enters call number chosen waits free drawn =>
      -- The clock is read when the box is chosen, after all views up to now.
      refine ⟨prompt.clock, prompt.stored, fun visit guarded => ?_⟩
      cases guarded
      exact ⟨prompt.clock, still, fun moment last => (prompt.stored chosen moment last).2⟩
  | findsNone waits free drawn =>
      refine prompt.of_same rfl rfl fun visit guarded => ?_
      simp [withoutCall, free] at guarded
  | @records visit guarded =>
      obtain ⟨notLeap, notLater, _⟩ := prompt.visit visit guarded
      refine prompt.of_later prompt.clock still (fun id moment last => ?_) ?_
      · rcases lastView?_of_record visit last with before | rfl
        · exact Or.inl before
        · exact Or.inr ⟨notLeap, notLater⟩
      · intro other present
        cases present
  | leaves guarded leaving silent =>
      refine prompt.of_same rfl rfl fun visit present => ?_
      simp [withoutCall, guarded, Option.filter] at present
  | writes write =>
      rcases orderly with ⟨item, other⟩ | orderly
      · cases other
      · refine prompt.of_later prompt.clock still
          (fun _ _ => lastView?_of_write orderly) fun visit guarded => ⟨guarded, ?_⟩
        -- The chosen box is in the store, so it cannot be inserted.
        obtain ⟨moment, last⟩ := viewed visit guarded
        have gentle : write.Gentle := undisturbed_of_orderly world (.write write) orderly
        rw [last]
        exact Store.extends_of_gentle world.store gentle _ _ last
  | setsClock clock =>
      rcases orderly with ⟨item, other⟩ | orderly
      · cases other
      · exact prompt.of_later orderly.1 orderly.2 (fun _ _ => Or.inl)
          fun _ guarded => ⟨guarded, rfl⟩
  | _ =>
      exact prompt.of_same rfl rfl fun _ => id

theorem tended_of_orderly {action : Action} (orderly : world.Orderly action)
    (inStep : world.InStep) (prompt : world.Prompt) : world.Tended action where
  unsubmitted := by
    rintro item rfl
    exact orderly
  undisturbed := undisturbed_of_orderly world action orderly
  forward := by
    intro visit grown score _ guarded _ pooled
    obtain ⟨moment, last, rfl⟩ := inStep.agrees visit.chosen score pooled
    exact prompt.forward guarded last

/-- Of the box that a retrieval has chosen, the store knows when it was viewed. -/
theorem InStep.viewed_chosen (inStep : world.InStep) (visit : Visit)
    (guarded : world.visit = some visit) :
    ∃ moment, world.store.lastView? visit.chosen = some moment := by
  obtain ⟨number, drawn⟩ := inStep.drawn visit guarded
  have contained := Window.contains_of_draw drawn
  exact Option.isSome_iff_exists.1 (inStep.agrees.viewed contained)

theorem inStep_of_orderly (settings : QueueSettings) {clock : Moment}
    (ordinary : clock.isLeap = false) {actions : List Action}
    (orderly : (start settings Store.empty clock).Along Orderly actions) :
    ((start settings Store.empty clock).run actions).1.InStep := by
  have kept (world : World) (action : Action) (allowed : world.Orderly action)
      (holds : world.InStep ∧ world.Prompt) :
      (world.step action).1.InStep ∧ (world.step action).1.Prompt :=
    ⟨inStep_step world action (tended_of_orderly allowed holds.1 holds.2) holds.1,
      prompt_step (Or.inr allowed) holds.1.viewed_chosen holds.2⟩
  have unviewed : ∀ id moment, Store.empty.lastView? id = some moment →
      moment.isLeap = false ∧ ¬ clock.Before moment := by
    intro id moment last
    cases last
  have first : (start settings Store.empty clock).InStep ∧
      (start settings Store.empty clock).Prompt :=
    ⟨inStep_start settings Store.filed_empty clock,
      prompt_start settings ordinary unviewed⟩
  exact (run_invariant kept orderly first).1

/-- In an orderly run the pool has each of its boxes with the score of its last view
in the store, whatever listings were on their way when views were recorded. And the
store has logged one view for each time that a box was served, after the one that
the box was inserted with, if any. -/
theorem run_agrees (settings : QueueSettings) (clock : Moment)
    (ordinary : clock.isLeap = false) (actions : List Action)
    (orderly : (start settings Store.empty clock).Along Orderly actions) :
    let first := start settings Store.empty clock
    let last := (first.run actions).1
    (∀ id score, last.shelf.pool.get? id = some score → ∃ stored moment,
      last.store.boxes.get? id = some stored ∧
        stored.box.lastViewed = some moment ∧ score = moment.score) ∧
    (∀ id stored, last.store.boxes.get? id = some stored → ∃ before box after grown,
      actions = before ++ .write (.insert box) :: after ∧ box.id = id ∧
        (first.run before).1.store.insert box = .ok grown) ∧
    ∀ before box after grown, actions = before ++ .write (.insert box) :: after →
      (first.run before).1.store.insert box = .ok grown → ∃ stored,
        last.store.boxes.get? box.id = some stored ∧
          stored.views.length = (if box.lastViewed.isSome then 1 else 0) +
            (served (first.run actions).2).count box.id := by
  intro first last
  have undisturbed : ∀ action ∈ actions, action.Undisturbed :=
    Along.forall_mem undisturbed_of_orderly orderly
  refine ⟨?_, ?_, ?_⟩
  · intro id score pooled
    have inStep := inStep_of_orderly settings ordinary orderly
    obtain ⟨moment, viewed, same⟩ := inStep.agrees id score pooled
    obtain ⟨stored, found, lastViewed⟩ := Store.exists_stored_of_lastView? viewed
    exact ⟨stored, moment, found, lastViewed, same.symm⟩
  · intro id stored found
    obtain ⟨before, box, after, split, rfl, online, absent⟩ := inserted_run rfl found
    exact ⟨before, box, after, _, split, rfl,
      Store.insert_eq_ok_iff.2 ⟨online, absent, rfl⟩⟩
  · rintro before box after grown rfl inserted
    have early : ∀ action ∈ before, action.Undisturbed := fun action member =>
      undisturbed action (List.mem_append_left _ member)
    have late : ∀ action ∈ after, action.Undisturbed := fun action member =>
      undisturbed action (List.mem_append_right _ (List.mem_cons_of_mem _ member))
    obtain ⟨online, absent, rfl⟩ := Store.insert_eq_ok_iff.1 inserted
    exact logged_of_inserted early late online absent

/-- A box is inserted and comes into the pool. Then a second rebuild lists the store,
the box is served a second later, and only then the listing is installed. -/
def servedBehindListing : List Action :=
  [.write (.insert (MessageBox.create "a" "" Moment.epoch)), .spawn, .fireTimer,
    .list 0, .receive 0, .install 0, .announce 0, .observe, .pass 900000, .fireTimer,
    .list 1, .setClock (.afterEpoch 1), .call 0, .enter 0 0, .record 0,
    .receive 1, .install 1]

theorem run_agrees_servedBehindListing :
    Moment.epoch.isLeap = false ∧
      (start .standard Store.empty Moment.epoch).Along Orderly servedBehindListing ∧
      ∃ stored moment,
        ((start .standard Store.empty Moment.epoch).run
          servedBehindListing).1.store.boxes.get? "a" = some stored ∧
        stored.box.lastViewed = some moment ∧ (1000000000 : Int64) = moment.score ∧
        stored.views.length = 2 := by
  have orderly : (start .standard Store.empty Moment.epoch).Along Orderly
      servedBehindListing := by
    decide +kernel
  have score : ((start .standard Store.empty Moment.epoch).run
      servedBehindListing).1.shelf.pool.get? "a" = some 1000000000 := by
    decide +kernel
  have once : (served ((start .standard Store.empty Moment.epoch).run
      servedBehindListing).2).count (MessageBox.create "a" "" Moment.epoch).id = 1 := by
    decide +kernel
  obtain ⟨agrees, _, logged⟩ :=
    run_agrees .standard Moment.epoch rfl servedBehindListing orderly
  obtain ⟨stored, moment, found, lastViewed, same⟩ := agrees "a" 1000000000 score
  obtain ⟨other, otherFound, length⟩ :=
    logged [] (MessageBox.create "a" "" Moment.epoch) _ _ rfl
      (Store.insert_eq_ok_iff.2 ⟨rfl, rfl, rfl⟩)
  have sameStored : other = stored := Option.some.inj (otherFound.symm.trans found)
  rw [sameStored, once] at length
  exact ⟨rfl, orderly, stored, moment, found, lastViewed, same, length⟩

end StalestFirst.World
