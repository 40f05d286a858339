import Mathlib
import StalestFirst.Proofs.Queue.Change
import StalestFirst.Proofs.Queue.Run

namespace StalestFirst

/-! ## Who is served, and what becomes of the store

The store changes when a box is served, which writes the view down, and by changes
from outside. -/

/-- The box that an answer serves. -/
def Event.served? : Event → Option String
  | .answered _ (.ok id) => some id
  | _ => none

/-- The step neither deletes a box nor records a view from outside. -/
def Action.Undisturbed : Action → Prop
  | .write change => change.Gentle
  | _ => True

/-- The boxes that are served, in the order of the answers. -/
def served (events : List Event) : List String :=
  events.filterMap Event.served?

theorem served_append (first second : List Event) :
    served (first ++ second) = served first ++ served second :=
  List.filterMap_append

theorem served?_of_aside (event : Event) (aside : event.Aside) :
    event.served? = none := by
  cases aside <;> rfl

theorem served_of_silent {events : List Event}
    (silent : ∀ event ∈ events, event.Aside) : served events = [] :=
  Event.filterMap_of_blind served?_of_aside silent

namespace World

variable {world : World}

/-- What a step can do to the store, and whom it serves. -/
inductive Effect (world : World) : Action → Store → List String → Prop where
  | none (action : Action) : Effect world action world.store []
  | serves {visit : Visit} {stored : StoredBox} (guarded : world.visit = some visit)
      (found : world.store.boxes.get? visit.chosen = some stored) :
      Effect world (.record visit.call)
        (world.store.put visit.chosen (stored.withView visit.viewedAt))
        [visit.chosen]
  | writes (write : StoreWrite) :
      Effect world (.write write) (write.apply world.store) []

theorem effect (world : World) (action : Action) :
    Effect world action (world.step action).1.store
      (served (world.step action).2) := by
  have change := world.change action
  generalize (world.step action).1 = next at change ⊢
  generalize (world.step action).2 = events at change ⊢
  cases change with
  | aside idle alike silent =>
      rw [alike.store, served_of_silent silent]
      exact .none action
  | @records visit guarded =>
      dsimp only
      have result := Store.recording world.store visit.chosen visit.viewedAt
      generalize world.store.recordView visit.chosen visit.viewedAt = answer
        at result ⊢
      cases result with
      | recorded found =>
          exact .serves guarded found
      | missing absent =>
          exact .none _
      | unreachable =>
          exact .none _
  | leaves guarded leaving silent =>
      rw [served_of_silent silent]
      exact .none action
  | @observes _ number _ outcome _ _ events waits finished silent =>
      have unserved : served events = [] := served_of_silent silent
      have none : served (.observed number outcome world.now :: events) = [] := unserved
      rw [none]
      exact .none _
  | writes write =>
      exact .writes write
  | _ =>
      exact .none _

/-- Boxes stay filed under their identifiers. -/
theorem filed_step (world : World) (action : Action) (filed : world.store.Filed) :
    (world.step action).1.store.Filed := by
  have effect := world.effect action
  generalize (world.step action).1.store = store at effect ⊢
  generalize served (world.step action).2 = ids at effect
  cases effect with
  | none =>
      exact filed
  | @serves visit stored guarded found =>
      have sameId : stored.box.id = visit.chosen := filed visit.chosen stored found
      exact filed.put sameId
  | writes write =>
      exact filed.write write

/-! ## The log of views -/

/-- A box that is stored stays so, and gets one more view each time it is served. -/
theorem logged_step {action : Action} (undisturbed : action.Undisturbed)
    {id : String} {stored : StoredBox} (found : world.store.boxes.get? id = some stored) :
    ∃ later, (world.step action).1.store.boxes.get? id = some later ∧
      later.views.length =
        stored.views.length + (served (world.step action).2).count id := by
  have effect := world.effect action
  generalize (world.step action).1.store = store at effect ⊢
  generalize served (world.step action).2 = ids at effect ⊢
  cases effect with
  | none =>
      exact ⟨stored, found, rfl⟩
  | @serves visit before guarded known =>
      by_cases asked : visit.chosen = id
      · subst asked
        rw [known] at found
        cases found
        exact ⟨stored.withView visit.viewedAt, by simp [Store.put],
          by simp [StoredBox.withView]⟩
      · exact ⟨stored, by simp [Store.put, asked, found], by simp [asked]⟩
  | writes write =>
      have change := Store.written world.store write
      generalize write.apply world.store = store at change ⊢
      cases change with
      | refused =>
          exact ⟨stored, found, rfl⟩
      | @inserted box online absent =>
          have other : box.id ≠ id := fun same => by
            rw [same, found] at absent
            cases absent
          exact ⟨stored, by simp [Store.put, other, found], rfl⟩
      | deleted =>
          exact undisturbed.elim
      | viewed =>
          exact undisturbed.elim
      | @reacted reacting _ before known =>
          by_cases asked : reacting = id
          · subst asked
            rw [known] at found
            cases found
            exact ⟨_, (NameMap.get?_insert ..).trans (if_pos rfl), rfl⟩
          · exact ⟨stored, by simp [Store.put, asked, found], rfl⟩
      | switched offline =>
          exact ⟨stored, found, rfl⟩

/-- A box that is not stored is not served. It comes only by an insertion, with the
view that it brings. -/
theorem absent_step (action : Action) {id : String}
    (absent : world.store.boxes.get? id = none) :
    (served (world.step action).2).count id = 0 ∧
      ((world.step action).1.store.boxes.get? id = none ∨
        ∃ box, action = .write (.insert box) ∧ box.id = id ∧
          world.store.offline = false) := by
  have effect := world.effect action
  generalize (world.step action).1.store = store at effect ⊢
  generalize served (world.step action).2 = ids at effect ⊢
  cases effect with
  | none =>
      exact ⟨rfl, Or.inl absent⟩
  | @serves visit before guarded known =>
      have other : visit.chosen ≠ id := fun same => by
        rw [same, absent] at known
        cases known
      exact ⟨by simp [other], Or.inl (by simp [Store.put, other, absent])⟩
  | writes write =>
      refine ⟨rfl, ?_⟩
      have change := Store.written world.store write
      generalize write.apply world.store = store at change ⊢
      cases change with
      | refused =>
          exact Or.inl absent
      | @inserted box online fresh =>
          by_cases asked : box.id = id
          · exact Or.inr ⟨box, rfl, asked, online⟩
          · exact Or.inl (by simp [Store.put, asked, absent])
      | deleted gone =>
          exact Or.inl (by simp [absent])
      | @viewed viewed _ before known =>
          have other : viewed ≠ id := fun same => by
            rw [same, absent] at known
            cases known
          exact Or.inl (by simp [Store.put, other, absent])
      | @reacted reacting _ before known =>
          have other : reacting ≠ id := fun same => by
            rw [same, absent] at known
            cases known
          exact Or.inl (by simp [Store.put, other, absent])
      | switched offline =>
          exact Or.inl absent

theorem logged_run {actions : List Action}
    (undisturbed : ∀ action ∈ actions, action.Undisturbed)
    {id : String} {stored : StoredBox} (found : world.store.boxes.get? id = some stored) :
    ∃ later, (world.run actions).1.store.boxes.get? id = some later ∧
      later.views.length =
        stored.views.length + (served (world.run actions).2).count id := by
  induction actions generalizing world stored with
  | nil =>
      exact ⟨stored, found, rfl⟩
  | cons action rest inductionHypothesis =>
      obtain ⟨next, nextFound, nextLength⟩ :=
        logged_step (undisturbed action (List.mem_cons_self ..)) found
      obtain ⟨later, laterFound, laterLength⟩ :=
        inductionHypothesis
          (fun other member => undisturbed other (List.mem_cons_of_mem action member))
          nextFound
      refine ⟨later, laterFound, ?_⟩
      rw [laterLength, nextLength, run_cons, served_append, List.count_append,
        Nat.add_assoc]

/-- A box that is not stored in the end was never served. -/
theorem unserved_run {actions : List Action}
    (undisturbed : ∀ action ∈ actions, action.Undisturbed)
    {id : String} (absent : (world.run actions).1.store.boxes.get? id = none) :
    (served (world.run actions).2).count id = 0 := by
  induction actions generalizing world with
  | nil =>
      rfl
  | cons action rest inductionHypothesis =>
      cases found : world.store.boxes.get? id with
      | some stored =>
          obtain ⟨later, laterFound, _⟩ := logged_run undisturbed found
          rw [laterFound] at absent
          cases absent
      | none =>
          rw [run_cons] at absent ⊢
          rw [served_append, List.count_append, (absent_step action found).1,
            inductionHypothesis
              (fun other member =>
                undisturbed other (List.mem_cons_of_mem action member)) absent]

/-- A box that is stored in the end and was not at the start was inserted. -/
theorem inserted_run {actions : List Action} {id : String} {stored : StoredBox}
    (absent : world.store.boxes.get? id = none)
    (found : (world.run actions).1.store.boxes.get? id = some stored) :
    ∃ before box after, actions = before ++ .write (.insert box) :: after ∧
      box.id = id ∧ (world.run before).1.store.offline = false ∧
      (world.run before).1.store.boxes.get? id = none := by
  induction actions generalizing world with
  | nil =>
      rw [run_nil, absent] at found
      cases found
  | cons action rest inductionHypothesis =>
      rcases (absent_step action absent).2 with
        stillAbsent | ⟨box, rfl, asked, online⟩
      · obtain ⟨before, box, after, rfl, asked, online, fresh⟩ :=
          inductionHypothesis stillAbsent found
        exact ⟨action :: before, box, after, rfl, asked, online, fresh⟩
      · exact ⟨[], box, rest, rfl, asked, online, absent⟩

/-- An inserted box has logged the view that it came with, if any, and one view for
each time that it was served. -/
theorem logged_of_inserted {before after : List Action} {box : MessageBox}
    (early : ∀ action ∈ before, action.Undisturbed)
    (late : ∀ action ∈ after, action.Undisturbed)
    (online : (world.run before).1.store.offline = false)
    (absent : (world.run before).1.store.boxes.get? box.id = none) :
    ∃ stored,
      (world.run (before ++ .write (.insert box) :: after)).1.store.boxes.get? box.id =
        some stored ∧
      stored.views.length = (if box.lastViewed.isSome then 1 else 0) +
        (served (world.run (before ++ .write (.insert box) :: after)).2).count
          box.id := by
  have grown := Store.insert_eq_ok_iff.2 ⟨online, absent, rfl⟩
  have fresh : ((world.run before).1.step (.write (.insert box))).1.store.boxes.get?
      box.id = some ⟨box, box.lastViewed.toList⟩ := by
    simp [step, StoreWrite.apply, grown, Except.toOption, Store.put]
  obtain ⟨stored, found, length⟩ := logged_run late fresh
  have noneBefore := unserved_run early absent
  refine ⟨stored, ?_, ?_⟩
  · rw [run_append, run_cons]
    exact found
  · have silent : served ((world.run before).1.step (.write (.insert box))).2 = [] := rfl
    rw [length, run_append, run_cons, served_append, served_append, List.count_append,
      List.count_append, noneBefore, silent]
    cases box.lastViewed with
    | none =>
        simp
    | some moment =>
        simp

end World

end StalestFirst
