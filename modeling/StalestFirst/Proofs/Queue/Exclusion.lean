import Mathlib
import StalestFirst.Proofs.Queue.Turns

namespace StalestFirst.World

/-! ## Alone at the shelf

From the choice of a box until its view is recorded, or until it is given up, a
retrieval has the shelf for itself. -/

variable {world : World} {visit : Visit}

theorem guarded_step (guarded : world.visit = some visit) {action : Action}
    (goesOn : action.ends visit.call = false) :
    (world.step action).1.visit = some visit ∧
      (world.step action).1.shelf = world.shelf ∧ world.begins action = none := by
  have change := world.change action
  generalize (world.step action).1 = next at change ⊢
  generalize (world.step action).2 = events at change
  cases change with
  | aside idle alike silent =>
      exact ⟨alike.visit.trans guarded, alike.shelf, begins_of_idle idle⟩
  | enters waits free drawn =>
      rw [free] at guarded
      cases guarded
  | findsNone waits free drawn =>
      rw [free] at guarded
      cases guarded
  | records present =>
      rw [present] at guarded
      cases guarded
      simp [Action.ends] at goesOn
  | leaves present leaving silent =>
      rw [present] at guarded
      cases guarded
      rcases leaving with rfl | rfl
      · simp [Action.ends] at goesOn
      · simp [Action.ends] at goesOn
  | applies free taken =>
      rw [free] at guarded
      cases guarded
  | starts resting =>
      exact ⟨guarded, rfl, rfl⟩
  | observes waits finished silent =>
      exact ⟨guarded, rfl, rfl⟩
  | lists begun =>
      exact ⟨guarded, rfl, rfl⟩
  | receives listed =>
      exact ⟨guarded, rfl, rfl⟩
  | finishes ready finish =>
      exact ⟨guarded, rfl, (turnless_of_finish finish none).1⟩
  | installs free arrived =>
      rw [free] at guarded
      cases guarded
  | writes write =>
      exact ⟨guarded, rfl, rfl⟩
  | setsClock clock =>
      exact ⟨guarded, rfl, rfl⟩

/-- While a retrieval that has chosen a box goes on, the shelf stays as it is and
nobody else gets it. -/
theorem guarded_run (guarded : world.visit = some visit) {during : List Action}
    (goesOn : ∀ action ∈ during, action.ends visit.call = false) :
    (world.run during).1.visit = some visit ∧
      (world.run during).1.shelf = world.shelf ∧ world.beginnings during = [] := by
  induction during generalizing world with
  | nil =>
      exact ⟨guarded, rfl, rfl⟩
  | cons action rest inductionHypothesis =>
      obtain ⟨stays, sameShelf, turnless⟩ :=
        guarded_step guarded (goesOn action (List.mem_cons_self ..))
      obtain ⟨lastStays, lastShelf, lastTurnless⟩ :=
        inductionHypothesis stays fun later member =>
          goesOn later (List.mem_cons_of_mem action member)
      refine ⟨lastStays, lastShelf.trans sameShelf, ?_⟩
      rw [beginnings, turnless, lastTurnless]
      rfl

/-- Whoever guards the shelf after a step has guarded it before and goes on, or has
just got it. -/
theorem guards_after_step {action : Action}
    (guarded : (world.step action).1.visit = some visit) :
    (world.visit = some visit ∧ action.ends visit.call = false) ∨
      ∃ number, action = .enter visit.call number ∧
        world.begins action =
          some (.retrieve visit.call number visit.viewedAt) ∧
        (world.step action).1.shelf.draw (world.step action).1.window number =
          some visit.chosen := by
  have change := world.change action
  rw [window_step]
  generalize (world.step action).1 = next at change guarded ⊢
  generalize (world.step action).2 = events at change
  cases change with
  | aside idle alike silent =>
      rw [alike.visit] at guarded
      exact Or.inl ⟨guarded, ends_of_idle idle guarded⟩
  | enters waits free drawn =>
      cases guarded
      exact Or.inr ⟨_, rfl, begins_enter waits free _, drawn⟩
  | findsNone waits free drawn =>
      simp [withoutCall, free] at guarded
  | records present =>
      cases guarded
  | leaves present leaving silent =>
      simp [withoutCall, present, Option.filter] at guarded
  | applies free taken =>
      exact Or.inl ⟨guarded, rfl⟩
  | starts resting =>
      exact Or.inl ⟨guarded, rfl⟩
  | observes waits finished silent =>
      exact Or.inl ⟨guarded, rfl⟩
  | lists begun =>
      exact Or.inl ⟨guarded, rfl⟩
  | receives listed =>
      exact Or.inl ⟨guarded, rfl⟩
  | finishes ready finish =>
      exact Or.inl ⟨guarded, (turnless_of_finish finish none).2.2 visit.call⟩
  | installs free arrived =>
      exact Or.inl ⟨guarded, rfl⟩
  | writes write =>
      exact Or.inl ⟨guarded, rfl⟩
  | setsClock clock =>
      exact Or.inl ⟨guarded, rfl⟩

/-- Whoever guards the shelf got it when it chose its box, and goes on since. -/
theorem guards_since_enter (free : world.visit = none) {actions : List Action}
    (guarded : (world.run actions).1.visit = some visit) :
    ∃ before number after,
      actions = before ++ .enter visit.call number :: after ∧
      (world.run before).1.begins (.enter visit.call number) =
        some (.retrieve visit.call number visit.viewedAt) ∧
      ((world.run before).1.step (.enter visit.call number)).1.visit = some visit ∧
      ∀ action ∈ after, action.ends visit.call = false := by
  induction actions using List.reverseRecOn with
  | nil =>
      rw [run_nil, free] at guarded
      cases guarded
  | append_singleton earlier action inductionHypothesis =>
      rw [run_append] at guarded
      rcases guards_after_step guarded with
        ⟨stayed, goesOn⟩ | ⟨number, rfl, begun, _⟩
      · obtain ⟨before, number, after, rfl, begun, chose, alone⟩ :=
          inductionHypothesis stayed
        refine ⟨before, number, after ++ [action], by simp, begun, chose, ?_⟩
        intro later member
        rcases List.mem_append.1 member with inAfter | isLast
        · exact alone later inAfter
        · rw [List.mem_singleton.1 isLast]
          exact goesOn
      · exact ⟨earlier, number, [], rfl, begun, guarded, fun _ member => nomatch member⟩

/-- Whoever guards the shelf has got it once, and was neither answered nor dropped
since. -/
theorem guards_after_run (free : world.visit = none) {actions : List Action}
    (guarded : (world.run actions).1.visit = some visit) :
    ∃ before number after,
      actions = before ++ .enter visit.call number :: after ∧
      (world.run before).1.begins (.enter visit.call number) =
        some (.retrieve visit.call number visit.viewedAt) ∧
      ∀ action ∈ after, action.ends visit.call = false := by
  obtain ⟨before, number, after, split, begun, _, alone⟩ :=
    guards_since_enter free guarded
  exact ⟨before, number, after, split, begun, alone⟩

/-- Whoever guards the shelf could choose its box again now. -/
def Drawn (world : World) : Prop :=
  ∀ visit, world.visit = some visit → ∃ number,
    world.shelf.draw world.window number = some visit.chosen

theorem drawn_step (world : World) (action : Action) (drawn : world.Drawn) :
    (world.step action).1.Drawn := by
  intro visit guarded
  rcases guards_after_step guarded with ⟨stayed, goesOn⟩ | ⟨number, _, _, chosen⟩
  · obtain ⟨number, chosen⟩ := drawn visit stayed
    refine ⟨number, ?_⟩
    rw [window_step, (guarded_step stayed goesOn).2.1]
    exact chosen
  · exact ⟨number, chosen⟩

/-! ## The order of turns -/

theorem recordsFirst_cons {call : Nat} {action : Action}
    (goesOn : action.ends call = false) (rest : List Action) :
    Action.recordsFirst call (action :: rest) = Action.recordsFirst call rest := by
  rw [Action.recordsFirst, Action.recordsFirst, List.find?_cons_of_neg (by simp [goesOn])]

/-- The turn of whoever guards the shelf, if it comes to its end in the steps that
follow. -/
def awaited (world : World) (held : Option ShelfTurn) (actions : List Action) :
    List ShelfTurn :=
  if world.visit.isSome && world.concludes actions then held.toList else []

theorem awaited_of_free {world : World} (free : world.visit = none)
    (held : Option ShelfTurn) (actions : List Action) :
    world.awaited held actions = [] := by
  simp [awaited, free]

theorem concludes_of_free {world : World} (free : world.visit = none)
    (actions : List Action) : world.concludes actions = true := by
  simp only [concludes, free]

/-- A step that neither gets its party the shelf nor ends the retrieval of whoever
has it leaves the turns as they are. -/
theorem turns_of_same {next : World} {action : Action} {held : Option ShelfTurn}
    (sameVisit : next.visit = world.visit)
    (goesOn : ∀ visit, world.visit = some visit → action.ends visit.call = false)
    (turnless : world.begins action = none)
    (none : (world.entries held action).filterMap Entry.turn? = [])
    (rest : List Action) :
    (world.entries held action).filterMap Entry.turn? ++
        next.awaited (world.begins action <|> held) rest =
      world.awaited held (action :: rest) ++
        ((world.begins action).filter fun _ => next.concludes rest).toList := by
  have sameEnd : world.concludes (action :: rest) = next.concludes rest := by
    unfold concludes
    rw [sameVisit]
    cases guarded : world.visit with
    | none =>
        rfl
    | some visit =>
        exact recordsFirst_cons (goesOn visit guarded) rest
  simp [turnless, none, awaited, sameVisit, sameEnd]

/-- A step whose turn is over at once enters that turn. -/
theorem turns_of_whole {next : World} {action : Action} {held : Option ShelfTurn}
    {turn : ShelfTurn} (free : world.visit = none) (stillFree : next.visit = none)
    (begun : world.begins action = some turn)
    (entered : world.entries held action = [.turn turn]) (rest : List Action) :
    (world.entries held action).filterMap Entry.turn? ++
        next.awaited (world.begins action <|> held) rest =
      world.awaited held (action :: rest) ++
        ((world.begins action).filter fun _ => next.concludes rest).toList := by
  rw [entered, begun, awaited_of_free free, awaited_of_free stillFree,
    concludes_of_free stillFree]
  rfl

/-- What a step enters, followed by the turn that is awaited after it, is the turn
that was awaited before it, followed by the turn that it begins. -/
theorem turns_step (world : World) (held : Option ShelfTurn) (action : Action)
    (rest : List Action) :
    (world.entries held action).filterMap Entry.turn? ++
        (world.step action).1.awaited (world.begins action <|> held) rest =
      world.awaited held (action :: rest) ++
        ((world.begins action).filter fun _ =>
          (world.step action).1.concludes rest).toList := by
  have change := world.change action
  generalize nextEq : (world.step action).1 = next at change ⊢
  generalize (world.step action).2 = events at change
  cases change with
  | aside idle alike silent =>
      refine turns_of_same alike.visit (fun _ guarded => ends_of_idle idle guarded)
        (begins_of_idle idle) ?_ rest
      rw [entries_of_idle idle]
      rfl
  | @enters call number chosen waits free drawn =>
      -- The turn begins now and is awaited, but it is entered only when it ends.
      have begun := begins_enter waits free number
      rw [entries_of_guarded begun (congrArg World.visit nextEq), awaited_of_free free,
        begun]
      cases concluded : Action.recordsFirst call rest with
      | true =>
          simp [awaited, concludes, concluded, Option.filter]
      | false =>
          simp [awaited, concludes, concluded, Option.filter]
  | @findsNone call number waits free drawn =>
      have unguarded : (world.withoutCall call).visit = none := by
        simp [withoutCall, free]
      have begun := begins_enter waits free number
      exact turns_of_whole free unguarded begun
        (entries_of_whole begun (nextEq ▸ unguarded) held) rest
  | @records visit guarded =>
      have ends : world.concludes (.record visit.call :: rest) = true := by
        simp [concludes, guarded, Action.recordsFirst, Action.ends]
      have whole : (held.toList.map Entry.turn).filterMap Entry.turn? = held.toList := by
        cases held with
        | none =>
            rfl
        | some turn =>
            rfl
      simp [awaited, entries, guarded, begins, ends, whole]
  | @leaves visit _ _ guarded leaving silent =>
      -- The turn that is given up was not awaited, since this step ends it first.
      have unguarded : (world.withoutCall visit.call).visit = none := by
        simp [withoutCall, guarded, Option.filter]
      obtain ⟨turnless, none⟩ := turnless_of_leaving world leaving held
      rw [none, turnless, awaited_of_free unguarded]
      rcases leaving with rfl | rfl
      · simp [awaited, guarded, concludes, Action.recordsFirst, Action.ends]
      · simp [awaited, guarded, concludes, Action.recordsFirst, Action.ends]
  | applies free taken =>
      have begun := begins_apply free taken
      exact turns_of_whole free free begun
        (entries_of_whole begun (nextEq ▸ free) held) rest
  | starts resting =>
      exact turns_of_same rfl (fun _ _ => rfl) rfl (by simp [entries, begins]) rest
  | observes waits finished silent =>
      exact turns_of_same rfl (fun _ _ => rfl) rfl (by simp [entries, begins]) rest
  | lists begun =>
      refine turns_of_same rfl (fun _ _ => rfl) rfl ?_ rest
      simp only [entries, begun]
      rfl
  | receives listed =>
      exact turns_of_same rfl (fun _ _ => rfl) rfl (by simp [entries, begins]) rest
  | finishes ready finish =>
      obtain ⟨turnless, none, goesOn⟩ := turnless_of_finish finish held
      exact turns_of_same rfl (fun visit _ => goesOn visit.call) turnless
        (by rw [none]; rfl) rest
  | @installs number found listing free arrived =>
      have unguarded : (world.step (.install number)).1.visit = none := by
        rw [nextEq]
        exact free
      have begun := begins_install free arrived
      exact turns_of_whole free free begun (entries_of_whole begun unguarded held) rest
  | writes write =>
      exact turns_of_same rfl (fun _ _ => rfl) rfl rfl rest
  | setsClock clock =>
      exact turns_of_same rfl (fun _ _ => rfl) rfl (by simp [entries, begins]) rest

/-- The turns of a run are entered in the order in which the shelf is got. -/
theorem turns_history (world : World) (held : Option ShelfTurn) (actions : List Action) :
    (world.history held actions).filterMap Entry.turn? =
      world.awaited held actions ++ world.turns actions := by
  induction actions generalizing world held with
  | nil =>
      cases guarded : world.visit with
      | none =>
          simp [history, turns, awaited, guarded]
      | some visit =>
          simp [history, turns, awaited, concludes, guarded, Action.recordsFirst]
  | cons action rest inductionHypothesis =>
      rw [history, turns, List.filterMap_append, inductionHypothesis, ← List.append_assoc,
        turns_step, List.append_assoc]

end StalestFirst.World
