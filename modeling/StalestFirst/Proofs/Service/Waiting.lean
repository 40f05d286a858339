import Mathlib
import StalestFirst.Proofs.Service.Driving

namespace StalestFirst.Deployment

/-! ## Requests that wait for tallies

Between its increments and its answer a request waits for what the store says of the
tallies. Nothing but its own steps disturbs it. -/

variable {deployment : Deployment} {id : String}

/-- A request waits for the tallies of the box `id`. -/
structure Awaits (deployment : Deployment) (request : Pending) (id : String) : Prop where
  pending : deployment.pending? request.number = some request
  reads : request.errand = .readReactions id

/-- The request with a number is as it was, and has not been answered. -/
structure Leaves (number : Nat) (deployment : Deployment)
    (result : Deployment × List Notice) : Prop where
  pending : result.1.pending? number = deployment.pending? number
  silent (response : Http.Response) : .replied number response ∉ result.2

theorem Leaves.idle {number : Nat} {next : Deployment}
    (pending : next.pending? number = deployment.pending? number) :
    Leaves number deployment (next, []) :=
  ⟨pending, fun _ => List.not_mem_nil⟩

theorem Leaves.andThen {number : Nat} {first second : Deployment × List Notice}
    (left : Leaves number deployment first) (later : Leaves number first.1 second) :
    Leaves number deployment (second.1, first.2 ++ second.2) where
  pending := later.pending.trans left.pending
  silent response member := (List.mem_append.1 member).elim (left.silent response)
    (later.silent response)

theorem pending?_without {number gone : Nat} (another : number ≠ gone) :
    (deployment.without gone).pending? number = deployment.pending? number := by
  rw [pending?, without, List.find?_filter, pending?]
  congr
  funext request
  by_cases same : request.number = number
  · simp [same, another]
  · simp [same]

theorem pending?_await {request : Pending} {number : Nat} (another : number ≠ request.number)
    (errand : Errand) :
    (deployment.await request errand).pending? number = deployment.pending? number := by
  have passed : List.find? (fun pending : Pending => pending.number == number)
      [{ request with errand }] = none := by
    simp [Ne.symm another]
  refine Eq.trans ?_ (pending?_without another)
  rw [pending?, await, List.find?_append, passed, Option.or_none, pending?]

theorem pending?_await_self {request : Pending} {errand : Errand} :
    (deployment.await request errand).pending? request.number =
      some { request with errand } := by
  have gone : List.find? (fun pending : Pending => pending.number == request.number)
      (deployment.without request.number).pending = none := by
    simp [without]
  rw [pending?, await, List.find?_append, gone, Option.none_or]
  simp

theorem leaves_answer {α : Type} [Wire α] {number : Nat} {request : Pending}
    (another : number ≠ request.number) (outcome : Except Failure α) :
    Leaves number deployment (deployment.answer request outcome) := by
  refine ⟨pending?_without another, fun response member => another ?_⟩
  cases List.mem_singleton.1 member
  rfl

variable {request : Pending}

theorem Awaits.leaves_absorbAnswer (awaits : deployment.Awaits request id) (call : Nat)
    (result : Except Fault String) :
    Leaves request.number deployment (deployment.absorbAnswer call result) := by
  unfold absorbAnswer
  split
  · exact .idle rfl
  · rename_i called found
    have itsNumber : called.number = call := by
      simpa using List.find?_some found
    have another (draws : ∀ id, called.errand ≠ .readReactions id) :
        request.number ≠ called.number := by
      intro same
      have pending := awaits.pending
      rw [same, itsNumber, found] at pending
      exact draws id (Option.some.inj pending ▸ awaits.reads)
    split
    · rename_i draws
      exact leaves_answer (another (by simp [draws])) _
    · rename_i draws
      exact leaves_answer (another (by simp [draws])) _
    · rename_i draws
      exact .idle (pending?_await (another (by simp [draws])) _)
    · rename_i draws
      exact leaves_answer (another (by simp [draws])) _
    · exact .idle rfl

theorem Awaits.of_leaves {result : Deployment × List Notice}
    (awaits : deployment.Awaits request id)
    (left : Leaves request.number deployment result) : result.1.Awaits request id :=
  ⟨left.pending.trans awaits.pending, awaits.reads⟩

theorem Awaits.leaves_absorb (awaits : deployment.Awaits request id) (events : List Event) :
    Leaves request.number deployment (deployment.absorb events) := by
  induction events generalizing deployment with
  | nil =>
      exact .idle rfl
  | cons event rest inductionHypothesis =>
      have first : Leaves request.number deployment (deployment.absorbEvent event) := by
        cases event with
        | answered call result =>
            exact awaits.leaves_absorbAnswer call result
        | _ =>
            exact .idle rfl
      have both := first.andThen (inductionHypothesis (awaits.of_leaves first))
      rw [absorb_cons]
      refine ⟨both.pending, fun response member => ?_⟩
      rcases List.mem_cons.1 member with seen | later
      · cases seen
      · exact both.silent response later

theorem Awaits.leaves_stepQueue (awaits : deployment.Awaits request id) (action : Action) :
    Leaves request.number deployment (deployment.stepQueue action) := by
  have moved : ({ deployment with world := (deployment.world.step action).1 } :
      Deployment).Awaits request id := ⟨awaits.pending, awaits.reads⟩
  have left := moved.leaves_absorb (deployment.world.step action).2
  exact ⟨left.pending, left.silent⟩

/-- Another request may begin with its order. -/
theorem Awaits.leaves_beginQueueOrder (awaits : deployment.Awaits request id)
    {asked : Pending} (another : request.number ≠ asked.number) (order : QueueOrder) :
    Leaves request.number deployment (deployment.beginQueueOrder asked order) := by
  cases order with
  | accept item =>
      exact (awaits.leaves_stepQueue (.submit item)).andThen (leaves_answer another _)
  | draw =>
      have waiting : Leaves request.number deployment (deployment.await asked .draw, []) :=
        .idle (pending?_await another _)
      have called := (awaits.of_leaves waiting).leaves_stepQueue (.call asked.number)
      exact waiting.andThen called

theorem Awaits.leaves_beginBoxOrder (awaits : deployment.Awaits request id)
    {asked : Pending} (another : request.number ≠ asked.number) (freshId : String)
    (order : BoxOrder) :
    Leaves request.number deployment (deployment.beginBoxOrder asked freshId order) := by
  cases order with
  | create draft =>
      simp only [beginBoxOrder]
      split
      · exact leaves_answer another _
      · have told (box : MessageBox) : Leaves request.number deployment
            (deployment.answer asked (.ok box : Except Failure MessageBox)) :=
          leaves_answer another _
        exact ⟨pending?_without another, (told _).silent⟩
  | react reactions =>
      simp only [beginBoxOrder]
      split
      · exact leaves_answer another _
      · exact .idle (pending?_await another _)
  | view =>
      have waiting : Leaves request.number deployment
          (deployment.await asked .drawToView, []) := .idle (pending?_await another _)
      have called := (awaits.of_leaves waiting).leaves_stepQueue (.call asked.number)
      exact waiting.andThen called

theorem Awaits.leaves_arrive (awaits : deployment.Awaits request id) (number : Nat)
    (service : Service) (asked : Http.Request) (freshId : String) :
    Leaves request.number deployment
      (deployment.stepArrive number service asked freshId) := by
  unfold stepArrive
  split
  · exact .idle rfl
  · rename_i free
    have another : request.number ≠ number := by
      rintro rfl
      simp [isTaken, awaits.pending] at free
    have replied (response : Http.Response) :
        Leaves request.number deployment (deployment, [.replied number response]) := by
      refine ⟨rfl, fun other member => another ?_⟩
      cases List.mem_singleton.1 member
      rfl
    unfold meet
    split
    · exact replied _
    · split
      · exact replied _
      · split
        · exact replied _
        · exact awaits.leaves_beginQueueOrder another _
    · split
      · exact replied _
      · split
        · exact replied _
        · exact awaits.leaves_beginBoxOrder another _ _

/-- Of the steps that are not its own, none disturbs a request that waits for tallies. -/
theorem Awaits.leaves_step (awaits : deployment.Awaits request id) {move : Move}
    (notRead : move ≠ .readBack request.number) (notCut : move ≠ .cutOff request.number)
    (notLeft : move ≠ .leave request.number) :
    Leaves request.number deployment (deployment.step move) := by
  have itsNumber {number : Nat} {other : Pending}
      (found : deployment.pending? number = some other) : other.number = number := by
    simpa using List.find?_some found
  cases move with
  | arrive number service asked freshId =>
      exact awaits.leaves_arrive number service asked freshId
  | readBack number =>
      simp only [step, stepReadBack]
      split
      · exact .idle rfl
      · rename_i other found
        have another : request.number ≠ other.number := by
          rw [itsNumber found]
          rintro rfl
          exact notRead rfl
        split
        · exact leaves_answer another _
        · exact leaves_answer another _
        · exact .idle rfl
  | cutOff number =>
      have another : request.number ≠ number := by
        rintro rfl
        exact notCut rfl
      simp only [step, stepCutOff]
      split
      · exact .idle rfl
      · refine ⟨pending?_without another, fun response member => another ?_⟩
        cases List.mem_singleton.1 member
        rfl
  | leave number =>
      have another : request.number ≠ number := by
        rintro rfl
        exact notLeft rfl
      simp only [step, stepLeave]
      split
      · exact .idle rfl
      · exact .idle (pending?_without another)
  | announce position =>
      simp only [step, stepAnnounce]
      split
      · exact .idle rfl
      · rename_i item announced
        have told : ({ deployment with
            announcements := deployment.announcements.eraseIdx position } :
            Deployment).Awaits request id := ⟨awaits.pending, awaits.reads⟩
        have submitted := told.leaves_stepQueue (.submit item)
        have dropped := (told.of_leaves submitted).leaves_stepQueue .dropHandle
        exact ⟨(submitted.andThen dropped).pending, (submitted.andThen dropped).silent⟩
  | queue action =>
      exact awaits.leaves_stepQueue action

theorem Awaits.step_readBack (awaits : deployment.Awaits request id) :
    deployment.step (.readBack request.number) =
      deployment.answer request (BoxService.readReactions deployment.world.store id) := by
  simp only [step, stepReadBack, awaits.pending, awaits.reads]

theorem Awaits.step_cutOff (awaits : deployment.Awaits request id) :
    deployment.step (.cutOff request.number) =
      (deployment.abandon request.number,
        [.replied request.number (Reply.cutOff.forMethod request.method)]) := by
  simp only [step, stepCutOff, awaits.pending]

theorem Awaits.step_leave (awaits : deployment.Awaits request id) :
    deployment.step (.leave request.number) = (deployment.abandon request.number, []) := by
  simp only [step, stepLeave, awaits.pending]

/-- As long as it is not answered and its sender does not go away, a request goes on
waiting. -/
theorem Awaits.run (awaits : deployment.Awaits request id) {moves : List Move}
    (stays : .leave request.number ∉ moves)
    (unanswered : ∀ response, .replied request.number response ∉ (deployment.run moves).2) :
    (deployment.run moves).1.Awaits request id := by
  induction moves generalizing deployment with
  | nil =>
      exact awaits
  | cons move rest inductionHypothesis =>
      rw [List.mem_cons, not_or] at stays
      have silent (response : Http.Response) :
          .replied request.number response ∉ (deployment.step move).2 := fun replied =>
        unanswered response (List.mem_append_left _ replied)
      have notRead : move ≠ .readBack request.number := by
        rintro rfl
        rw [awaits.step_readBack] at silent
        exact silent _ (List.mem_singleton_self _)
      have notCut : move ≠ .cutOff request.number := by
        rintro rfl
        rw [awaits.step_cutOff] at silent
        exact silent _ (List.mem_singleton_self _)
      have left := awaits.leaves_step notRead notCut (Ne.symm stays.1)
      exact inductionHypothesis (awaits.of_leaves left) stays.2 fun response replied =>
        unanswered response (List.mem_append_right _ replied)

end StalestFirst.Deployment
