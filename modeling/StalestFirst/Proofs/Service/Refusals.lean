import Mathlib
import StalestFirst.Service.Query
import StalestFirst.Service.Reply

namespace StalestFirst

/-! ## Failures that are not told

What a failure is told with, and what went wrong below the services, is not for the
sender of a request. -/

/-- The faults below the services that a sender can do nothing about. -/
def Fault.isHidden : Fault → Bool
  | .storeUnavailable _ | .store _ | .settings _ | .system _ | .yaml _ | .json _ => true
  | .notReady | .emptyPool | .boxNotFound _ | .timeout => false

/-- The failures to ask a queue that a sender can do nothing about. -/
def ClientFault.isHidden : ClientFault → Bool
  | .exchange timedOut _ => !timedOut
  | .status _ _ | .unreadable _ => true
  | .queue below => below.isHidden
  | .remote _ _ => false

namespace Failure

/-- A failure told with texts about what was being done, the outermost first. -/
def within (failure : Failure) (contexts : List String) : Failure :=
  contexts.foldr inContext failure

/-- What is wrong with the request, if that is what failed. -/
def request? : Failure → Option RequestFault
  | .request wrong => some wrong
  | .inContext _ cause => cause.request?
  | _ => none

/-- The fault below the services, if that is what failed. -/
def fault? : Failure → Option Fault
  | .fault below => some below
  | .inContext _ cause => cause.fault?
  | _ => none

/-- Why a queue could not be asked, if that is what failed. -/
def client? : Failure → Option ClientFault
  | .client unasked => some unasked
  | .inContext _ cause => cause.client?
  | _ => none

/-- The failures that a sender can do nothing about. -/
def isHidden : Failure → Bool
  | .request _ => false
  | .fault below => below.isHidden
  | .client unasked => unasked.isHidden
  | .other _ => true
  | .inContext _ cause => cause.isHidden

end Failure

namespace Refusal

/-- Under all that a failure is told with, what failed is looked for kind by kind. -/
theorem ofFailure_eq_search (failure : Failure) :
    ofFailure failure =
      ((failure.request?.map ofRequest).or ((failure.fault?.map ofFault).or
        (failure.client?.map ofClient))).getD internal := by
  induction failure with
  | inContext context cause inductionHypothesis =>
      exact inductionHypothesis
  | _ =>
      rfl

theorem ofFailure_within (failure : Failure) (contexts : List String) :
    ofFailure (failure.within contexts) = ofFailure failure := by
  induction contexts with
  | nil =>
      rfl
  | cons context rest inductionHypothesis =>
      exact inductionHypothesis

theorem ofFault_eq_internal_iff {fault : Fault} :
    ofFault fault = internal ↔ fault.isHidden = true := by
  have told {refusal : Refusal} (another : refusal.status ≠ 500) : refusal ≠ internal :=
    fun same => another (congrArg Refusal.status same)
  cases fault with
  | notReady =>
      exact iff_of_false (told (Nat.ne_of_beq_eq_false rfl)) nofun
  | emptyPool =>
      exact iff_of_false (told (Nat.ne_of_beq_eq_false rfl)) nofun
  | boxNotFound id =>
      exact iff_of_false (told (Nat.ne_of_beq_eq_false rfl)) nofun
  | timeout =>
      exact iff_of_false (told (Nat.ne_of_beq_eq_false rfl)) nofun
  | _ =>
      exact iff_of_true rfl rfl

/-- Of what is told of a queue that could not be asked, only what its service said can
come to the same as telling nothing. -/
theorem ofClient_eq_internal_iff {fault : ClientFault} :
    ofClient fault = internal ↔ fault.isHidden = true ∨
      ∃ status, fault = .remote status internal.error ∧
        (100 ≤ status → status ≤ 999 → status = 500) := by
  cases fault with
  | queue below =>
      rw [ofClient, ofFault_eq_internal_iff]
      exact (or_iff_left fun remote => nomatch remote).symm
  | exchange timedOut reason =>
      cases timedOut with
      | true =>
          refine iff_of_false (fun same => ?_) (fun told => told.elim nofun fun remote => ?_)
          · exact Nat.ne_of_beq_eq_false rfl (congrArg Refusal.status same)
          · nomatch remote
      | false =>
          exact iff_of_true rfl (Or.inl rfl)
  | remote status error =>
      have replaced : (if 100 ≤ status ∧ status ≤ 999 then status else 500) = 500 ↔
          (100 ≤ status → status ≤ 999 → status = 500) := by
        split
        · omega
        · omega
      constructor
      · intro same
        obtain rfl : error = internal.error := congrArg Refusal.error same
        exact Or.inr ⟨status, rfl, replaced.1 (congrArg Refusal.status same)⟩
      · rintro (hidden | ⟨told, passed, unmarked⟩)
        · cases hidden
        · cases passed
          exact congrArg (Refusal.mk · internal.error) (replaced.2 unmarked)
  | _ =>
      exact iff_of_true rfl (Or.inl rfl)

theorem ofFailure_eq_internal_iff {failure : Failure} :
    ofFailure failure = internal ↔ failure.isHidden = true ∨
      ∃ status, failure.client? = some (.remote status internal.error) ∧
        (100 ≤ status → status ≤ 999 → status = 500) := by
  induction failure with
  | request wrong =>
      refine iff_of_false (fun same => ?_) ?_
      · have status := congrArg Refusal.status same
        cases wrong with
        | _ =>
            exact Nat.ne_of_beq_eq_false rfl status
      · rintro (hidden | ⟨status, remote, _⟩)
        · cases hidden
        · cases remote
  | fault below =>
      refine ofFault_eq_internal_iff.trans (or_iff_left ?_).symm
      rintro ⟨status, remote, _⟩
      cases remote
  | client unasked =>
      simp only [Failure.client?, Option.some.injEq]
      exact ofClient_eq_internal_iff
  | other text =>
      exact iff_of_true rfl (Or.inl rfl)
  | inContext context cause inductionHypothesis =>
      exact inductionHypothesis

end Refusal

/-- Whatever a failure is told with, however deeply, the refusal and the answer are those
of the bare failure, which is found by looking for what failed kind by kind. A fault of
the queue is told of a client as it is told itself. Of any two failures that a sender can
do nothing about, told with whatever texts, the answers are the same: nothing that these
failures hold, and nothing they are told with, shows in them. They are told as an error
inside the service, and of all other failures that is told only if another service said
it in these words. -/
theorem failures_told_alike :
    (∀ contexts failure,
      Refusal.ofFailure (failure.within contexts) = Refusal.ofFailure failure ∧
      ∀ {α : Type} [Wire α] metadata,
        Reply.ofOutcome metadata (.error (failure.within contexts) : Except Failure α) =
          Reply.ofOutcome metadata (.error failure : Except Failure α)) ∧
    (∀ failure, Refusal.ofFailure failure =
      ((failure.request?.map Refusal.ofRequest).or ((failure.fault?.map Refusal.ofFault).or
        (failure.client?.map Refusal.ofClient))).getD Refusal.internal) ∧
    (∀ fault contexts,
      Refusal.ofFailure ((Failure.client (.queue fault)).within contexts) =
        Refusal.ofFailure (.fault fault) ∧
      ∀ {α : Type} [Wire α] metadata,
        Reply.ofOutcome metadata
            (.error ((Failure.client (.queue fault)).within contexts) : Except Failure α) =
          Reply.ofOutcome metadata (.error (.fault fault) : Except Failure α)) ∧
    (∀ left right : Failure, left.isHidden = true → right.isHidden = true →
      ∀ contexts others,
        Refusal.ofFailure (left.within contexts) = Refusal.ofFailure (right.within others) ∧
        ∀ {α : Type} [Wire α] metadata,
          Reply.ofOutcome metadata (.error (left.within contexts) : Except Failure α) =
            Reply.ofOutcome metadata (.error (right.within others) : Except Failure α)) ∧
    (∀ failure, Refusal.ofFailure failure = ⟨500, ⟨"InternalServiceError",
        "The service hit an internal error. Please contact the administrator.",
        NameMap.empty⟩⟩ ↔
      failure.isHidden = true ∨
        ∃ status, failure.client? = some (.remote status Refusal.internal.error) ∧
          (100 ≤ status → status ≤ 999 → status = 500)) := by
  have alike {α : Type} [Wire α] {left right : Failure} (metadata : Metadata)
      (same : Refusal.ofFailure left = Refusal.ofFailure right) :
      Reply.ofOutcome metadata (.error left : Except Failure α) =
        Reply.ofOutcome metadata (.error right : Except Failure α) := by
    simp only [Reply.ofOutcome, same]
  refine ⟨fun contexts failure => ?_, Refusal.ofFailure_eq_search,
    fun fault contexts => ?_,
    fun left right leftHidden rightHidden contexts others => ?_,
    fun failure => Refusal.ofFailure_eq_internal_iff⟩
  · have same := Refusal.ofFailure_within failure contexts
    exact ⟨same, fun metadata => alike metadata same⟩
  · have same : Refusal.ofFailure ((Failure.client (.queue fault)).within contexts) =
        Refusal.ofFailure (.fault fault) :=
      Refusal.ofFailure_within _ contexts
    exact ⟨same, fun metadata => alike metadata same⟩
  · have same : Refusal.ofFailure (left.within contexts) =
        Refusal.ofFailure (right.within others) := by
      rw [Refusal.ofFailure_within, Refusal.ofFailure_within,
        Refusal.ofFailure_eq_internal_iff.2 (Or.inl leftHidden),
        Refusal.ofFailure_eq_internal_iff.2 (Or.inl rightHidden)]
    exact ⟨same, fun metadata => alike metadata same⟩

theorem failures_told_alike_storeAndQueue :
    (Failure.fault (.store "no relation boxes")).isHidden = true ∧
    (Failure.client (.status 502 "http://queue")).isHidden = true ∧
    Reply.ofOutcome ⟨"ViewBox", apiVersion⟩
        (.error ((Failure.fault (.store "no relation boxes")).within ["viewing", "reading"]) :
          Except Failure MessageBox) =
      Reply.ofOutcome ⟨"ViewBox", apiVersion⟩
        (.error ((Failure.client (.status 502 "http://queue")).within ["asking"]) :
          Except Failure MessageBox) := by
  obtain ⟨_, _, _, hidden, _⟩ := failures_told_alike
  exact ⟨rfl, rfl, (hidden (.fault (.store "no relation boxes"))
    (.client (.status 502 "http://queue")) rfl rfl ["viewing", "reading"] ["asking"]).2 _⟩

end StalestFirst
