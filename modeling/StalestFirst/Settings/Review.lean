import StalestFirst.Fault
import StalestFirst.Settings.Basic

namespace StalestFirst

/-! ## Reviewing settings -/

/-- Whether settings with a finding can be used all the same. -/
inductive Severity where
  | warning
  | error
  deriving DecidableEq

/-- A value among the settings that stalls or disables a component. -/
structure Finding where
  severity : Severity
  message : String
  deriving DecidableEq

namespace Settings

private def findingIf (condition : Bool) (severity : Severity)
    (message : String) : List Finding :=
  if condition then [⟨severity, message⟩] else []

def review (settings : Settings) : List Finding :=
  let queue := settings.queue
  let http := settings.http
  findingIf (queue.resyncSeconds == 0) .error
    "queue.resync_interval_secs is 0: the queue would rebuild continuously" ++
  findingIf (queue.retrySeconds == 0) .warning
    "queue.retry_interval_secs is 0: failed rebuilds retry without delay" ++
  findingIf (queue.bufferCapacity == 0) .error
    "queue.buffer_capacity must be at least 1" ++
  findingIf (queue.selectionWindow == 0) .warning
    "queue.selection_window is 0: treated as 1 (always serve the stalest box)" ++
  findingIf (decide (queue.resyncSeconds < queue.retrySeconds)) .warning
    "queue.retry_interval_secs exceeds queue.resync_interval_secs" ++
  findingIf (http.dequeueSeconds == 0 || http.requestSeconds == 0) .error
    "http timeouts must be at least 1 second" ++
  findingIf (settings.store.maxConnections == 0) .error
    "store.max_connections must be at least 1"

/-- Refuses settings for their first error. -/
def check (settings : Settings) : Except Fault Unit :=
  match settings.review.find? fun finding => finding.severity == .error with
  | none => .ok ()
  | some finding => .error (.settings finding.message)

private theorem no_error_findingIf {condition : Bool} {severity : Severity}
    {message : String} :
    (∀ finding ∈ findingIf condition severity message, finding.severity ≠ .error) ↔
      (severity = .error → condition = false) := by
  cases condition with
  | false =>
      simp [findingIf]
  | true =>
      simp [findingIf]

/-- Settings are refused for values of zero and for nothing else. -/
theorem check_eq_ok_iff (settings : Settings) :
    settings.check = .ok () ↔
      settings.queue.resyncSeconds ≠ 0 ∧ settings.queue.bufferCapacity ≠ 0 ∧
        settings.http.dequeueSeconds ≠ 0 ∧ settings.http.requestSeconds ≠ 0 ∧
        settings.store.maxConnections ≠ 0 := by
  have accepted : settings.check = .ok () ↔
      ∀ finding ∈ settings.review, finding.severity ≠ .error := by
    unfold check
    split
    · rename_i none
      simpa using none
    · rename_i finding found
      have isError : finding.severity = .error := by
        simpa using List.find?_some found
      simp only [reduceCtorEq, false_iff]
      exact fun none => none finding (List.mem_of_find?_eq_some found) isError
  rw [accepted]
  simp only [review, List.mem_append, or_imp, forall_and, no_error_findingIf]
  simp [and_assoc]

end Settings

end StalestFirst
