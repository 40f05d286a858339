import Mathlib
import StalestFirst.Proofs.Service.Remote

namespace StalestFirst

/-! ## What a client makes of replies -/

/-- The ways to take a reply with a status, by the envelope that is read in its body, if
one is. -/
inductive QueueClient.Takes {α : Type} (status : Nat) :
    Option (Envelope α) → Except ClientFault α → Prop
  | refusal {envelope : Envelope α} {error : ErrorBody} (told : envelope.error = some error) :
      Takes status (some envelope) (.error (.remote status error))
  | result {envelope : Envelope α} {result : α} (success : Http.isSuccess status = true)
      (noError : envelope.error = none) (given : envelope.result = some result) :
      Takes status (some envelope) (.ok result)
  | failed {decoded : Option (Envelope α)} (url : String)
      (failure : Http.isSuccess status = false)
      (noError : ∀ envelope ∈ decoded, envelope.error = none) :
      Takes status decoded (.error (.status status url))
  | unreadable {decoded : Option (Envelope α)} (reason : String)
      (success : Http.isSuccess status = true)
      (nothing : ∀ envelope ∈ decoded, envelope.error = none ∧ envelope.result = none) :
      Takes status decoded (.error (.unreadable reason))

namespace QueueClient

theorem takes_read {α : Type} [Wire α] (client : QueueClient) (action : String)
    (status : Nat) (body : List UInt8) :
    Takes status (Wire.ofBytes? body : Option (Envelope α))
      (client.read action (.replied status body)) := by
  simp only [read]
  generalize (Wire.ofBytes? body : Option (Envelope α)) = decoded
  cases decoded with
  | none =>
      cases success : Http.isSuccess status with
      | true =>
          exact .unreadable _ success (by simp)
      | false =>
          exact .failed _ success (by simp)
  | some envelope =>
      cases told : envelope.error with
      | some error =>
          simp only [Option.bind_some, told]
          exact .refusal told
      | none =>
          simp only [Option.bind_some, told]
          cases success : Http.isSuccess status with
          | false =>
              exact .failed _ success (by simpa using told)
          | true =>
              cases given : envelope.result with
              | some result =>
                  exact .result success told given
              | none =>
                  exact .unreadable _ success (by simpa using ⟨told, given⟩)

namespace Takes

variable {α : Type} {status : Nat} {decoded : Option (Envelope α)}
  {told : Except ClientFault α}

/-- A result is what a success brings that comes without an error. -/
theorem eq_ok_iff (takes : Takes status decoded told) {result : α} :
    told = .ok result ↔ Http.isSuccess status = true ∧
      ∃ envelope, decoded = some envelope ∧ envelope.error = none ∧
        envelope.result = some result := by
  cases takes with
  | refusal refused =>
      simp [refused]
  | result success noError given =>
      simp [success, noError, given]
  | failed url failure noError =>
      simp [failure]
  | unreadable reason success nothing =>
      refine ⟨nofun, ?_⟩
      rintro ⟨_, envelope, decoded, _, given⟩
      rw [(nothing envelope decoded).2] at given
      cases given

/-- An error is passed on with the status that it comes with, whatever that is. -/
theorem eq_remote_iff (takes : Takes status decoded told) {code : Nat} {error : ErrorBody} :
    told = .error (.remote code error) ↔ code = status ∧
      ∃ envelope, decoded = some envelope ∧ envelope.error = some error := by
  cases takes with
  | refusal refused =>
      simp [refused, eq_comm]
  | result success noError given =>
      simp [noError]
  | failed url failure noError =>
      refine ⟨nofun, ?_⟩
      rintro ⟨_, envelope, decoded, refused⟩
      rw [noError envelope decoded] at refused
      cases refused
  | unreadable reason success nothing =>
      refine ⟨nofun, ?_⟩
      rintro ⟨_, envelope, decoded, refused⟩
      rw [(nothing envelope decoded).1] at refused
      cases refused

/-- The status alone is told of a failure without an error. -/
theorem eq_status_iff (takes : Takes status decoded told) {code : Nat} :
    (∃ url, told = .error (.status code url)) ↔ code = status ∧
      Http.isSuccess status = false ∧ ∀ envelope ∈ decoded, envelope.error = none := by
  cases takes with
  | refusal refused =>
      simp [refused]
  | result success noError given =>
      simp [success]
  | failed url failure noError =>
      simpa [failure, eq_comm] using fun _ => noError
  | unreadable reason success nothing =>
      simp [success]

/-- A success that brings neither a result nor an error is unreadable. -/
theorem eq_unreadable_iff (takes : Takes status decoded told) :
    (∃ reason, told = .error (.unreadable reason)) ↔ Http.isSuccess status = true ∧
      ∀ envelope ∈ decoded, envelope.error = none ∧ envelope.result = none := by
  cases takes with
  | refusal refused =>
      simp [refused]
  | result success noError given =>
      simp [given]
  | failed url failure noError =>
      simp [failure]
  | unreadable reason success nothing =>
      simpa [success] using nothing

/-- A reply is not taken for a lost exchange, nor for a fault of a queue in the same
process. -/
theorem nothing_else (takes : Takes status decoded told) :
    (∀ timedOut reason, told ≠ .error (.exchange timedOut reason)) ∧
      ∀ fault, told ≠ .error (.queue fault) := by
  cases takes with
  | _ =>
      exact ⟨nofun, nofun⟩

end Takes

/-- The bytes of an answer to a client. -/
def replyOf {α : Type} [Wire α] (metadata : Metadata) (outcome : Except Failure α) :
    Exchange :=
  .replied (Reply.ofOutcome metadata outcome).status
    (Text.Utf8.encode (Reply.ofOutcome metadata outcome).body.toList)

/-- What a client is to hear of an outcome. -/
def heard {α : Type} (outcome : Except Failure α) : Except ClientFault α :=
  outcome.mapError fun failure =>
    .remote (Refusal.ofFailure failure).status (Refusal.ofFailure failure).error

/-- What a client makes of a reply, with any status and any bytes, depends on the envelope
that they hold, if they hold one. A result is told exactly if the status is one of success
and the envelope holds it and no error; an error of the service exactly if the envelope
holds it, with the status as it is; the status alone exactly if it is no success and there
is no error; and that the reply is unreadable exactly if it is a success with neither.
Nothing else is told. The bytes that are written for an envelope hold it, whether a
result, an error, both or neither is in it. What the queue service answers to any query
is therefore heard as it was: the result of taking an item or of drawing a box, or else
the status and the error of the refusal. -/
theorem replies_classified :
    (∀ {α : Type} [Wire α] (client : QueueClient) (action : String) (status : Nat)
      (body : List UInt8),
      let told : Except ClientFault α := client.read action (.replied status body)
      let decoded : Option (Envelope α) := Wire.ofBytes? body
      (∀ result, told = .ok result ↔ Http.isSuccess status = true ∧
        ∃ envelope, decoded = some envelope ∧ envelope.error = none ∧
          envelope.result = some result) ∧
      (∀ code error, told = .error (.remote code error) ↔ code = status ∧
        ∃ envelope, decoded = some envelope ∧ envelope.error = some error) ∧
      (∀ code, (∃ url, told = .error (.status code url)) ↔ code = status ∧
        Http.isSuccess status = false ∧ ∀ envelope ∈ decoded, envelope.error = none) ∧
      ((∃ reason, told = .error (.unreadable reason)) ↔ Http.isSuccess status = true ∧
        ∀ envelope ∈ decoded, envelope.error = none ∧ envelope.result = none) ∧
      (∀ timedOut reason, told ≠ .error (.exchange timedOut reason)) ∧
      ∀ fault, told ≠ .error (.queue fault)) ∧
    ((∀ envelope : Envelope Accepted,
        Wire.ofBytes? (Text.Utf8.encode (Wire.print envelope).toList) = some envelope) ∧
      ∀ envelope : Envelope Drawn,
        Wire.ofBytes? (Text.Utf8.encode (Wire.print envelope).toList) = some envelope) ∧
    ∀ (client : QueueClient) (action : String) (query : ActionQuery),
      (∀ outcome : Except Failure Accepted,
        client.read action (replyOf query.metadata outcome) = heard outcome ∧
        client.readAccept (replyOf query.metadata outcome) =
          (heard outcome).map fun _ => ()) ∧
      ∀ outcome : Except Failure Drawn,
        client.read action (replyOf query.metadata outcome) = heard outcome ∧
        client.readDraw (replyOf query.metadata outcome) =
          (heard outcome).map Drawn.id := by
  refine ⟨?_, ⟨Wire.ofBytes?_encode_print, Wire.ofBytes?_encode_print⟩, ?_⟩
  · intro α _ client action status body told decoded
    have takes : Takes status decoded told := takes_read client action status body
    refine ⟨fun _ => takes.eq_ok_iff, fun _ _ => takes.eq_remote_iff,
      fun _ => takes.eq_status_iff, takes.eq_unreadable_iff, takes.nothing_else⟩
  · intro client action query
    refine ⟨fun outcome => ⟨read_ofOutcome client action query.metadata outcome, ?_⟩,
      fun outcome => ⟨read_ofOutcome client action query.metadata outcome, ?_⟩⟩
    · exact congrArg (Except.map fun _ => ())
        (read_ofOutcome client "Sync" query.metadata outcome)
    · exact congrArg (Except.map Drawn.id)
        (read_ofOutcome client "Dequeue" query.metadata outcome)

end QueueClient

end StalestFirst
