import StalestFirst.Settings.Document
import StalestFirst.Settings.Review
import StalestFirst.Wire.Messages

namespace StalestFirst

open Json

/-! ## Settings and findings as JSON -/

instance : Wire QueueSettings where
  toJson settings := record [
    ("resync_interval_secs", Wire.toJson settings.resyncSeconds),
    ("retry_interval_secs", Wire.toJson settings.retrySeconds),
    ("buffer_capacity", Wire.toJson settings.bufferCapacity),
    ("selection_window", Wire.toJson settings.selectionWindow)]
  ofJson? := Settings.Form.queue? ⟨slots?, natBelow?⟩

instance : Wire HttpSettings where
  toJson settings := record [
    ("request_timeout_secs", Wire.toJson settings.requestSeconds),
    ("dequeue_timeout_secs", Wire.toJson settings.dequeueSeconds),
    ("shutdown_grace_secs", Wire.toJson settings.graceSeconds)]
  ofJson? := Settings.Form.http? ⟨slots?, natBelow?⟩

instance : Wire StoreSettings where
  toJson settings := record [
    ("max_connections", .integer settings.maxConnections.toNat),
    ("connect_timeout_secs", Wire.toJson settings.connectSeconds)]
  ofJson? := Settings.Form.store? ⟨slots?, natBelow?⟩

instance : Wire Settings where
  toJson settings := record [
    ("queue", Wire.toJson settings.queue),
    ("http", Wire.toJson settings.http),
    ("store", Wire.toJson settings.store)]
  ofJson? := Settings.Form.settings? ⟨slots?, natBelow?⟩

def Severity.ofName? (name : String) : Option Severity :=
  if name = "warning" then some .warning
  else if name = "error" then some .error
  else none

/-- A severity is written as its name. An object that has null under that name
alone is read too. -/
instance : Wire Severity where
  toJson
    | .warning => .text "warning"
    | .error => .text "error"
  ofJson?
    | .text name => Severity.ofName? name
    | .object [(some name, .null)] => Severity.ofName? name
    | _ => none

instance : Wire Finding where
  toJson finding := record [
    ("level", Wire.toJson finding.severity),
    ("message", Wire.toJson finding.message)]
  ofJson? json := do
    match ← slots? ["level", "message"] json with
    | [severity, message] =>
        pure {
          severity := ← severity.required Wire.ofJson?
          message := ← message.required Wire.ofJson? }
    | _ => none

end StalestFirst
