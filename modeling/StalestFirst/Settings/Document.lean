import StalestFirst.Settings.Basic
import StalestFirst.Slot

namespace StalestFirst.Settings

/-! ## Settings from documents

Settings are read alike from documents of any form. What a document does not name
keeps its standard value. -/

/-- A form of documents: what a part of a document says about named fields, and
which number below a limit it is. -/
structure Form (β : Type) where
  slots? : List String → β → Option (List (Slot β))
  number? : Nat → β → Option Nat

namespace Form

variable {β : Type} (form : Form β)

def word? (part : β) : Option UInt64 :=
  (form.number? 18446744073709551616 part).map UInt64.ofNat

def shortWord? (part : β) : Option UInt32 :=
  (form.number? 4294967296 part).map UInt32.ofNat

def queue? (part : β) : Option QueueSettings := do
  match ← form.slots? ["resync_interval_secs", "retry_interval_secs",
      "buffer_capacity", "selection_window"] part with
  | [resync, retry, capacity, window] =>
      let standard := QueueSettings.standard
      pure {
        resyncSeconds := ← resync.orElse standard.resyncSeconds form.word?
        retrySeconds := ← retry.orElse standard.retrySeconds form.word?
        bufferCapacity := ← capacity.orElse standard.bufferCapacity form.word?
        selectionWindow := ← window.orElse standard.selectionWindow form.word? }
  | _ => none

def http? (part : β) : Option HttpSettings := do
  match ← form.slots? ["request_timeout_secs", "dequeue_timeout_secs",
      "shutdown_grace_secs"] part with
  | [request, dequeue, grace] =>
      let standard := HttpSettings.standard
      pure {
        requestSeconds := ← request.orElse standard.requestSeconds form.word?
        dequeueSeconds := ← dequeue.orElse standard.dequeueSeconds form.word?
        graceSeconds := ← grace.orElse standard.graceSeconds form.word? }
  | _ => none

def store? (part : β) : Option StoreSettings := do
  match ← form.slots? ["max_connections", "connect_timeout_secs"] part with
  | [connections, connect] =>
      let standard := StoreSettings.standard
      pure {
        maxConnections :=
          ← connections.orElse standard.maxConnections form.shortWord?
        connectSeconds := ← connect.orElse standard.connectSeconds form.word? }
  | _ => none

def settings? (document : β) : Option Settings := do
  match ← form.slots? ["queue", "http", "store"] document with
  | [queue, http, store] =>
      pure {
        queue := ← queue.orElse .standard form.queue?
        http := ← http.orElse .standard form.http?
        store := ← store.orElse .standard form.store? }
  | _ => none

end Form

end StalestFirst.Settings
