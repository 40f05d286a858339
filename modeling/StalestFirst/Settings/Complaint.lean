import StalestFirst.Yaml.Node
import StalestFirst.Yaml.Value

namespace StalestFirst.Settings

open StalestFirst.Yaml

/-! ## Complaints about documents

A document that gives no settings has a first part that is not what it must be. -/

/-- What is wrong with a part of a document: the names that lead to it, where it
starts, and what is wrong. -/
structure Complaint where
  path : List String
  place : Place
  reason : String
  deriving DecidableEq

def Complaint.message (complaint : Complaint) : String :=
  let path :=
    if complaint.path.isEmpty then ""
    else ".".intercalate complaint.path ++ ": "
  path ++ complaint.reason ++ complaint.place.remark

/-- Why a document is looked at no further: a part is wrong, or missing. -/
inductive Stop where
  | wrong (complaint : Complaint)
  | missing
  deriving DecidableEq

/-- What comes of looking at a part that a path leads to. -/
abbrev Examiner := List String → Node → Except Stop Unit

def refuse (path : List String) (place : Place) (reason : String) :
    Except Stop Unit :=
  .error (.wrong ⟨path, place, reason⟩)

/-- Refuses a part that is of another kind than it must be. A missing part is of no
kind. -/
def refuseKind (path : List String) (node : Node) (expected : String) :
    Except Stop Unit :=
  match node with
  | .missing => .error .missing
  | _ =>
      refuse path node.place
        ("invalid type: " ++ (Value.ofNode node).describe ++ ", expected " ++
          expected)

/-- Whether a scalar may spell a number: a plain one, or a literal one with the tag
of integers. -/
def mayBeNumber : Node → Bool
  | .scalar _ _ .plain _ => true
  | .scalar _ (some "tag:yaml.org,2002:int") .literal _ => true
  | _ => false

def spelledNumber? (node : Node) : Option Nat :=
  match node with
  | .scalar _ _ _ text => if mayBeNumber node then natural? text.toList else none
  | _ => none

def examineNumber (document : Document) (kind : String) (limit : Nat) : Examiner :=
  fun path node =>
    let part := document.resolve node
    match spelledNumber? part with
    | some number =>
        if number < limit then .ok ()
        else if number < 18446744073709551616 then
          refuse path part.place
            ("invalid value: " ++ (Value.integer number).describe ++
              ", expected " ++ kind)
        else refuseKind path part kind
    | none => refuseKind path part kind

/-- Examines the entries of a mapping that starts at a place, given the names that
have been seen. -/
def examineEntries (document : Document) (fields : List (String × Examiner))
    (path : List String) (place : Place) :
    (seen : List String) → List (Node × Node) → Except Stop Unit
  | _, [] => .ok ()
  | seen, (key, value) :: rest =>
      match document.resolve key with
      | .scalar _ _ _ name =>
          match fields.find? fun field => field.1 == name with
          | none => examineEntries document fields path place seen rest
          | some (_, examine) =>
              if seen.contains name then
                refuse path place ("duplicate field \x60" ++ name ++ "\x60")
              else do
                examine (path ++ [name]) value
                examineEntries document fields path place (name :: seen) rest
      | part => refuseKind path part "field identifier"

def examineRecord (document : Document) (kind : String)
    (fields : List (String × Examiner)) : Examiner :=
  fun path node =>
    match document.resolve node with
    | .mapping place entries => examineEntries document fields path place [] entries
    | .scalar _ _ .plain "" => .ok ()
    | part => refuseKind path part ("struct " ++ kind)

def examine (document : Document) : Except Stop Unit :=
  let limit := 18446744073709551616
  let word : Examiner := examineNumber document "u64" limit
  let size : Examiner := examineNumber document "usize" limit
  let shortWord : Examiner := examineNumber document "u32" 4294967296
  let queue := examineRecord document "QueueConfig" [
    ("resync_interval_secs", word), ("retry_interval_secs", word),
    ("buffer_capacity", size), ("selection_window", size)]
  let http := examineRecord document "HttpConfig" [
    ("request_timeout_secs", word), ("dequeue_timeout_secs", word),
    ("shutdown_grace_secs", word)]
  let store := examineRecord document "StoreConfig" [
    ("max_connections", shortWord), ("connect_timeout_secs", word)]
  examineRecord document "Config"
    [("queue", queue), ("http", http), ("store", store)] [] document.root

/-- The text of what is wrong with a document that gives no settings. A part that
is wrong counts before the end of the document. -/
def reproach (document : Document) : String :=
  match examine document, document.ending with
  | .error (.wrong complaint), _ => complaint.message
  | _, .broken flaw => flaw.message
  | _, _ =>
      "deserializing from YAML containing more than one document is not supported"

end StalestFirst.Settings
