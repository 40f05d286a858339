import StalestFirst.NameMap
import StalestFirst.Text.Utf8

namespace StalestFirst

/-! ## Reading files -/

inductive FileFault where
  | missing
  | directory
  | notDirectory
  | nameTooLong
  | holdsNull
  | notText
  | other (reason : String)
  deriving DecidableEq

def FileFault.message : FileFault → String
  | .missing => "No such file or directory (os error 2)"
  | .directory => "Is a directory (os error 21)"
  | .notDirectory => "Not a directory (os error 20)"
  | .nameTooLong => "File name too long (os error 36)"
  | .holdsNull => "file name contained an unexpected NUL byte"
  | .notText => "stream did not contain valid UTF-8"
  | .other reason => reason

/-! ## Folders

A folder stands for the directory that relative paths start from. -/

inductive FileEntry where
  | file (bytes : List UInt8)
  | directory

/-- Files and directories under their paths, which are names joined by slashes. -/
structure Folder where
  entries : NameMap FileEntry

namespace Folder

def empty : Folder := ⟨NameMap.empty⟩

def namesOf (path : List Char) : List (List Char) :=
  (path.splitOn '/').filter fun name => !name.isEmpty

def pathOf (names : List (List Char)) : String :=
  String.ofList (['/'].intercalate names)

/-- What a row of names leads to. A directory is there as soon as something in it
is. -/
def target? (folder : Folder) (names : List (List Char)) : Option FileEntry :=
  match folder.entries.get? (pathOf names) with
  | some entry => some entry
  | none =>
      let start := (pathOf names).toList ++ ['/']
      if folder.entries.entries.any fun entry =>
          start.isPrefixOf entry.1.toList then some .directory
      else none

/-- Follows names from an entry that a row of names leads to. Nothing is known
outside the folder. -/
def follow (folder : Folder) : List (List Char) → List (List Char) → FileEntry →
    Except FileFault FileEntry
  | _, [], entry => .ok entry
  | _, _ :: _, .file _ => .error .notDirectory
  | place, name :: rest, .directory =>
      if 255 < (Text.Utf8.encode name).length then .error .nameTooLong
      else if name = ['.'] then follow folder place rest .directory
      else if name = ['.', '.'] then
        match place with
        | [] => if rest.isEmpty then .ok .directory else .error .missing
        | _ => follow folder place.dropLast rest .directory
      else
        match folder.target? (place ++ [name]) with
        | none => .error .missing
        | some entry => follow folder (place ++ [name]) rest entry

def read (folder : Folder) (path : String) : Except FileFault (List UInt8) :=
  let text := path.toList
  if text.isEmpty then .error .missing
  else if text.contains (Char.ofNat 0) then .error .holdsNull
  else if 4096 ≤ (Text.Utf8.encode text).length then .error .nameTooLong
  else if text.head? = some '/' then
    if (namesOf text).isEmpty then .error .directory else .error .missing
  else
    match folder.follow [] (namesOf text) .directory with
    | .error fault => .error fault
    | .ok .directory => .error .directory
    | .ok (.file bytes) =>
        if text.getLast? = some '/' then .error .notDirectory else .ok bytes

end Folder

end StalestFirst
