import StalestFirst.Yaml.Scalar

namespace StalestFirst.Yaml

/-! ## Trees

A document is a tree of scalars, sequences and mappings, with aliases that stand
for parts of it. Where a stream breaks off, the tree has a missing part, and what
holds that part ends with it. -/

/-- A part of a document, with the place where it starts. Tags of sequences and
mappings do not matter here. -/
inductive Node where
  | scalar (place : Place) (tag : Option String) (style : Style) (text : String)
  | sequence (place : Place) (items : List Node)
  | mapping (place : Place) (entries : List (Node × Node))
  | alias (place : Place) (anchor : Nat)
  | missing

/-- A part that is not written, at the place where it might be. -/
def Node.absent (place : Place) : Node := .scalar place none .plain ""

instance : Inhabited Node := ⟨.absent .origin⟩

def Node.place : Node → Place
  | .scalar place _ _ _ | .sequence place _ | .mapping place _ | .alias place _ =>
      place
  | .missing => .origin

/-- A part that aliases may stand for: the number of its anchor, its rank among
the parts with anchors, by where they start, and the part itself. -/
structure Anchored where
  anchor : Nat
  rank : Nat
  node : Node

/-- How the only document of a stream ends: alone, before more of the stream, or
where the stream breaks off. -/
inductive Ending where
  | alone
  | followed
  | broken (flaw : Flaw)
  deriving DecidableEq

structure Document where
  root : Node
  anchored : List Anchored
  ending : Ending

namespace Document

/-- The document without content: an empty scalar. -/
def empty : Document := ⟨default, [], .alone⟩

/-- The document of which a flaw leaves nothing. -/
def broken (flaw : Flaw) : Document := ⟨.missing, [], .broken flaw⟩

def later (left : Option Anchored) (right : Anchored) : Option Anchored :=
  match left with
  | none => some right
  | some earlier => if earlier.rank < right.rank then some right else left

/-- The part that an alias stands for: of the parts with its number, the one that
starts last. -/
def target? (document : Document) (anchor : Nat) : Option Node :=
  let parts := document.anchored.filter fun part => part.anchor == anchor
  (parts.foldl later none).map Anchored.node

/-- A part itself, or the part that it stands for. -/
def resolve (document : Document) (node : Node) : Node :=
  match node with
  | .alias _ anchor => (document.target? anchor).getD node
  | _ => node

end Document

end StalestFirst.Yaml
