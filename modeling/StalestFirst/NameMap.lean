namespace StalestFirst

/-! ## Finite maps keyed by names

A map is the list of its entries in strictly ascending order of their names, so
two maps with the same entries are equal. -/

/-- One entry comes before another when its name does. -/
def NameMap.Before {α : Type} (first second : String × α) : Prop :=
  first.1 < second.1

/-- A finite map from names to values. -/
structure NameMap (α : Type) where
  entries : List (String × α)
  ascending : entries.Pairwise NameMap.Before

namespace NameMap

variable {α : Type}

@[ext]
theorem ext {left right : NameMap α}
    (equality : left.entries = right.entries) : left = right := by
  cases left
  cases right
  cases equality
  rfl

instance [DecidableEq α] : DecidableEq (NameMap α) := fun left right =>
  decidable_of_iff (left.entries = right.entries)
    ⟨NameMap.ext, fun equality => by rw [equality]⟩

/-! ## Operations on the entries -/

def setEntry (name : String) (value : α) :
    List (String × α) → List (String × α)
  | [] => [(name, value)]
  | entry :: rest =>
      if name < entry.1 then (name, value) :: entry :: rest
      else if name = entry.1 then (name, value) :: rest
      else entry :: setEntry name value rest

def valueOf (name : String) : List (String × α) → Option α
  | [] => none
  | entry :: rest => if entry.1 = name then some entry.2 else valueOf name rest

theorem mem_setEntry
    {name : String} {value : α} {entry : String × α}
    {entries : List (String × α)}
    (member : entry ∈ setEntry name value entries) :
    entry = (name, value) ∨ entry ∈ entries := by
  induction entries with
  | nil =>
      exact Or.inl (by simpa [setEntry] using member)
  | cons head rest inductionHypothesis =>
      unfold setEntry at member
      split at member
      · rcases List.mem_cons.1 member with rfl | later
        · exact Or.inl rfl
        · exact Or.inr later
      · split at member
        · rcases List.mem_cons.1 member with rfl | later
          · exact Or.inl rfl
          · exact Or.inr (List.mem_cons_of_mem _ later)
        · rcases List.mem_cons.1 member with rfl | later
          · exact Or.inr (List.mem_cons_self ..)
          · rcases inductionHypothesis later with rfl | earlier
            · exact Or.inl rfl
            · exact Or.inr (List.mem_cons_of_mem _ earlier)

theorem pairwise_setEntry
    (name : String) (value : α) {entries : List (String × α)}
    (ascending : entries.Pairwise Before) :
    (setEntry name value entries).Pairwise Before := by
  induction entries with
  | nil =>
      exact List.pairwise_singleton _ _
  | cons head rest inductionHypothesis =>
      obtain ⟨headBefore, restAscending⟩ := List.pairwise_cons.1 ascending
      unfold setEntry
      split
      · rename_i nameFirst
        refine List.pairwise_cons.2 ⟨?_, ascending⟩
        intro entry member
        rcases List.mem_cons.1 member with rfl | later
        · exact nameFirst
        · exact String.lt_trans nameFirst (headBefore entry later)
      · rename_i notFirst
        split
        · rename_i sameName
          refine List.pairwise_cons.2 ⟨?_, restAscending⟩
          intro entry member
          have later := headBefore entry member
          unfold Before at later ⊢
          simpa [sameName] using later
        · rename_i otherName
          refine List.pairwise_cons.2
            ⟨?_, inductionHypothesis restAscending⟩
          intro entry member
          rcases mem_setEntry member with rfl | later
          · exact Std.lt_of_le_of_ne (String.not_lt.1 notFirst)
              (Ne.symm otherName)
          · exact headBefore entry later

/-! ## The maps -/

def empty : NameMap α := ⟨[], List.Pairwise.nil⟩

instance : Inhabited (NameMap α) := ⟨empty⟩

instance : EmptyCollection (NameMap α) := ⟨empty⟩

def get? (map : NameMap α) (name : String) : Option α :=
  valueOf name map.entries

def contains (map : NameMap α) (name : String) : Bool :=
  (map.get? name).isSome

def insert (map : NameMap α) (name : String) (value : α) : NameMap α :=
  ⟨setEntry name value map.entries,
    pairwise_setEntry name value map.ascending⟩

def erase (map : NameMap α) (name : String) : NameMap α :=
  ⟨map.entries.filter fun entry => entry.1 != name,
    map.ascending.filter _⟩

/-- The map of a list of entries, of which the last one of a name counts. -/
def ofList (entries : List (String × α)) : NameMap α :=
  entries.foldl (fun map entry => map.insert entry.1 entry.2) empty

def size (map : NameMap α) : Nat := map.entries.length

def isEmpty (map : NameMap α) : Bool := map.entries.isEmpty

/-- The names of the map, ascending. -/
def names (map : NameMap α) : List String := map.entries.map Prod.fst

end NameMap

end StalestFirst
