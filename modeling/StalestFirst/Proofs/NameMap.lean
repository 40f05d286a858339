import Mathlib
import StalestFirst.NameMap

namespace StalestFirst.NameMap

variable {α : Type}

/-! ## Looking up names

A map is known by what it files under each name. -/

theorem valueOf_eq_some_iff
    {entries : List (String × α)} (ascending : entries.Pairwise Before)
    {name : String} {value : α} :
    valueOf name entries = some value ↔ (name, value) ∈ entries := by
  induction entries with
  | nil =>
      simp [valueOf]
  | cons head rest inductionHypothesis =>
      obtain ⟨headBefore, restAscending⟩ := List.pairwise_cons.1 ascending
      unfold valueOf
      by_cases sameName : head.1 = name
      · have absent : (name, value) ∉ rest := by
          intro member
          have later := headBefore _ member
          unfold Before at later
          exact String.lt_irrefl _ (sameName ▸ later)
        rw [if_pos sameName, List.mem_cons, or_iff_left absent]
        constructor
        · intro equality
          exact Prod.ext sameName.symm (Option.some.inj equality).symm
        · intro equality
          rw [← equality]
      · rw [if_neg sameName, inductionHypothesis restAscending, List.mem_cons]
        constructor
        · exact Or.inr
        · rintro (rfl | member)
          · exact absurd rfl sameName
          · exact member

theorem get?_eq_some_iff {map : NameMap α} {name : String} {value : α} :
    map.get? name = some value ↔ (name, value) ∈ map.entries :=
  valueOf_eq_some_iff map.ascending

theorem valueOf_setEntry
    (name other : String) (value : α) (entries : List (String × α)) :
    valueOf other (setEntry name value entries) =
      if name = other then some value else valueOf other entries := by
  induction entries with
  | nil =>
      simp [setEntry, valueOf]
  | cons head rest inductionHypothesis =>
      unfold setEntry
      split
      · simp [valueOf]
      · split
        · rename_i sameName
          by_cases asked : name = other
          · simp [valueOf, asked]
          · have headOther : head.1 ≠ other := fun equality =>
              asked (sameName.trans equality)
            simp [valueOf, asked, headOther]
        · rename_i otherName
          by_cases headAsked : head.1 = other
          · have notAsked : name ≠ other := fun equality =>
              otherName (equality.trans headAsked.symm)
            simp [valueOf, headAsked, notAsked]
          · simp [valueOf, headAsked, inductionHypothesis]

/-- Maps that file the same under every name are equal. -/
theorem ext_get? {left right : NameMap α}
    (same : ∀ name, left.get? name = right.get? name) : left = right := by
  have distinct (map : NameMap α) : map.entries.Nodup :=
    map.ascending.imp fun before equal => by
      rw [Before, equal] at before
      exact String.lt_irrefl _ before
  have permutation : left.entries.Perm right.entries := by
    rw [List.perm_ext_iff_of_nodup (distinct left) (distinct right)]
    intro entry
    rw [← get?_eq_some_iff, ← get?_eq_some_iff, same]
  apply ext
  apply List.Perm.eq_of_pairwise _ left.ascending right.ascending permutation
  intro first second _ _ before after
  exact absurd (String.lt_trans before after) (String.lt_irrefl _)

@[simp]
theorem get?_empty (name : String) :
    (empty : NameMap α).get? name = none :=
  rfl

@[simp]
theorem get?_insert (map : NameMap α) (name other : String) (value : α) :
    (map.insert name value).get? other =
      if name = other then some value else map.get? other :=
  valueOf_setEntry name other value map.entries

@[simp]
theorem get?_erase (map : NameMap α) (name other : String) :
    (map.erase name).get? other =
      if name = other then none else map.get? other := by
  ext value
  rw [get?_eq_some_iff]
  by_cases sameName : name = other
  · simp [erase, sameName]
  · simp [erase, sameName, Ne.symm sameName, get?_eq_some_iff]

/-! ## The names of a map -/

theorem names_nodup (map : NameMap α) : map.names.Nodup := by
  apply List.Pairwise.map _ _ map.ascending
  intro first second before same
  rw [Before, same] at before
  exact String.lt_irrefl _ before

theorem mem_names_iff {map : NameMap α} {name : String} :
    name ∈ map.names ↔ ∃ value, map.get? name = some value := by
  rw [names, List.mem_map]
  constructor
  · rintro ⟨⟨other, value⟩, member, rfl⟩
    exact ⟨value, get?_eq_some_iff.2 member⟩
  · rintro ⟨value, found⟩
    exact ⟨_, get?_eq_some_iff.1 found, rfl⟩

theorem isEmpty_iff {map : NameMap α} :
    map.isEmpty = true ↔ ∀ name, map.get? name = none := by
  rw [isEmpty, List.isEmpty_iff]
  constructor
  · intro noEntries name
    rw [get?, noEntries]
    rfl
  · intro nothing
    rw [List.eq_nil_iff_forall_not_mem]
    intro entry member
    have found : map.get? entry.1 = some entry.2 := get?_eq_some_iff.2 member
    rw [nothing] at found
    cases found

/-! ## Listing entries again -/

theorem setEntry_of_last {name : String} {value : α} {entries : List (String × α)}
    (last : ∀ entry ∈ entries, entry.1 < name) :
    setEntry name value entries = entries ++ [(name, value)] := by
  induction entries with
  | nil =>
      rfl
  | cons head rest inductionHypothesis =>
      have before := last head List.mem_cons_self
      have notFirst : ¬ name < head.1 := String.lt_asymm before
      have other : name ≠ head.1 := by
        rintro rfl
        exact notFirst before
      rw [setEntry, if_neg notFirst, if_neg other,
        inductionHypothesis fun entry member => last entry (List.mem_cons_of_mem head member),
        List.cons_append]

theorem entries_foldl_insert {entries : List (String × α)} {map : NameMap α}
    (ascending : (map.entries ++ entries).Pairwise Before) :
    (entries.foldl (fun map entry => map.insert entry.1 entry.2) map).entries =
      map.entries ++ entries := by
  induction entries generalizing map with
  | nil =>
      rw [List.foldl_nil, List.append_nil]
  | cons entry rest inductionHypothesis =>
      have last : ∀ earlier ∈ map.entries, earlier.1 < entry.1 := fun earlier member =>
        (List.pairwise_append.1 ascending).2.2 earlier member entry List.mem_cons_self
      have grown : (map.insert entry.1 entry.2).entries = map.entries ++ [entry] :=
        setEntry_of_last last
      rw [List.foldl_cons, inductionHypothesis, grown, List.append_assoc,
        List.singleton_append]
      rw [grown, List.append_assoc, List.singleton_append]
      exact ascending

/-- A map is made again from its own entries. -/
theorem ofList_entries (map : NameMap α) : ofList map.entries = map :=
  NameMap.ext (entries_foldl_insert map.ascending)

end StalestFirst.NameMap
