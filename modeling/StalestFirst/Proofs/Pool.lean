import Mathlib
import StalestFirst.Pool.Basic

namespace StalestFirst

/-! ## Ascending rows -/

theorem Item.eq_mk_iff {item : Item} {id : String} {score : Int64} :
    item = ⟨id, score⟩ ↔ id = item.id ∧ score = item.score := by
  cases item
  rw [Item.mk.injEq]
  exact and_congr eq_comm eq_comm

/-- An item that is neither the other one nor before it comes after it. -/
theorem Item.Before.of_ne_of_not {first second : Item} (different : first ≠ second)
    (notBefore : ¬ first.Before second) : second.Before first := by
  by_cases sameId : first.id = second.id
  · have otherScore : first.score ≠ second.score := by
      intro sameScore
      exact different (Item.eq_mk_iff.2 ⟨sameId.symm, sameScore.symm⟩)
    have notLower : ¬ first.score < second.score := fun lower => notBefore (Or.inl lower)
    rw [Int64.lt_iff_toInt_lt] at notLower
    rw [ne_eq, ← Int64.toInt_inj] at otherScore
    exact Or.inl (Int64.lt_iff_toInt_lt.2 (by omega))
  · exact Item.Before.of_not sameId notBefore

theorem Item.nodup_of_ascending {rows : List Item}
    (ascending : rows.Pairwise Item.Before) : rows.Nodup := by
  apply ascending.imp
  intro first second before same
  rw [same] at before
  exact Item.Before.irrefl second before

/-- Ascending rows of the same items are equal. -/
theorem Item.rows_eq_of_mem_iff {left right : List Item}
    (leftAscending : left.Pairwise Item.Before) (rightAscending : right.Pairwise Item.Before)
    (sameItems : ∀ item, item ∈ left ↔ item ∈ right) : left = right := by
  have permutation : left.Perm right := by
    rw [List.perm_ext_iff_of_nodup (Item.nodup_of_ascending leftAscending)
      (Item.nodup_of_ascending rightAscending)]
    exact sameItems
  apply List.Perm.eq_of_pairwise _ leftAscending rightAscending permutation
  intro first second _ _ earlier later
  exact absurd (earlier.trans later) (Item.Before.irrefl first)

/-! ## The scores that a row stands for -/

/-- The score of the last item of a box in a row, if it has one. -/
def Item.latest? (items : List Item) (id : String) : Option Int64 :=
  (items.reverse.find? fun item => item.id == id).map Item.score

/-- The score of a box, or another one of it if that is higher. A box without a score
gets none. -/
def Item.newest : Option Int64 → Option Int64 → Option Int64
  | some score, some other => some (max score other)
  | mine, _ => mine

theorem Item.latest?_concat (items : List Item) (item : Item) (id : String) :
    latest? (items ++ [item]) id =
      if item.id = id then some item.score else latest? items id := by
  unfold latest?
  rw [List.reverse_concat]
  by_cases sameId : item.id = id
  · rw [if_pos sameId, List.find?_cons_of_pos (by simp [sameId]), Option.map_some]
  · rw [if_neg sameId, List.find?_cons_of_neg (by simp [sameId])]

theorem Item.latest?_of_last {earlier later : List Item} {item : Item}
    (last : item.id ∉ later.map Item.id) :
    latest? (earlier ++ item :: later) item.id = some item.score := by
  induction later using List.reverseRecOn with
  | nil =>
      rw [latest?_concat, if_pos rfl]
  | append_singleton later other inductionHypothesis =>
      rw [List.map_append, List.mem_append, not_or, List.map_singleton,
        List.mem_singleton] at last
      rw [← List.cons_append, ← List.append_assoc, latest?_concat, if_neg (Ne.symm last.2)]
      exact inductionHypothesis last.1

theorem Item.newest_none (mine : Option Int64) : newest mine none = mine := by
  cases mine with
  | none =>
      rfl
  | some score =>
      rfl

theorem Item.newest_some_of_lt {score other : Int64} (lower : score < other) :
    newest (some score) (some other) = some other := by
  have notHigher : score ≤ other := Int64.le_of_lt lower
  exact congrArg some (if_pos notHigher)

theorem Item.newest_some_of_not_lt {score other : Int64} (notLower : ¬ score < other) :
    newest (some score) (some other) = some score := by
  by_cases atMost : score ≤ other
  · have same : score = other := Int64.le_antisymm atMost (Int64.not_lt.1 notLower)
    rw [← same]
    exact congrArg some (if_pos (Int64.le_refl score))
  · exact congrArg some (if_neg atMost)

/-- A score that is raised to another one is not lower than that. -/
theorem Item.le_of_newest {mine : Option Int64} {score newer : Int64}
    (raised : newest mine (some score) = some newer) : score ≤ newer := by
  cases mine with
  | none =>
      cases raised
  | some own =>
      by_cases lower : own < score
      · rw [newest_some_of_lt lower] at raised
        rw [Option.some.inj raised]
        exact Int64.le_refl newer
      · rw [newest_some_of_not_lt lower] at raised
        rw [← Option.some.inj raised]
        exact Int64.not_lt.1 lower

theorem Item.newest_newest (mine other : Option Int64) :
    newest mine (newest mine other) = newest mine other := by
  cases mine with
  | none =>
      rfl
  | some own =>
      cases other with
      | none =>
          rw [newest_none, newest_some_of_not_lt Int64.lt_irrefl]
      | some score =>
          by_cases lower : own < score
          · rw [newest_some_of_lt lower, newest_some_of_lt lower]
          · rw [newest_some_of_not_lt lower, newest_some_of_not_lt Int64.lt_irrefl]

namespace Pool

/-! ## Looking up scores

A pool is known by the scores of its boxes: its ranking lists them in order. -/

theorem get?_eq_some_iff {pool : Pool} {id : String} {score : Int64} :
    pool.get? id = some score ↔ ⟨id, score⟩ ∈ pool.ranking := by
  obtain ⟨ranking, ranked, distinct⟩ := pool
  unfold get?
  simp only [Option.map_eq_some_iff]
  constructor
  · rintro ⟨found, search, rfl⟩
    have sameId : found.id = id := by
      simpa using List.find?_some search
    rw [← sameId]
    exact List.mem_of_find?_eq_some search
  · intro member
    cases search : ranking.find? (fun item => item.id == id) with
    | none =>
        have absent := List.find?_eq_none.1 search ⟨id, score⟩ member
        simp at absent
    | some found =>
        have sameId : found.id = id := by
          simpa using List.find?_some search
        have same : found = ⟨id, score⟩ :=
          List.inj_on_of_nodup_map distinct
            (List.mem_of_find?_eq_some search) member sameId
        exact ⟨found, rfl, by rw [same]⟩

theorem contains_iff_exists_get? {pool : Pool} {id : String} :
    pool.contains id = true ↔ ∃ score, pool.get? id = some score := by
  simp [contains, Option.isSome_iff_exists]

theorem contains_iff_mem_ids {pool : Pool} {id : String} :
    pool.contains id = true ↔ id ∈ pool.ranking.map Item.id := by
  rw [contains_iff_exists_get?, List.mem_map]
  constructor
  · rintro ⟨score, found⟩
    exact ⟨⟨id, score⟩, get?_eq_some_iff.1 found, rfl⟩
  · rintro ⟨item, member, rfl⟩
    exact ⟨item.score, get?_eq_some_iff.2 member⟩

theorem contains_of_mem {pool : Pool} {item : Item}
    (member : item ∈ pool.ranking) : pool.contains item.id = true :=
  contains_iff_mem_ids.2 (List.mem_map_of_mem member)

/-- Pools with the same scores are equal. -/
theorem eq_of_get?_eq {left right : Pool}
    (sameScores : ∀ id, left.get? id = right.get? id) : left = right := by
  apply Pool.ext
  apply Item.rows_eq_of_mem_iff left.ranked right.ranked
  intro item
  have inLeft : left.get? item.id = some item.score ↔ item ∈ left.ranking :=
    get?_eq_some_iff
  have inRight : right.get? item.id = some item.score ↔ item ∈ right.ranking :=
    get?_eq_some_iff
  rw [← inLeft, ← inRight, sameScores]

/-! ## Scores after an operation -/

@[simp]
theorem get?_empty (id : String) : empty.get? id = none :=
  rfl

@[simp]
theorem get?_erase (pool : Pool) (id other : String) :
    (pool.erase id).get? other =
      if id = other then none else pool.get? other := by
  ext score
  rw [get?_eq_some_iff]
  by_cases sameId : id = other
  · simp [erase, without, sameId]
  · simp [erase, without, sameId, Ne.symm sameId, get?_eq_some_iff]

@[simp]
theorem get?_upsert (pool : Pool) (id other : String) (score : Int64) :
    (pool.upsert id score).get? other =
      if id = other then some score else pool.get? other := by
  ext found
  rw [get?_eq_some_iff]
  by_cases sameId : id = other
  · subst sameId
    simp [upsert, mem_rankIn, mem_without, eq_comm]
  · simp [upsert, mem_rankIn, mem_without, sameId, Ne.symm sameId,
      get?_eq_some_iff]

@[simp]
theorem contains_erase (pool : Pool) (id other : String) :
    (pool.erase id).contains other = (pool.contains other && id != other) := by
  unfold contains
  rw [get?_erase]
  by_cases sameId : id = other
  · simp [sameId]
  · simp [sameId]

@[simp]
theorem contains_upsert (pool : Pool) (id other : String) (score : Int64) :
    (pool.upsert id score).contains other =
      (id == other || pool.contains other) := by
  unfold contains
  rw [get?_upsert]
  by_cases sameId : id = other
  · simp [sameId]
  · simp [sameId]

/-! ## Pools of rows of items -/

theorem ofList_concat (items : List Item) (item : Item) :
    ofList (items ++ [item]) = (ofList items).upsert item.id item.score := by
  unfold ofList
  rw [List.foldl_append]
  rfl

theorem mem_of_get?_ofList {items : List Item} {id : String} {score : Int64}
    (found : (ofList items).get? id = some score) : ⟨id, score⟩ ∈ items := by
  induction items using List.reverseRecOn with
  | nil =>
      cases found
  | append_singleton items item inductionHypothesis =>
      rw [ofList_concat, get?_upsert] at found
      split at found
      · rename_i sameId
        cases found
        rw [← sameId]
        exact List.mem_append_right items (List.mem_singleton_self item)
      · exact List.mem_append_left [item] (inductionHypothesis found)

@[simp]
theorem contains_ofList (items : List Item) (id : String) :
    (ofList items).contains id = true ↔ id ∈ items.map Item.id := by
  induction items using List.reverseRecOn with
  | nil =>
      simp [ofList, contains]
  | append_singleton items item inductionHypothesis =>
      rw [ofList_concat, contains_upsert, Bool.or_eq_true, beq_iff_eq,
        inductionHypothesis, List.map_append, List.mem_append,
        List.map_singleton, List.mem_singleton, or_comm, eq_comm]

/-- In a row that names no box twice, every item counts. -/
theorem get?_ofList_of_mem {items : List Item}
    (distinct : (items.map Item.id).Nodup) {item : Item}
    (member : item ∈ items) : (ofList items).get? item.id = some item.score := by
  have contained : (ofList items).contains item.id = true :=
    (contains_ofList items item.id).2 (List.mem_map_of_mem member)
  obtain ⟨score, found⟩ := contains_iff_exists_get?.1 contained
  have same : (⟨item.id, score⟩ : Item) = item :=
    List.inj_on_of_nodup_map distinct (mem_of_get?_ofList found) member rfl
  rw [found, ← congrArg Item.score same]

/-- Of the items of a box in a row the last one counts. -/
theorem get?_ofList (items : List Item) (id : String) :
    (ofList items).get? id = Item.latest? items id := by
  induction items using List.reverseRecOn with
  | nil =>
      rfl
  | append_singleton items item inductionHypothesis =>
      rw [ofList_concat, get?_upsert, Item.latest?_concat, inductionHypothesis]

/-- In a row that names no box twice, the order does not matter. -/
theorem ofList_eq_of_perm {items others : List Item} (distinct : (items.map Item.id).Nodup)
    (permuted : items.Perm others) : ofList others = ofList items := by
  have otherDistinct : (others.map Item.id).Nodup :=
    ((permuted.map Item.id).nodup_iff).1 distinct
  apply eq_of_get?_eq
  intro id
  ext score
  constructor
  · intro found
    have member : (⟨id, score⟩ : Item) ∈ items := permuted.mem_iff.2 (mem_of_get?_ofList found)
    exact get?_ofList_of_mem distinct member
  · intro found
    have member : (⟨id, score⟩ : Item) ∈ others := permuted.mem_iff.1 (mem_of_get?_ofList found)
    exact get?_ofList_of_mem otherDistinct member

/-- A pool of the boxes of a row has as many as the row has distinct ones. -/
theorem size_eq_length_dedup {pool : Pool} {ids : List String}
    (sameBoxes : ∀ id, pool.contains id = true ↔ id ∈ ids) :
    pool.size = ids.dedup.length := by
  have permutation : (pool.ranking.map Item.id).Perm ids.dedup := by
    rw [List.perm_ext_iff_of_nodup pool.distinct ids.nodup_dedup]
    intro id
    rw [← contains_iff_mem_ids, List.mem_dedup, sameBoxes]
  rw [size, ← permutation.length_eq, List.length_map]

/-! ## Scores that only move forward -/

@[simp]
theorem raised_id (other : Pool) (item : Item) :
    (other.raised item).id = item.id := by
  unfold raised
  split
  · rfl
  · split <;> rfl

/-- The score of a raised item is its own or that of the other pool. -/
theorem raised_cases (other : Pool) (item : Item) :
    other.raised item = item ∨
      other.get? item.id = some (other.raised item).score := by
  unfold raised
  cases found : other.get? item.id with
  | none =>
      exact Or.inl rfl
  | some score =>
      by_cases lower : item.score < score
      · simp [lower]
      · simp [lower]

theorem raised_of_get?_eq_none {other : Pool} {item : Item}
    (absent : other.get? item.id = none) : other.raised item = item := by
  unfold raised
  rw [absent]

theorem raised_of_le {other : Pool} {item : Item} {score : Int64}
    (found : other.get? item.id = some score) (notLower : item.score ≤ score) :
    other.raised item = ⟨item.id, score⟩ := by
  unfold raised
  rw [found]
  dsimp only
  split
  · rfl
  · rename_i notBelow
    have same : item.score = score :=
      Int64.le_antisymm notLower (Int64.not_lt.1 notBelow)
    rw [← same]

theorem get?_keepNewer (pool other : Pool) (id : String) :
    (pool.keepNewer other).get? id =
      (pool.get? id).map fun score => (other.raised ⟨id, score⟩).score := by
  have distinct : ((pool.ranking.map other.raised).map Item.id).Nodup := by
    rw [List.map_map]
    have sameIds : Item.id ∘ other.raised = Item.id := by
      funext item
      exact raised_id other item
    rw [sameIds]
    exact pool.distinct
  cases found : pool.get? id with
  | none =>
      have absent : (pool.keepNewer other).contains id ≠ true := by
        intro contained
        obtain ⟨item, member, rfl⟩ :=
          List.mem_map.1 ((contains_ofList _ id).1 contained)
        obtain ⟨original, originalMember, rfl⟩ := List.mem_map.1 member
        have present := contains_of_mem originalMember
        rw [raised_id] at found
        simp [contains, found] at present
      simpa [contains] using absent
  | some score =>
      have member := List.mem_map_of_mem (f := other.raised)
        (get?_eq_some_iff.1 found)
      have looked := get?_ofList_of_mem distinct member
      rw [raised_id] at looked
      exact looked

/-- The higher of the two scores is kept. -/
theorem get?_keepNewer_eq_newest (pool other : Pool) (id : String) :
    (pool.keepNewer other).get? id = Item.newest (pool.get? id) (other.get? id) := by
  rw [get?_keepNewer]
  cases pool.get? id with
  | none =>
      rfl
  | some score =>
      cases found : other.get? id with
      | none =>
          simp [raised, found, Item.newest_none]
      | some newer =>
          by_cases lower : score < newer
          · simp [raised, found, lower, Item.newest_some_of_lt]
          · simp [raised, found, lower, Item.newest_some_of_not_lt]

@[simp]
theorem contains_keepNewer (pool other : Pool) (id : String) :
    (pool.keepNewer other).contains id = pool.contains id := by
  unfold contains
  rw [get?_keepNewer, Option.isSome_map]

/-! ## The last place -/

theorem rankIn_of_last {item : Item} {ranking : List Item}
    (last : ∀ other ∈ ranking, other.score < item.score) :
    rankIn item ranking = ranking ++ [item] := by
  induction ranking with
  | nil =>
      rfl
  | cons head rest inductionHypothesis =>
      have headLower : head.score < item.score :=
        last head (List.mem_cons_self ..)
      have notFirst : ¬ item.Before head := fun first =>
        Item.Before.irrefl item (first.trans (Or.inl headLower))
      have restLast : ∀ other ∈ rest, other.score < item.score :=
        fun other member => last other (List.mem_cons_of_mem head member)
      rw [rankIn, if_neg notFirst, inductionHypothesis restLast]
      rfl

/-- A box that gets a score above all others goes to the last place. -/
theorem ranking_upsert_of_last {pool : Pool} {id : String} {score : Int64}
    (last : ∀ other ∈ pool.ranking, other.score < score) :
    (pool.upsert id score).ranking = without id pool.ranking ++ [⟨id, score⟩] :=
  rankIn_of_last fun other member => last other (mem_without.1 member).1

end Pool

end StalestFirst
