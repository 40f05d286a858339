import StalestFirst.Item

namespace StalestFirst

/-! ## The pool of boxes

The pool holds the boxes that may be served, the stalest first. -/

/-- A row of items in ascending rank, with no box twice. -/
structure Pool where
  ranking : List Item
  ranked : ranking.Pairwise Item.Before
  distinct : (ranking.map Item.id).Nodup

namespace Pool

@[ext]
theorem ext {left right : Pool}
    (equality : left.ranking = right.ranking) : left = right := by
  cases left
  cases right
  cases equality
  rfl

instance : DecidableEq Pool := fun left right =>
  decidable_of_iff (left.ranking = right.ranking)
    ⟨Pool.ext, fun equality => by rw [equality]⟩

/-! ## Operations on rankings -/

/-- The ranking with `item` put in at its rank. -/
def rankIn (item : Item) : List Item → List Item
  | [] => [item]
  | head :: rest =>
      if item.Before head then item :: head :: rest
      else head :: rankIn item rest

def without (id : String) (ranking : List Item) : List Item :=
  ranking.filter fun item => item.id != id

theorem mem_rankIn {item other : Item} {ranking : List Item} :
    other ∈ rankIn item ranking ↔ other = item ∨ other ∈ ranking := by
  induction ranking with
  | nil =>
      simp [rankIn]
  | cons head rest inductionHypothesis =>
      unfold rankIn
      split
      · simp
      · simp only [List.mem_cons, inductionHypothesis]
        constructor
        · rintro (rfl | rfl | later)
          · exact Or.inr (Or.inl rfl)
          · exact Or.inl rfl
          · exact Or.inr (Or.inr later)
        · rintro (rfl | rfl | later)
          · exact Or.inr (Or.inl rfl)
          · exact Or.inl rfl
          · exact Or.inr (Or.inr later)

theorem mem_without {id : String} {item : Item} {ranking : List Item} :
    item ∈ without id ranking ↔ item ∈ ranking ∧ item.id ≠ id := by
  simp [without]

theorem ranked_rankIn {item : Item} {ranking : List Item}
    (ranked : ranking.Pairwise Item.Before)
    (absent : ∀ other ∈ ranking, other.id ≠ item.id) :
    (rankIn item ranking).Pairwise Item.Before := by
  induction ranking with
  | nil =>
      exact List.pairwise_singleton _ _
  | cons head rest inductionHypothesis =>
      obtain ⟨headBefore, restRanked⟩ := List.pairwise_cons.1 ranked
      unfold rankIn
      split
      · rename_i first
        refine List.pairwise_cons.2 ⟨?_, ranked⟩
        intro other member
        rcases List.mem_cons.1 member with rfl | later
        · exact first
        · exact first.trans (headBefore other later)
      · rename_i notFirst
        refine List.pairwise_cons.2
          ⟨?_, inductionHypothesis restRanked fun other member =>
            absent other (List.mem_cons_of_mem _ member)⟩
        intro other member
        rcases mem_rankIn.1 member with rfl | later
        · exact Item.Before.of_not
            (Ne.symm (absent head (List.mem_cons_self ..))) notFirst
        · exact headBefore other later

theorem distinct_rankIn {item : Item} {ranking : List Item}
    (distinct : (ranking.map Item.id).Nodup)
    (absent : ∀ other ∈ ranking, other.id ≠ item.id) :
    ((rankIn item ranking).map Item.id).Nodup := by
  induction ranking with
  | nil =>
      simp [rankIn]
  | cons head rest inductionHypothesis =>
      have absentRest : ∀ other ∈ rest, other.id ≠ item.id :=
        fun other member => absent other (List.mem_cons_of_mem _ member)
      obtain ⟨headFresh, restDistinct⟩ :=
        List.nodup_cons.1 (show (head.id :: rest.map Item.id).Nodup from distinct)
      unfold rankIn
      split
      · refine List.nodup_cons.2 ⟨?_, distinct⟩
        intro member
        obtain ⟨other, otherMember, sameId⟩ := List.mem_map.1 member
        exact absent other otherMember sameId
      · refine List.nodup_cons.2
          ⟨?_, inductionHypothesis restDistinct absentRest⟩
        intro member
        obtain ⟨other, otherMember, sameId⟩ := List.mem_map.1 member
        rcases mem_rankIn.1 otherMember with rfl | later
        · exact absent head (List.mem_cons_self ..) sameId.symm
        · exact headFresh (List.mem_map.2 ⟨other, later, sameId⟩)

private theorem absent_without (id : String) (ranking : List Item) :
    ∀ other ∈ without id ranking, other.id ≠ id :=
  fun _ member => (mem_without.1 member).2

/-! ## Operations on pools -/

def empty : Pool := ⟨[], List.Pairwise.nil, List.nodup_nil⟩

instance : Inhabited Pool := ⟨empty⟩

def erase (pool : Pool) (id : String) : Pool where
  ranking := without id pool.ranking
  ranked := pool.ranked.filter _
  distinct := pool.distinct.sublist (List.filter_sublist.map Item.id)

/-- The pool in which the box `id` has the score `score`, whether it was there
before or not. -/
def upsert (pool : Pool) (id : String) (score : Int64) : Pool where
  ranking := rankIn ⟨id, score⟩ (without id pool.ranking)
  ranked := ranked_rankIn (pool.erase id).ranked (absent_without id _)
  distinct := distinct_rankIn (pool.erase id).distinct (absent_without id _)

/-- The pool of a row of items, of which the last one of a box counts. -/
def ofList (items : List Item) : Pool :=
  items.foldl (fun pool item => pool.upsert item.id item.score) empty

def get? (pool : Pool) (id : String) : Option Int64 :=
  (pool.ranking.find? fun item => item.id == id).map Item.score

def contains (pool : Pool) (id : String) : Bool := (pool.get? id).isSome

def size (pool : Pool) : Nat := pool.ranking.length

def isEmpty (pool : Pool) : Bool := pool.ranking.isEmpty

/-- The stalest boxes, at most `count` of them. -/
def stalest (pool : Pool) (count : Nat) : List Item :=
  pool.ranking.take count

/-- The box that has `position` boxes before it. -/
def at? (pool : Pool) (position : Nat) : Option Item :=
  pool.ranking[position]?

/-- An item with the score that another pool has for its box, if that one is
higher. -/
def raised (other : Pool) (item : Item) : Item :=
  match other.get? item.id with
  | none => item
  | some score => if item.score < score then { item with score } else item

/-- The pool with each box that another pool has too at the higher of the two
scores. -/
def keepNewer (pool other : Pool) : Pool :=
  ofList (pool.ranking.map other.raised)

end Pool

end StalestFirst
