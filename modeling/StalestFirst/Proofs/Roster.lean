import Mathlib
import StalestFirst.Pool.Roster
import StalestFirst.Proofs.NameMap
import StalestFirst.Proofs.Pool

namespace StalestFirst

namespace Roster

section

variable {roster other : Roster} {rows : List Item}

theorem mem_place {item candidate : Item} :
    candidate ∈ place item rows ↔ candidate = item ∨ candidate ∈ rows := by
  induction rows with
  | nil =>
      simp [place]
  | cons head rest inductionHypothesis =>
      unfold place
      by_cases first : item.Before head
      · rw [if_pos first, List.mem_cons]
      · rw [if_neg first]
        by_cases same : head = item
        · rw [if_pos same, List.mem_cons, same]
          tauto
        · rw [if_neg same, List.mem_cons, List.mem_cons, inductionHypothesis]
          tauto

theorem ascending_place {item : Item} (ascending : rows.Pairwise Item.Before) :
    (place item rows).Pairwise Item.Before := by
  induction rows with
  | nil =>
      exact List.pairwise_singleton _ _
  | cons head rest inductionHypothesis =>
      obtain ⟨headBefore, restAscending⟩ := List.pairwise_cons.1 ascending
      unfold place
      by_cases first : item.Before head
      · rw [if_pos first]
        apply List.pairwise_cons.2 ⟨_, ascending⟩
        intro later member
        rcases List.mem_cons.1 member with same | inRest
        · rw [same]
          exact first
        · exact first.trans (headBefore later inRest)
      · rw [if_neg first]
        by_cases same : head = item
        · rw [if_pos same]
          exact ascending
        · rw [if_neg same]
          apply List.pairwise_cons.2 ⟨_, inductionHypothesis restAscending⟩
          intro later member
          rcases mem_place.1 member with isItem | inRest
          · rw [isItem]
            exact Item.Before.of_ne_of_not (Ne.symm same) first
          · exact headBefore later inRest

/-! ## Both sides say the same

Every change to the one side has its counterpart on the other. -/

/-- The scores and the row have the same boxes at the same scores, and the row is in
order of rank. -/
structure Coherent (roster : Roster) : Prop where
  samePairs : ∀ item, item ∈ roster.order ↔ roster.scores.get? item.id = some item.score
  ascending : roster.order.Pairwise Item.Before

theorem coherent_empty : empty.Coherent := by
  constructor
  · intro item
    simp [empty]
  · exact List.Pairwise.nil

/-- A row that lists a map of scores names no box twice. -/
theorem nodup_ids_of_lists {scores : String → Option Int64}
    (ascending : rows.Pairwise Item.Before)
    (listed : ∀ item, item ∈ rows ↔ scores item.id = some item.score) :
    (rows.map Item.id).Nodup := by
  apply List.Nodup.map_on _ (Item.nodup_of_ascending ascending)
  intro first firstMember second secondMember sameId
  have firstScore := (listed first).1 firstMember
  have secondScore := (listed second).1 secondMember
  rw [sameId, secondScore] at firstScore
  exact Item.eq_mk_iff.2 ⟨sameId.symm, Option.some_inj.1 firstScore⟩

theorem Coherent.nodup_ids (coherent : roster.Coherent) :
    (roster.order.map Item.id).Nodup :=
  nodup_ids_of_lists coherent.ascending coherent.samePairs

/-- What is left in the row when the item of a box has been taken out. -/
theorem Coherent.mem_erase_iff (coherent : roster.Coherent) {id : String} {score : Int64}
    (found : roster.scores.get? id = some score) {item : Item} :
    item ∈ roster.order.erase ⟨id, score⟩ ↔ item ∈ roster.order ∧ item.id ≠ id := by
  rw [(Item.nodup_of_ascending coherent.ascending).mem_erase_iff]
  constructor
  · rintro ⟨different, member⟩
    refine ⟨member, ?_⟩
    intro sameId
    have sameScore := (coherent.samePairs item).1 member
    rw [sameId, found] at sameScore
    exact different (Item.eq_mk_iff.2 ⟨sameId.symm, Option.some_inj.1 sameScore⟩)
  · rintro ⟨member, otherId⟩
    refine ⟨?_, member⟩
    intro same
    apply otherId
    rw [same]

theorem Coherent.upsert (coherent : roster.Coherent) (id : String) (score : Int64) :
    (roster.upsert id score).Coherent := by
  unfold Roster.upsert
  cases found : roster.scores.get? id with
  | none =>
      constructor
      · intro item
        rw [mem_place, coherent.samePairs, NameMap.get?_insert]
        by_cases sameId : id = item.id
        · have absent : roster.scores.get? item.id = none := sameId ▸ found
          simp [Item.eq_mk_iff, sameId, absent]
        · simp [Item.eq_mk_iff, sameId]
      · exact ascending_place coherent.ascending
  | some current =>
      by_cases sameScore : current = score
      · simp only [if_pos sameScore]
        exact coherent
      · simp only [if_neg sameScore]
        constructor
        · intro item
          rw [mem_place, coherent.mem_erase_iff found, coherent.samePairs,
            NameMap.get?_insert]
          by_cases sameId : id = item.id
          · simp [Item.eq_mk_iff, sameId]
          · simp [Item.eq_mk_iff, sameId, Ne.symm sameId]
        · exact ascending_place (coherent.ascending.sublist List.erase_sublist)

theorem Coherent.remove (coherent : roster.Coherent) (id : String) :
    (roster.remove id).1.Coherent := by
  unfold Roster.remove
  cases found : roster.scores.get? id with
  | none =>
      exact coherent
  | some score =>
      constructor
      · intro item
        rw [coherent.mem_erase_iff found, coherent.samePairs, NameMap.get?_erase]
        by_cases sameId : id = item.id
        · simp [sameId]
        · rw [if_neg sameId, and_iff_left (Ne.symm sameId)]
      · exact coherent.ascending.sublist List.erase_sublist

theorem Coherent.raise (coherent : roster.Coherent) (item : Item) :
    (roster.raise item).Coherent := by
  unfold Roster.raise
  split
  · split
    · exact coherent.upsert item.id item.score
    · exact coherent
  · exact coherent

theorem coherent_ofList (items : List Item) : (ofList items).Coherent := by
  unfold ofList
  apply List.foldlRecOn items _ coherent_empty
  intro roster coherent item _
  exact coherent.upsert item.id item.score

theorem Coherent.keepNewer (coherent : roster.Coherent) (other : Roster) :
    (roster.keepNewer other).Coherent := by
  unfold Roster.keepNewer
  apply List.foldlRecOn other.order _ coherent
  intro raised stillCoherent item _
  exact stillCoherent.raise item

/-! ## Scores after an operation -/

theorem get?_upsert (roster : Roster) (id asked : String) (score : Int64) :
    (roster.upsert id score).get? asked =
      if id = asked then some score else roster.get? asked := by
  unfold upsert
  cases found : roster.scores.get? id with
  | none =>
      exact NameMap.get?_insert roster.scores id asked score
  | some current =>
      by_cases sameScore : current = score
      · simp only [if_pos sameScore]
        by_cases sameId : id = asked
        · rw [if_pos sameId, ← sameId, ← sameScore]
          exact found
        · rw [if_neg sameId]
      · simp only [if_neg sameScore]
        exact NameMap.get?_insert roster.scores id asked score

theorem get?_remove (roster : Roster) (id asked : String) :
    (roster.remove id).1.get? asked = if id = asked then none else roster.get? asked := by
  unfold remove
  cases found : roster.scores.get? id with
  | none =>
      by_cases sameId : id = asked
      · rw [if_pos sameId, ← sameId]
        exact found
      · rw [if_neg sameId]
  | some score =>
      exact NameMap.get?_erase roster.scores id asked

theorem snd_remove (roster : Roster) (id : String) :
    (roster.remove id).2 = roster.get? id := by
  unfold remove get?
  cases roster.scores.get? id with
  | none =>
      rfl
  | some score =>
      rfl

theorem ofList_concat (items : List Item) (item : Item) :
    ofList (items ++ [item]) = (ofList items).upsert item.id item.score := by
  unfold ofList
  rw [List.foldl_concat]

theorem get?_ofList (items : List Item) (id : String) :
    (ofList items).get? id = Item.latest? items id := by
  induction items using List.reverseRecOn with
  | nil =>
      rfl
  | append_singleton items item inductionHypothesis =>
      rw [ofList_concat, get?_upsert, Item.latest?_concat, inductionHypothesis]

theorem get?_raise (roster : Roster) (item : Item) (asked : String) :
    (roster.raise item).get? asked =
      if item.id = asked then Item.newest (roster.get? asked) (some item.score)
      else roster.get? asked := by
  unfold raise
  cases found : roster.get? item.id with
  | none =>
      by_cases sameId : item.id = asked
      · rw [if_pos sameId, ← sameId, found]
        rfl
      · rw [if_neg sameId]
  | some score =>
      by_cases lower : score < item.score
      · simp only [if_pos lower, get?_upsert]
        by_cases sameId : item.id = asked
        · rw [if_pos sameId, if_pos sameId, ← sameId, found,
            Item.newest_some_of_lt lower]
        · rw [if_neg sameId, if_neg sameId]
      · simp only [if_neg lower]
        by_cases sameId : item.id = asked
        · rw [if_pos sameId, ← sameId, found, Item.newest_some_of_not_lt lower]
        · rw [if_neg sameId]

/-- Raising to a row that names no box twice raises each box once, so the order of the
row does not matter. -/
theorem get?_foldl_raise (distinct : (rows.map Item.id).Nodup) (roster : Roster)
    (id : String) :
    (rows.foldl raise roster).get? id =
      Item.newest (roster.get? id)
        ((rows.find? fun item => item.id == id).map Item.score) := by
  induction rows generalizing roster with
  | nil =>
      exact (Item.newest_none _).symm
  | cons head rest inductionHypothesis =>
      rw [List.map_cons, List.nodup_cons] at distinct
      rw [List.foldl_cons, inductionHypothesis distinct.2, get?_raise]
      by_cases sameId : head.id = id
      · have notLater : rest.find? (fun item => item.id == id) = none := by
          rw [List.find?_eq_none]
          intro later member isId
          apply distinct.1
          rw [sameId, ← beq_iff_eq.1 isId]
          exact List.mem_map_of_mem member
        rw [if_pos sameId, notLater, Option.map_none, Item.newest_none,
          List.find?_cons_of_pos (by simp [sameId]), Option.map_some]
      · rw [if_neg sameId, List.find?_cons_of_neg (by simp [sameId])]

/-- The row of a roster finds the score that is filed. -/
theorem Coherent.find?_order (coherent : roster.Coherent) (id : String) :
    (roster.order.find? fun item => item.id == id).map Item.score = roster.get? id := by
  cases search : roster.order.find? fun item => item.id == id with
  | none =>
      cases found : roster.get? id with
      | none =>
          rfl
      | some score =>
          have member : ⟨id, score⟩ ∈ roster.order := (coherent.samePairs _).2 found
          have absent := List.find?_eq_none.1 search _ member
          exact absurd (beq_self_eq_true id) absent
  | some item =>
      have sameId : item.id = id := by
        simpa using List.find?_some search
      have member := List.mem_of_find?_eq_some search
      rw [Option.map_some, ← sameId]
      exact ((coherent.samePairs item).1 member).symm

theorem get?_keepNewer (roster : Roster) (coherent : other.Coherent) (id : String) :
    (roster.keepNewer other).get? id = Item.newest (roster.get? id) (other.get? id) := by
  rw [keepNewer, get?_foldl_raise coherent.nodup_ids, coherent.find?_order]

theorem Coherent.size_eq (coherent : roster.Coherent) :
    roster.size = roster.order.length := by
  have filed : (roster.scores.entries.map fun entry => Item.mk entry.1 entry.2).Nodup := by
    apply List.Nodup.map
    · intro first second same
      rw [Item.mk.injEq] at same
      exact Prod.ext same.1 same.2
    · exact (NameMap.names_nodup roster.scores).of_map
  have permutation : (roster.scores.entries.map fun entry => Item.mk entry.1 entry.2).Perm
      roster.order := by
    rw [List.perm_ext_iff_of_nodup filed (Item.nodup_of_ascending coherent.ascending)]
    intro item
    rw [coherent.samePairs, NameMap.get?_eq_some_iff, List.mem_map]
    constructor
    · rintro ⟨entry, member, rfl⟩
      exact member
    · intro member
      exact ⟨_, member, rfl⟩
  rw [← permutation.length_eq, List.length_map, size, NameMap.size]

end

/-! ## Rosters with a history

A roster is made from a row of items and changed step by step. A roster to whose scores
it is raised has a history of its own. -/

/-- How a roster has come about. -/
inductive History where
  | ofList (items : List Item)
  | upsert (earlier : History) (id : String) (score : Int64)
  | replaceAll (earlier : History) (items : List Item)
  | remove (earlier : History) (id : String)
  | keepNewer (earlier other : History)

namespace History

/-- The roster with a history. -/
def roster : History → Roster
  | .ofList items => .ofList items
  | .upsert earlier id score => earlier.roster.upsert id score
  | .replaceAll earlier items => earlier.roster.replaceAll items
  | .remove earlier id => (earlier.roster.remove id).1
  | .keepNewer earlier other => earlier.roster.keepNewer other.roster

/-- The pool with the same history. -/
def pool : History → Pool
  | .ofList items => .ofList items
  | .upsert earlier id score => earlier.pool.upsert id score
  | .replaceAll _ items => .ofList items
  | .remove earlier id => earlier.pool.erase id
  | .keepNewer earlier other => earlier.pool.keepNewer other.pool

/-- The map of scores with the same history. -/
def scores : History → String → Option Int64
  | .ofList items => Item.latest? items
  | .upsert earlier id score => Function.update earlier.scores id (some score)
  | .replaceAll _ items => Item.latest? items
  | .remove earlier id => Function.update earlier.scores id none
  | .keepNewer earlier other => fun id => Item.newest (earlier.scores id) (other.scores id)

theorem coherent (history : History) : history.roster.Coherent := by
  induction history with
  | ofList items =>
      exact coherent_ofList items
  | upsert earlier id score inductionHypothesis =>
      exact inductionHypothesis.upsert id score
  | replaceAll earlier items inductionHypothesis =>
      exact coherent_ofList items
  | remove earlier id inductionHypothesis =>
      exact inductionHypothesis.remove id
  | keepNewer earlier other inductionHypothesis _ =>
      exact inductionHypothesis.keepNewer other.roster

theorem get?_roster (history : History) (id : String) :
    history.roster.get? id = history.scores id := by
  induction history generalizing id with
  | ofList items =>
      exact Roster.get?_ofList items id
  | upsert earlier upserted score inductionHypothesis =>
      rw [roster, scores, Roster.get?_upsert, inductionHypothesis, Function.update_apply]
      simp only [eq_comm]
  | replaceAll earlier items inductionHypothesis =>
      exact Roster.get?_ofList items id
  | remove earlier removed inductionHypothesis =>
      rw [roster, scores, Roster.get?_remove, inductionHypothesis, Function.update_apply]
      simp only [eq_comm]
  | keepNewer earlier other earlierHypothesis otherHypothesis =>
      rw [roster, scores, Roster.get?_keepNewer _ other.coherent, earlierHypothesis,
        otherHypothesis]

theorem get?_pool (history : History) (id : String) :
    history.pool.get? id = history.scores id := by
  induction history generalizing id with
  | ofList items =>
      exact Pool.get?_ofList items id
  | upsert earlier upserted score inductionHypothesis =>
      rw [pool, scores, Pool.get?_upsert, inductionHypothesis, Function.update_apply]
      simp only [eq_comm]
  | replaceAll earlier items inductionHypothesis =>
      exact Pool.get?_ofList items id
  | remove earlier removed inductionHypothesis =>
      rw [pool, scores, Pool.get?_erase, inductionHypothesis, Function.update_apply]
      simp only [eq_comm]
  | keepNewer earlier other earlierHypothesis otherHypothesis =>
      rw [pool, scores, Pool.get?_keepNewer_eq_newest, earlierHypothesis, otherHypothesis]

end History

/-! ## What a roster stands for -/

/-- The row lists a map of scores in order of rank. -/
def Lists (rows : List Item) (scores : String → Option Int64) : Prop :=
  rows.Pairwise Item.Before ∧ ∀ item, item ∈ rows ↔ scores item.id = some item.score

theorem Lists.eq {left right : List Item} {scores : String → Option Int64}
    (leftLists : Lists left scores) (rightLists : Lists right scores) : left = right := by
  apply Item.rows_eq_of_mem_iff leftLists.1 rightLists.1
  intro item
  rw [leftLists.2, rightLists.2]

theorem History.order_lists (history : History) :
    Lists history.roster.order history.scores := by
  refine ⟨history.coherent.ascending, ?_⟩
  intro item
  rw [history.coherent.samePairs, ← history.get?_roster, get?]

theorem History.ranking_lists (history : History) :
    Lists history.pool.ranking history.scores := by
  refine ⟨history.pool.ranked, ?_⟩
  intro item
  rw [← history.get?_pool, Pool.get?_eq_some_iff]

/-- The pool has the row of the roster with the same history. -/
theorem History.ranking_eq (history : History) :
    history.pool.ranking = history.roster.order :=
  history.ranking_lists.eq history.order_lists

/-- A roster answers as a map of scores does that has row `rows`. -/
structure Answers (roster : Roster) (scores : String → Option Int64) (rows : List Item) :
    Prop where
  get? : ∀ id, roster.get? id = scores id
  contains : ∀ id, roster.contains id = true ↔ ∃ score, scores id = some score
  size : roster.size = rows.length
  isEmpty : roster.isEmpty = true ↔ ∀ id, scores id = none
  order : roster.order = rows
  stalest : ∀ count, roster.stalest count = rows.take (min count rows.length)
  at? : ∀ position, roster.at? position = rows[position]?
  removed : ∀ id, (roster.remove id).2 = scores id

theorem History.answers (history : History) :
    history.roster.Answers history.scores history.roster.order where
  get? := history.get?_roster
  contains := by
    intro id
    rw [contains, NameMap.contains, Option.isSome_iff_exists]
    simp only [← history.get?_roster, Roster.get?]
  size := history.coherent.size_eq
  isEmpty := by
    rw [isEmpty, NameMap.isEmpty_iff]
    simp only [← history.get?_roster, Roster.get?]
  order := rfl
  stalest := by
    intro count
    rw [stalest, List.take_eq_take_min]
  at? := fun position => rfl
  removed := by
    intro id
    rw [snd_remove, history.get?_roster]

/-- Whatever its history, a roster files what it lists, and answers as the map of scores
with that history. So does the pool with the same history. -/
theorem roster_keeps_scores (history : History) :
    (∀ id score, (id, score) ∈ history.roster.scores.entries ↔
      ⟨id, score⟩ ∈ history.roster.order) ∧
    history.roster.scores.names.Nodup ∧ (history.roster.order.map Item.id).Nodup ∧
    ∃ rows, Lists rows history.scores ∧ (∀ others, Lists others history.scores → others = rows) ∧
      history.roster.Answers history.scores rows ∧
      history.pool.ranking = rows ∧ ∀ id, history.pool.get? id = history.scores id := by
  refine ⟨?_, NameMap.names_nodup _, history.coherent.nodup_ids, history.roster.order,
    history.order_lists, ?_, history.answers, history.ranking_eq, history.get?_pool⟩
  · intro id score
    rw [history.coherent.samePairs, NameMap.get?_eq_some_iff]
  · intro others lists
    exact lists.eq history.order_lists

end Roster

end StalestFirst
