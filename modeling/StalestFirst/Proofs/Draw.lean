import Mathlib
import StalestFirst.Proofs.Pool
import StalestFirst.Pool.Draw

namespace StalestFirst.Window

variable {window : Window} {pool : Pool} {recent : Option String}

/-! ## What can be drawn -/

theorem mem_others {items : List Item} {id : String} :
    id ∈ others recent items ↔ id ∈ items.map Item.id ∧ some id ≠ recent := by
  simp [others]

/-- What may be served is in the window and was not served last, unless the window
has nothing else than what was served last. -/
theorem mem_eligible_cases {id : String} (eligible : id ∈ window.eligible pool recent) :
    (id ∈ (pool.stalest window.width.toNat).map Item.id ∧ some id ≠ recent) ∨
      (others recent (pool.stalest window.width.toNat) = [] ∧
        id ∈ pool.ranking.map Item.id) := by
  unfold Window.eligible at eligible
  split at eligible
  · rename_i noneInWindow
    refine Or.inr ⟨noneInWindow, ?_⟩
    split at eligible
    · obtain ⟨item, member, rfl⟩ := List.mem_map.1 eligible
      exact List.mem_map_of_mem
        (List.mem_of_getElem? (Option.mem_toList.1 member))
    · rename_i next rest nonempty
      rw [List.mem_singleton] at eligible
      subst eligible
      have first : id ∈ others recent pool.ranking := by
        rw [nonempty]
        exact List.mem_cons_self ..
      exact (mem_others.1 first).1
  · exact Or.inl (mem_others.1 eligible)

theorem mem_eligible_of_draw {number : Nat} {chosen : String}
    (drawn : window.draw pool recent number = some chosen) :
    chosen ∈ window.eligible pool recent :=
  List.mem_of_getElem? drawn

theorem stalest_ids (pool : Pool) (count : Nat) :
    (pool.stalest count).map Item.id = (pool.ranking.map Item.id).take count :=
  List.map_take

/-- Only boxes of the pool are drawn. -/
theorem contains_of_draw {number : Nat} {chosen : String}
    (drawn : window.draw pool recent number = some chosen) :
    pool.contains chosen = true := by
  rw [Pool.contains_iff_mem_ids]
  rcases mem_eligible_cases (mem_eligible_of_draw drawn) with
    ⟨inWindow, _⟩ | ⟨_, inPool⟩
  · rw [stalest_ids] at inWindow
    exact List.mem_of_mem_take inWindow
  · exact inPool

/-- When the box served last is drawn again, the pool has no other one. -/
theorem eq_of_draw_again {last : String} {number : Nat}
    (drawn : window.draw pool (some last) number = some last) {id : String}
    (contained : pool.contains id = true) : id = last := by
  have eligible := mem_eligible_of_draw drawn
  have alone : others (some last) pool.ranking = [] := by
    unfold Window.eligible at eligible
    split at eligible
    · split at eligible
      · assumption
      · rename_i next rest nonempty
        have first : next ∈ others (some last) pool.ranking := by
          rw [nonempty]
          exact List.mem_cons_self ..
        rw [List.mem_singleton] at eligible
        exact absurd (congrArg some eligible.symm) (mem_others.1 first).2
    · exact absurd rfl (mem_others.1 eligible).2
  by_contra different
  have other : id ∈ others (some last) pool.ranking :=
    mem_others.2 ⟨Pool.contains_iff_mem_ids.1 contained, by simpa using different⟩
  rw [alone] at other
  cases other

/-! ## What cannot be drawn -/

/-- When the window has nothing else than the box served last, that box is the
stalest one. -/
theorem head_of_others_eq_nil
    (none : others recent (pool.stalest window.width.toNat) = [])
    (wide : 1 ≤ window.width.toNat) {first : String} {rest : List String}
    (shape : pool.ranking.map Item.id = first :: rest) :
    recent = some first := by
  have inWindow : first ∈ (pool.stalest window.width.toNat).map Item.id := by
    obtain ⟨width, sameWidth⟩ := Nat.exists_eq_add_of_le' wide
    rw [stalest_ids, shape, sameWidth, List.take_succ_cons]
    exact List.mem_cons_self ..
  by_contra different
  have member : first ∈ others recent (pool.stalest window.width.toNat) :=
    mem_others.2 ⟨inWindow, Ne.symm different⟩
  rw [none] at member
  cases member

/-- Suppose that a row of boxes ends the ranking and is so short that the window
does not reach it, or has only one box, and that it ends with the box served last.
Then none of them is drawn. -/
theorem notMem_of_draw {number : Nat} {chosen : String}
    (drawn : window.draw pool recent number = some chosen)
    (wide : 1 ≤ window.width.toNat) (several : 2 ≤ pool.ranking.length)
    {served : List String} (atEnd : served <:+ pool.ranking.map Item.id)
    (short : served.length ≤ max (pool.ranking.length - window.width.toNat) 1)
    (servedLast : served.getLast? = recent) : chosen ∉ served := by
  have distinct := pool.distinct
  obtain ⟨front, split⟩ := atEnd
  have lengths : front.length + served.length = pool.ranking.length := by
    rw [← List.length_append, split, List.length_map]
  rcases mem_eligible_cases (mem_eligible_of_draw drawn) with
    ⟨inWindow, notLast⟩ | ⟨onlyLast, _⟩
  · intro member
    by_cases single : served.length ≤ 1
    · obtain ⟨only, rfl⟩ : ∃ only, served = [only] :=
        List.length_eq_one_iff.1 (by
          have := List.length_pos_of_mem member
          omega)
      rw [List.mem_singleton.1 member, ← servedLast] at notLast
      exact notLast rfl
    · rw [← split] at distinct
      rw [stalest_ids, ← split, List.take_append_of_le_length (by omega)] at inWindow
      exact List.disjoint_of_nodup_append distinct (List.mem_of_mem_take inWindow) member
  · -- The box served last would be the stalest one and the last one at once.
    match shape : pool.ranking.map Item.id with
    | [] =>
        rw [← List.length_map (f := Item.id), shape] at several
        simp at several
    | [only] =>
        rw [← List.length_map (f := Item.id), shape] at several
        simp at several
    | first :: second :: rest =>
        have isFirst := head_of_others_eq_nil onlyLast wide shape
        rw [isFirst] at servedLast
        have isLast : (first :: second :: rest).getLast? = some first := by
          rw [← shape, ← split, List.getLast?_append, servedLast]
          rfl
        rw [List.getLast?_cons_cons] at isLast
        rw [shape] at distinct
        exact absurd (List.mem_of_getLast? isLast) (List.nodup_cons.1 distinct).1

end StalestFirst.Window
