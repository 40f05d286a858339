import Mathlib
import StalestFirst.Proofs.Draw
import StalestFirst.Queue.World

namespace StalestFirst

/-! ## Which boxes may be served

Whatever the draw, the box served is one of the first boxes other than the one served
last. How many of them may be served is settled by the window alone. -/

namespace Window

variable {window : Window} {pool : Pool} {recent : Option String}

/-- The boxes that are served for some draw. -/
def possible (window : Window) (pool : Pool) (recent : Option String) : Set String :=
  {id | ∃ number, window.draw pool recent number = some id}

/-- The boxes of the window other than the one served last. -/
def inWindow (window : Window) (pool : Pool) (recent : Option String) : List String :=
  others recent (pool.stalest window.width.toNat)

theorem mem_possible_iff {id : String} :
    id ∈ window.possible pool recent ↔ id ∈ window.eligible pool recent := by
  constructor
  · rintro ⟨number, drawn⟩
    exact mem_eligible_of_draw drawn
  · intro eligible
    obtain ⟨number, bound, found⟩ := List.mem_iff_getElem.1 eligible
    refine ⟨number, ?_⟩
    rw [draw, Nat.mod_eq_of_lt bound, List.getElem?_eq_getElem bound, found]

theorem draw_eq_none_iff {number : Nat} :
    window.draw pool recent number = none ↔ window.eligible pool recent = [] := by
  rw [draw, List.getElem?_eq_none_iff]
  constructor
  · intro outside
    by_contra nonempty
    have bound := Nat.mod_lt number (List.length_pos_of_ne_nil nonempty)
    omega
  · intro empty
    rw [empty]
    exact Nat.zero_le _

theorem inWindow_starts_others (window : Window) (pool : Pool) (recent : Option String) :
    window.inWindow pool recent <+: others recent pool.ranking := by
  unfold inWindow others
  rw [stalest_ids]
  exact (List.take_prefix _ _).filter _

/-! ### The three cases -/

theorem eligible_of_inWindow (nonempty : window.inWindow pool recent ≠ []) :
    window.eligible pool recent = window.inWindow pool recent := by
  unfold eligible
  split
  · rename_i empty
    exact absurd empty nonempty
  · rfl

theorem eligible_of_others {first : String} {rest : List String}
    (empty : window.inWindow pool recent = [])
    (shape : others recent pool.ranking = first :: rest) :
    window.eligible pool recent = [first] := by
  unfold inWindow at empty
  simp only [eligible, empty, shape]

theorem eligible_of_no_others (empty : others recent pool.ranking = []) :
    window.eligible pool recent = (pool.ranking.map Item.id).take 1 := by
  have noneInWindow : others recent (pool.stalest window.width.toNat) = [] :=
    List.prefix_nil.1 (empty ▸ inWindow_starts_others window pool recent)
  simp only [eligible, noneInWindow, empty, Pool.at?]
  cases pool.ranking with
  | nil =>
      rfl
  | cons first rest =>
      rfl

/-- A pool with no other box than the one served last has that box alone, if any. -/
theorem ids_of_no_others (empty : others recent pool.ranking = [])
    (nonempty : pool.ranking ≠ []) :
    ∃ id, recent = some id ∧ pool.ranking.map Item.id = [id] := by
  have allRecent : ∀ id ∈ pool.ranking.map Item.id, some id = recent := by
    intro id member
    by_contra different
    have other : id ∈ others recent pool.ranking := mem_others.2 ⟨member, different⟩
    rw [empty] at other
    cases other
  have distinct := pool.distinct
  match shape : pool.ranking.map Item.id with
  | [] =>
      exact absurd (List.map_eq_nil_iff.1 shape) nonempty
  | [only] =>
      rw [shape] at allRecent
      exact ⟨only, (allRecent only List.mem_cons_self).symm, rfl⟩
  | first :: second :: rest =>
      rw [shape] at allRecent distinct
      have same : some first = some second :=
        (allRecent first (by simp)).trans (allRecent second (by simp)).symm
      rw [Option.some_inj.1 same] at distinct
      simp at distinct

theorem eligible_eq_nil_iff : window.eligible pool recent = [] ↔ pool.ranking = [] := by
  constructor
  · intro none
    by_cases windowed : window.inWindow pool recent = []
    · match shape : others recent pool.ranking with
      | [] =>
          rw [eligible_of_no_others shape] at none
          simpa using none
      | first :: rest =>
          rw [eligible_of_others windowed shape] at none
          cases none
    · rw [eligible_of_inWindow windowed] at none
      exact absurd none windowed
  · intro noBoxes
    have noOthers : others recent pool.ranking = [] := by
      rw [noBoxes]
      rfl
    rw [eligible_of_no_others noOthers, noBoxes]
    rfl

/-- The boxes that may be served are the first ones other than the one served last, or
that one alone. -/
theorem exists_eligible_eq_take (window : Window)
    (several : others recent pool.ranking ≠ []) :
    ∃ count, 1 ≤ count ∧
      window.eligible pool recent = (others recent pool.ranking).take count := by
  by_cases windowed : window.inWindow pool recent = []
  · match shape : others recent pool.ranking with
    | [] =>
        exact absurd shape several
    | first :: rest =>
        exact ⟨1, Nat.le_refl 1, eligible_of_others windowed shape⟩
  · refine ⟨_, List.length_pos_of_ne_nil windowed, ?_⟩
    rw [eligible_of_inWindow windowed]
    exact List.prefix_iff_eq_take.1 (inWindow_starts_others window pool recent)

/-! ### What follows -/

/-- The box served last may be served only if it is the sole one. -/
theorem sole_of_eligible {id : String} (eligible : id ∈ window.eligible pool (some id)) :
    pool.ranking.map Item.id = [id] := by
  have nonempty : pool.ranking ≠ [] := by
    intro none
    rw [eligible_eq_nil_iff.2 none] at eligible
    cases eligible
  by_cases several : others (some id) pool.ranking = []
  · obtain ⟨only, same, alone⟩ := ids_of_no_others several nonempty
    rw [alone, ← Option.some_inj.1 same]
  · obtain ⟨count, _, shape⟩ := exists_eligible_eq_take window several
    rw [shape] at eligible
    exact absurd rfl (mem_others.1 (List.mem_of_mem_take eligible)).2

/-- The items of the boxes other than the one served last stand in order of rank. -/
theorem others_eq_map_filter (recent : Option String) (pool : Pool) :
    others recent pool.ranking =
      (pool.ranking.filter fun item => some item.id != recent).map Item.id := by
  rw [others, List.filter_map]
  rfl

/-- A box that is staler than one that may be served may be served itself, unless it was
served last. -/
theorem eligible_of_before {earlier later : Item} (earlierMember : earlier ∈ pool.ranking)
    (laterMember : later ∈ pool.ranking) (before : earlier.Before later)
    (served : later.id ∈ window.eligible pool recent) (notLast : some earlier.id ≠ recent) :
    earlier.id ∈ window.eligible pool recent := by
  have other : earlier.id ∈ others recent pool.ranking :=
    mem_others.2 ⟨List.mem_map_of_mem earlierMember, notLast⟩
  obtain ⟨count, _, shape⟩ := exists_eligible_eq_take window
    (List.ne_nil_of_mem other)
  rw [shape, others_eq_map_filter, ← List.map_take] at served ⊢
  obtain ⟨item, taken, sameId⟩ := List.mem_map.1 served
  have isLater : item = later :=
    List.inj_on_of_nodup_map pool.distinct
      (List.mem_filter.1 (List.mem_of_mem_take taken)).1 laterMember sameId
  rw [isLater] at taken
  have earlierOther : earlier ∈ pool.ranking.filter fun item => some item.id != recent :=
    List.mem_filter.2 ⟨earlierMember, by simpa using notLast⟩
  rw [← List.take_append_drop count (pool.ranking.filter _), List.mem_append] at earlierOther
  rcases earlierOther with inFront | behind
  · exact List.mem_map_of_mem inFront
  · -- What is behind the ones that may be served ranks after all of them.
    have ranked := pool.ranked.filter fun item => some item.id != recent
    rw [← List.take_append_drop count (pool.ranking.filter _), List.pairwise_append] at ranked
    have after := ranked.2.2 later taken earlier behind
    exact absurd (before.trans after) (Item.Before.irrefl earlier)

/-- A box that may be served is in the window, or in the second place. -/
theorem mem_take_of_eligible {id : String} (wide : 1 ≤ window.width.toNat)
    (eligible : id ∈ window.eligible pool recent) :
    id ∈ (pool.ranking.map Item.id).take (max window.width.toNat 2) := by
  by_cases windowed : window.inWindow pool recent = []
  · match shape : others recent pool.ranking with
    | [] =>
        rw [eligible_of_no_others shape] at eligible
        exact (List.take_subset_take_left _ (by omega)) eligible
    | first :: rest =>
        rw [eligible_of_others windowed shape, List.mem_singleton] at eligible
        match place : pool.ranking.map Item.id with
        | [] =>
            rw [others, place] at shape
            cases shape
        | head :: tail =>
            have isHead := head_of_others_eq_nil windowed wide place
            have distinct := pool.distinct
            rw [place, List.nodup_cons] at distinct
            have tailKept : tail.filter (fun id => some id != some head) = tail := by
              rw [List.filter_eq_self]
              intro other member
              have different : other ≠ head := fun same => distinct.1 (same ▸ member)
              simpa using different
            rw [others, place, isHead, List.filter_cons_of_neg (by simp), tailKept] at shape
            rw [shape, eligible]
            have isSecond : first ∈ (head :: first :: rest).take 2 := by
              simp
            exact (List.take_subset_take_left _ (by omega)) isSecond
  · rw [eligible_of_inWindow windowed, inWindow, mem_others, stalest_ids] at eligible
    exact (List.take_subset_take_left _ (by omega)) eligible.1

/-- What may be served from a window may be served from a wider one. -/
theorem eligible_subset_of_le {wider : Window}
    (wide : window.width.toNat ≤ wider.width.toNat) :
    window.eligible pool recent ⊆ wider.eligible pool recent := by
  match shape : others recent pool.ranking with
  | [] =>
      rw [eligible_of_no_others shape, eligible_of_no_others shape]
      exact List.Subset.refl _
  | first :: rest =>
      have grows : window.inWindow pool recent <+: wider.inWindow pool recent := by
        unfold inWindow others
        rw [stalest_ids, stalest_ids]
        exact (List.take_prefix_take_left wide).filter _
      by_cases windowed : window.inWindow pool recent = []
      · rw [eligible_of_others windowed shape]
        by_cases widerWindowed : wider.inWindow pool recent = []
        · rw [eligible_of_others widerWindowed shape]
          exact List.Subset.refl _
        · rw [eligible_of_inWindow widerWindowed]
          have isPrefix := inWindow_starts_others wider pool recent
          rw [shape] at isPrefix
          match windowShape : wider.inWindow pool recent with
          | [] =>
              exact absurd windowShape widerWindowed
          | next :: others =>
              rw [windowShape, List.cons_prefix_cons] at isPrefix
              rw [isPrefix.1]
              exact List.cons_subset_cons _ (List.nil_subset _)
      · have widerWindowed : wider.inWindow pool recent ≠ [] := by
          intro empty
          rw [empty] at grows
          exact windowed (List.prefix_nil.1 grows)
        rw [eligible_of_inWindow windowed, eligible_of_inWindow widerWindowed]
        exact grows.subset

end Window

/-- A retrieval that enters fails for want of boxes if the pool has none, and else visits
one that may be served. -/
theorem World.step_enter_of_waiting {world : World} {call : Nat} (number : Nat)
    (waits : world.waiting.contains call = true) (free : world.visit = none) :
    if world.shelf.pool.isEmpty then
      (world.step (.enter call number)).2 = [.answered call (.error .emptyPool)]
    else
      ∃ id ∈ world.window.possible world.shelf.pool world.shelf.lastServed,
        (world.step (.enter call number)).1.visit = some ⟨call, id, world.clock⟩ ∧
          (world.step (.enter call number)).2 = [] := by
  have goes : (!world.waiting.contains call || world.visit.isSome) = false := by
    rw [waits, free]
    rfl
  cases drawn : world.shelf.draw world.window number with
  | none =>
      have noBoxes := Window.eligible_eq_nil_iff.1 (Window.draw_eq_none_iff.1 drawn)
      have isEmpty : world.shelf.pool.isEmpty = true := List.isEmpty_iff.2 noBoxes
      rw [if_pos isEmpty]
      simp only [step, stepEnter, goes, drawn]
      rfl
  | some id =>
      have present := List.ne_nil_of_mem (Window.mem_eligible_of_draw drawn)
      have notEmpty : ¬ world.shelf.pool.isEmpty = true := fun isEmpty =>
        present (Window.eligible_eq_nil_iff.2 (List.isEmpty_iff.1 isEmpty))
      rw [if_neg notEmpty]
      refine ⟨id, ⟨number, drawn⟩, ?_⟩
      simp only [step, stepEnter, goes, drawn]
      exact ⟨rfl, rfl⟩

/-- Whatever the draw, one of the first boxes other than the one served last is served,
and each of them for some draw: those of the window, or the next one if the window has
none. The box served last is served only if it is alone. -/
theorem Window.serves_first_others (width : UInt64) (pool : Pool) (recent : Option String) :
    let window := Window.ofWidth width
    let w := max width.toNat 1
    let ids := pool.ranking.map Item.id
    let others := ids.filter fun id => some id != recent
    let near := (ids.take w).filter fun id => some id != recent
    let possible := window.possible pool recent
    window.width.toNat = w ∧
    (∀ number, window.draw pool recent number = none ↔ pool.ranking = []) ∧
    (∀ (world : World) call number, world.settings.selectionWindow = width →
      world.shelf = ⟨pool, recent⟩ → world.waiting.contains call = true →
      world.visit = none →
      if pool.isEmpty then
        (world.step (.enter call number)).2 = [.answered call (.error .emptyPool)]
      else
        ∃ id ∈ possible,
          (world.step (.enter call number)).1.visit = some ⟨call, id, world.clock⟩ ∧
            (world.step (.enter call number)).2 = []) ∧
    (others = [] → pool.ranking ≠ [] → ∃ id, recent = some id ∧ possible = {id}) ∧
    (others ≠ [] → (∃ count, 1 ≤ count ∧ possible = {id | id ∈ others.take count}) ∧
      possible = if near = [] then {id | others.head? = some id} else {id | id ∈ near}) ∧
    (∀ id, recent = some id → id ∈ possible → ids = [id]) ∧
    (∀ earlier ∈ pool.ranking, ∀ later ∈ pool.ranking, earlier.Before later →
      later.id ∈ possible → some earlier.id ≠ recent → earlier.id ∈ possible) ∧
    (∀ id ∈ possible, id ∈ ids.take (max w 2)) ∧
    ∀ wider, width ≤ wider → possible ⊆ (Window.ofWidth wider).possible pool recent := by
  intro window w ids others near possible
  have sameWidth : window.width.toNat = w := UInt64.toNat_max ..
  have wide : 1 ≤ window.width.toNat := by
    rw [sameWidth]
    exact Nat.le_max_right ..
  have isPossible (id : String) : id ∈ possible ↔ id ∈ window.eligible pool recent :=
    mem_possible_iff
  have sameNear : window.inWindow pool recent = near := by
    rw [inWindow, Window.others, stalest_ids, sameWidth]
  refine ⟨sameWidth, ?_, ?_, ?_, fun several => ⟨?_, ?_⟩, ?_, ?_, ?_, ?_⟩
  · intro number
    rw [draw_eq_none_iff, eligible_eq_nil_iff]
  · rintro world call number rfl sameShelf waits free
    have entered := World.step_enter_of_waiting number waits free
    rw [sameShelf] at entered
    exact entered
  · intro noOthers nonempty
    obtain ⟨id, isRecent, alone⟩ := ids_of_no_others noOthers nonempty
    refine ⟨id, isRecent, ?_⟩
    ext other
    rw [isPossible, eligible_of_no_others noOthers, alone]
    simp
  · obtain ⟨count, positive, shape⟩ := exists_eligible_eq_take window several
    refine ⟨count, positive, ?_⟩
    ext id
    rw [isPossible, shape]
    rfl
  · ext id
    rw [isPossible]
    by_cases windowed : near = []
    · rw [if_pos windowed]
      obtain ⟨first, rest, shape⟩ := List.exists_cons_of_ne_nil several
      rw [eligible_of_others (sameNear.trans windowed) shape, shape]
      simp
    · rw [if_neg windowed, eligible_of_inWindow (sameNear ▸ windowed), sameNear]
      rfl
  · rintro id rfl served
    exact sole_of_eligible ((isPossible id).1 served)
  · intro earlier earlierMember later laterMember before served notLast
    rw [isPossible] at served ⊢
    exact eligible_of_before earlierMember laterMember before served notLast
  · intro id served
    rw [← sameWidth]
    exact mem_take_of_eligible wide ((isPossible id).1 served)
  · intro wider wideEnough id served
    have sameWider : (Window.ofWidth wider).width.toNat = max wider.toNat 1 :=
      UInt64.toNat_max ..
    have lessWide : window.width.toNat ≤ (Window.ofWidth wider).width.toNat := by
      rw [sameWidth, sameWider]
      have inNat : width.toNat ≤ wider.toNat := UInt64.le_iff_toNat_le.1 wideEnough
      exact max_le_max_right 1 inNat
    exact mem_possible_iff.2 (eligible_subset_of_le lessWide ((isPossible id).1 served))

end StalestFirst
