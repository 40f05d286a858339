import Mathlib
import StalestFirst.Proofs.Queue.InStep

namespace StalestFirst

/-! ## Rows without early repetition -/

/-- The last entries of a row, at most `count` of them. -/
def lastOnes (count : Nat) (row : List String) : List String :=
  row.drop (row.length - count)

/-- Among `gap + 1` neighbours in the row, no two are equal. -/
def SpacedBy (gap : Nat) (row : List String) : Prop :=
  ∀ block, block <:+: row → block.length ≤ gap + 1 → block.Nodup

variable {gap : Nat} {row : List String}

theorem length_lastOnes_le (count : Nat) (row : List String) :
    (lastOnes count row).length ≤ count := by
  rw [lastOnes, List.length_drop]
  omega

theorem getLast?_lastOnes (positive : 1 ≤ gap) (row : List String) :
    (lastOnes gap row).getLast? = row.getLast? := by
  rw [lastOnes, List.getLast?_drop]
  split
  · rename_i short
    have empty : row = [] := List.length_eq_zero_iff.1 (by omega)
    rw [empty]
    rfl
  · rfl

/-- A short row at the end of another is among the last ones. -/
theorem suffix_lastOnes {tail : List String} (atEnd : tail <:+ row)
    (short : tail.length ≤ gap) : tail <:+ lastOnes gap row := by
  refine List.suffix_of_suffix_length_le atEnd (List.drop_suffix ..) ?_
  have := atEnd.length_le
  rw [lastOnes, List.length_drop]
  omega

theorem lastOnes_concat (positive : 1 ≤ gap) (row : List String) (next : String) :
    lastOnes gap (row ++ [next]) <:+ lastOnes gap row ++ [next] := by
  unfold lastOnes
  rw [List.length_append, List.length_singleton, List.drop_append_of_le_length (by omega)]
  obtain ⟨front, split⟩ := List.drop_suffix_drop_left row
    (show row.length - gap ≤ row.length + 1 - gap by omega)
  exact ⟨front, by rw [← List.append_assoc, split]⟩

/-- A row stays spaced if what comes next is not among the last ones. -/
theorem SpacedBy.concat (spaced : SpacedBy gap row) {next : String}
    (fresh : next ∉ lastOnes gap row) : SpacedBy gap (row ++ [next]) := by
  intro block inRow short
  rcases List.infix_concat_iff.1 inRow with atEnd | before
  · rcases List.suffix_concat_iff.1 atEnd with rfl | ⟨tail, rfl, tailAtEnd⟩
    · exact List.nodup_nil
    · rw [List.length_append, List.length_singleton] at short
      have tailSpaced : tail.Nodup := spaced tail tailAtEnd.isInfix (by omega)
      have absent : next ∉ tail := fun member =>
        fresh ((suffix_lastOnes tailAtEnd (by omega)).subset member)
      rw [List.nodup_append]
      refine ⟨tailSpaced, List.nodup_singleton next, ?_⟩
      rintro earlier member later laterMember rfl
      exact absent (List.mem_singleton.1 laterMember ▸ member)
  · exact spaced block before short

/-! ## The end of the ranking -/

/-- A box that goes to the last place moves behind those that were there. -/
theorem Pool.lastOnes_upsert {pool : Pool} {id : String} {score : Int64}
    (last : ∀ item ∈ pool.ranking, item.score < score) (positive : 1 ≤ gap)
    (atEnd : lastOnes gap row <:+ pool.ranking.map Item.id)
    (fresh : id ∉ lastOnes gap row) :
    lastOnes gap (row ++ [id]) <:+ (pool.upsert id score).ranking.map Item.id := by
  have without : (Pool.without id pool.ranking).map Item.id =
      (pool.ranking.map Item.id).filter (· != id) := by
    rw [Pool.without, List.filter_map]
    rfl
  have others : (lastOnes gap row).filter (· != id) = lastOnes gap row := by
    refine List.filter_eq_self.2 fun other member => ?_
    rw [bne_iff_ne]
    rintro rfl
    exact fresh member
  have kept : lastOnes gap row <:+ (Pool.without id pool.ranking).map Item.id := by
    rw [without, ← others]
    exact atEnd.filter _
  rw [Pool.ranking_upsert_of_last last, List.map_append]
  refine (lastOnes_concat positive row id).trans ?_
  obtain ⟨front, split⟩ := kept
  exact ⟨front, by rw [← List.append_assoc, split]; rfl⟩

/-! ## Shelves that space their servings -/

/-- The shelf has all boxes of a row, or none before the first listing is installed.
What it has served last ends the ranking, so that it has kept its distance. -/
structure Shelf.Spaced (gap : Nat) (ids : List String) (shelf : Shelf)
    (past : List String) : Prop where
  filled : shelf.pool.ranking = [] ∨ ∀ id ∈ ids, shelf.pool.contains id = true
  lastServed : shelf.lastServed = past.getLast?
  atEnd : lastOnes gap past <:+ shelf.pool.ranking.map Item.id
  spaced : SpacedBy gap past

namespace Shelf.Spaced

variable {ids past : List String} {shelf : Shelf}

theorem all_of_contains (spaced : shelf.Spaced gap ids past) {id : String}
    (contained : shelf.pool.contains id = true) :
    ∀ other ∈ ids, shelf.pool.contains other = true := by
  refine spaced.filled.resolve_left fun empty => ?_
  rw [Pool.contains_iff_mem_ids, empty] at contained
  cases contained

/-- A box that is drawn was not among the last ones served, and joins them. -/
theorem serve (spaced : shelf.Spaced gap ids past) {window : Window} {number : Nat}
    {chosen : String} (drawn : shelf.draw window number = some chosen)
    (wide : 1 ≤ window.width.toNat) (several : 2 ≤ ids.length)
    (sameLength : shelf.pool.ranking.length = ids.length)
    (sameGap : gap = max (ids.length - window.width.toNat) 1) {viewedAt : Moment}
    (last : ∀ item ∈ shelf.pool.ranking, item.score < viewedAt.score) :
    (shelf.serve chosen viewedAt).Spaced gap ids (past ++ [chosen]) := by
  have positive : 1 ≤ gap := by
    rw [sameGap]
    exact Nat.le_max_right ..
  have fresh : chosen ∉ lastOnes gap past := by
    refine Window.notMem_of_draw drawn wide (sameLength ▸ several) spaced.atEnd ?_ ?_
    · rw [sameLength, ← sameGap]
      exact length_lastOnes_le gap past
    · rw [getLast?_lastOnes positive, spaced.lastServed]
  have all := spaced.all_of_contains (Window.contains_of_draw drawn)
  exact {
    filled := Or.inr fun id member => by
      simp only [Shelf.serve, Pool.contains_upsert, all id member, Bool.or_true]
    lastServed := List.getLast?_concat.symm
    atEnd := Pool.lastOnes_upsert last positive spaced.atEnd fresh
    spaced := spaced.spaced.concat fresh }

/-- A listing that names all boxes fills an empty pool, and leaves a full one as it
is. -/
theorem install (spaced : shelf.Spaced gap ids past) {store : Store}
    {listing : List ViewedBox} (agrees : shelf.pool.Agrees store)
    (rebuiltAgrees : (Shelf.rebuilt listing shelf.pool).Agrees store)
    (viewed : ∀ id, (store.lastView? id).isSome = true ↔ id ∈ ids)
    (listed : ∀ id ∈ ids, ∃ viewed ∈ listing, viewed.id = id) :
    (shelf.install listing).Spaced gap ids past := by
  have full : ∀ id ∈ ids, (Shelf.rebuilt listing shelf.pool).contains id = true :=
    fun id member => Shelf.contains_rebuilt.2 (listed id member)
  rcases spaced.filled with empty | all
  · -- An empty pool has nothing at its end, so nothing was served.
    have noneLast : lastOnes gap past = [] := by
      have atEnd := spaced.atEnd
      rw [empty] at atEnd
      exact List.suffix_nil.1 atEnd
    exact {
      filled := Or.inr full
      lastServed := spaced.lastServed
      atEnd := by
        rw [noneLast]
        exact List.nil_suffix
      spaced := spaced.spaced }
  · -- Both pools have all boxes, with the scores that the store gives them.
    have same : Shelf.rebuilt listing shelf.pool = shelf.pool := by
      refine rebuiltAgrees.eq agrees fun id => ⟨fun contained => ?_, fun contained => ?_⟩
      · exact all id ((viewed id).1 (rebuiltAgrees.viewed contained))
      · exact full id ((viewed id).1 (agrees.viewed contained))
    unfold Shelf.install
    rw [same]
    exact spaced

end Shelf.Spaced

namespace World

/-! ## Fixed boxes -/

/-- Nothing is submitted, the store is changed from outside only by reactions and
outages, and each view that is recorded lifts its box above all scores in the
pool. -/
def Steady (world : World) : Action → Prop
  | .submit _ | .write (.insert _) | .write (.delete _) | .write (.recordView _ _) =>
      False
  | .record call => ∀ visit ∈ world.visit, visit.call = call →
      (world.store.recordView visit.chosen visit.viewedAt).isOk = true →
        ∀ item ∈ world.shelf.pool.ranking, item.score < visit.viewedAt.score
  | _ => True

instance (world : World) : (action : Action) → Decidable (world.Steady action)
  | .submit _ | .write (.insert _) | .write (.delete _) | .write (.recordView _ _) =>
      inferInstanceAs (Decidable False)
  | .record _ => inferInstanceAs (Decidable (∀ visit ∈ world.visit, _ → _ →
      ∀ item ∈ world.shelf.pool.ranking, item.score < visit.viewedAt.score))
  | .call _ | .enter _ _ | .expire _ | .abandon _ | .take | .apply | .spawn | .dropLoop
  | .cancel | .cloneHandle | .dropHandle | .fireTimer | .observe | .stop | .list _
  | .panic _ | .receive _ | .install _ | .announce _ | .write (.react _ _)
  | .write (.setOffline _) | .pass _ | .setClock _ => inferInstanceAs (Decidable True)

variable {world : World} {ids past : List String}

theorem tended_of_steady {action : Action} (steady : world.Steady action) :
    world.Tended action where
  unsubmitted := by
    rintro item rfl
    exact steady
  undisturbed := by
    unfold Action.Undisturbed StoreWrite.Gentle
    split
    · split
      · exact steady
      · exact steady
      · trivial
    · trivial
  forward := by
    rintro visit grown score rfl guarded recorded pooled
    have lower := steady visit guarded rfl (by rw [recorded]; rfl) _
      (Pool.get?_eq_some_iff.1 pooled)
    exact Int64.le_of_lt lower

/-- Reactions and outages leave the views alone. -/
theorem lastView?_of_steady {write : StoreWrite} (steady : world.Steady (.write write))
    (id : String) : (write.apply world.store).lastView? id = world.store.lastView? id := by
  have gentle : write.Gentle := (tended_of_steady steady).undisturbed
  refine (Store.lastView?_of_gentle world.store gentle id).resolve_right ?_
  rintro ⟨box, rfl, _⟩
  exact steady

/-- The boxes `ids` are those that were viewed, and every listing on its way names
them all. -/
structure Spaced (gap : Nat) (ids : List String) (world : World)
    (past : List String) : Prop where
  inStep : world.InStep
  viewed : ∀ id, (world.store.lastView? id).isSome = true ↔ id ∈ ids
  listings : ∀ number listing, world.Pending number listing →
    ∀ id ∈ ids, ∃ viewed ∈ listing, viewed.id = id
  shelf : world.shelf.Spaced gap ids past

theorem mem_ids_of_contains (spaced : world.Spaced gap ids past) {id : String}
    (contained : world.shelf.pool.contains id = true) : id ∈ ids :=
  (spaced.viewed id).1 (spaced.inStep.agrees.viewed contained)

/-- A pool that is not empty has as many boxes as were viewed. -/
theorem length_ranking (spaced : world.Spaced gap ids past)
    (distinct : ids.Nodup) {id : String}
    (contained : world.shelf.pool.contains id = true) :
    world.shelf.pool.ranking.length = ids.length := by
  have all := spaced.shelf.all_of_contains contained
  have same : (world.shelf.pool.ranking.map Item.id).Perm ids := by
    rw [List.perm_ext_iff_of_nodup world.shelf.pool.distinct distinct]
    intro other
    rw [← Pool.contains_iff_mem_ids]
    exact ⟨mem_ids_of_contains spaced, all other⟩
  rw [← same.length_eq, List.length_map]

/-- Which boxes were viewed does not change. -/
theorem viewed_step {action : Action} (steady : world.Steady action)
    (spaced : world.Spaced gap ids past) (id : String) :
    ((world.step action).1.store.lastView? id).isSome = true ↔ id ∈ ids := by
  rw [← spaced.viewed id]
  have effect := world.effect action
  generalize (world.step action).1.store = store at effect ⊢
  generalize served (world.step action).2 = servings at effect
  cases effect with
  | none =>
      rfl
  | @serves visit stored guarded found =>
      obtain ⟨number, drawn⟩ := spaced.inStep.drawn visit guarded
      have member := mem_ids_of_contains spaced (Window.contains_of_draw drawn)
      rw [Store.lastView?_put]
      split
      · rename_i asked
        rw [← asked]
        exact iff_of_true rfl ((spaced.viewed visit.chosen).2 member)
      · rfl
  | writes write =>
      rw [lastView?_of_steady steady]

/-- Every listing on its way names all viewed boxes. -/
theorem listings_step {action : Action} (spaced : world.Spaced gap ids past)
    {number : Nat} {listing : List ViewedBox}
    (pending : (world.step action).1.Pending number listing) :
    ∀ id ∈ ids, ∃ viewed ∈ listing, viewed.id = id := by
  intro id member
  rcases pending_step pending with earlier | ⟨_, listed⟩
  · exact spaced.listings number listing earlier id member
  · exact Store.exists_listed_of_viewed spaced.inStep.filed
      ((spaced.viewed id).2 member) listed

/-- A retrieval keeps the servings spaced. -/
private theorem spaced_of_record (spaced : world.Spaced gap ids past)
    (distinct : ids.Nodup) (several : 2 ≤ ids.length)
    (wide : 1 ≤ world.window.width.toNat)
    (sameGap : gap = max (ids.length - world.window.width.toNat) 1) {visit : Visit}
    (guarded : world.visit = some visit) (steady : world.Steady (.record visit.call)) :
    let outcome := (world.store.recordView visit.chosen visit.viewedAt).map fun _ => ()
    (world.shelf.conclude visit.chosen visit.viewedAt outcome).Spaced gap ids
      (past ++ served [.answered visit.call (Shelf.verdict visit.chosen outcome)]) := by
  obtain ⟨number, drawn⟩ := spaced.inStep.drawn visit guarded
  have contained := Window.contains_of_draw drawn
  have last := steady visit guarded rfl
  have result := Store.recording world.store visit.chosen visit.viewedAt
  generalize world.store.recordView visit.chosen visit.viewedAt = answer
    at result last ⊢
  cases result with
  | recorded found =>
      exact spaced.shelf.serve drawn wide several
        (length_ranking spaced distinct contained) sameGap (last rfl)
  | missing absent =>
      have viewed := spaced.inStep.agrees.viewed contained
      rw [Store.lastView?, absent] at viewed
      cases viewed
  | unreachable =>
      have still : world.shelf.Spaced gap ids (past ++ []) := by
        rw [List.append_nil]
        exact spaced.shelf
      exact still

theorem spaced_step {action : Action} (distinct : ids.Nodup)
    (several : 2 ≤ ids.length) (wide : 1 ≤ world.window.width.toNat)
    (sameGap : gap = max (ids.length - world.window.width.toNat) 1)
    (steady : world.Steady action) (spaced : world.Spaced gap ids past) :
    (world.step action).1.Spaced gap ids (past ++ served (world.step action).2) := by
  have inStep := inStep_step world action (tended_of_steady steady) spaced.inStep
  suffices shelf : (world.step action).1.shelf.Spaced gap ids
      (past ++ served (world.step action).2) from
    ⟨inStep, viewed_step steady spaced, fun _ _ => listings_step spaced, shelf⟩
  have still : world.shelf.Spaced gap ids (past ++ []) := by
    rw [List.append_nil]
    exact spaced.shelf
  have change := world.change action
  generalize (world.step action).1 = next at change inStep ⊢
  generalize (world.step action).2 = events at change ⊢
  cases change with
  | aside idle alike silent =>
      rw [alike.shelf, served_of_silent silent]
      exact still
  | records guarded =>
      exact spaced_of_record spaced distinct several wide sameGap guarded steady
  | leaves guarded leaving silent =>
      rw [served_of_silent silent]
      exact still
  | applies free taken =>
      exact absurd spaced.inStep.itemless (items_ne_nil_of_taken taken)
  | @observes _ number _ outcome _ _ events waits finished silent =>
      have none : served (.observed number outcome world.now :: events) = served events :=
        rfl
      rw [none, served_of_silent silent]
      exact still
  | @installs number found listing free arrived =>
      obtain ⟨member, named⟩ := rebuild?_eq_some arrived
      have listed := spaced.listings number listing ⟨_, member, named, Or.inr rfl⟩
      exact still.install spaced.inStep.agrees inStep.agrees spaced.viewed listed
  | _ =>
      exact still

theorem spaced_run {actions : List Action} (distinct : ids.Nodup)
    (several : 2 ≤ ids.length) (wide : 1 ≤ world.window.width.toNat)
    (sameGap : gap = max (ids.length - world.window.width.toNat) 1)
    (steady : world.Along Steady actions) (spaced : world.Spaced gap ids past) :
    (world.run actions).1.Spaced gap ids (past ++ served (world.run actions).2) := by
  induction actions generalizing world past with
  | nil =>
      rw [run_nil]
      exact (List.append_nil past).symm ▸ spaced
  | cons action rest inductionHypothesis =>
      have first := spaced_step distinct several wide sameGap steady.1 spaced
      rw [run_cons, served_append, ← List.append_assoc]
      refine inductionHypothesis ?_ ?_ steady.2 first
      · rw [window_step]
        exact wide
      · rw [window_step]
        exact sameGap

theorem width_window (settings : QueueSettings) (store : Store) (clock : Moment) :
    (start settings store clock).window.width.toNat =
      max settings.selectionWindow.toNat 1 :=
  UInt64.toNat_max ..

theorem spaced_start (settings : QueueSettings) {store : Store} (filed : store.Filed)
    (clock : Moment) (gap : Nat) :
    (start settings store clock).Spaced gap (store.viewedBoxes.map ViewedBox.id) [] where
  inStep := inStep_start settings filed clock
  viewed := by
    intro id
    rw [List.mem_map, Option.isSome_iff_exists]
    constructor
    · rintro ⟨moment, viewed⟩
      exact ⟨⟨id, moment⟩, (Store.mem_viewedBoxes_iff filed).2 viewed, rfl⟩
    · rintro ⟨viewed, member, rfl⟩
      exact ⟨viewed.lastViewed, (Store.mem_viewedBoxes_iff filed).1 member⟩
  listings := by
    rintro number listing ⟨rebuild, member, _⟩
    cases member
  shelf := {
    filled := Or.inl rfl
    lastServed := rfl
    atEnd := by
      rw [lastOnes, List.drop_nil]
      exact List.nil_suffix
    spaced := by
      intro block inRow _
      rw [List.infix_nil.1 inRow]
      exact List.nodup_nil }

/-- Suppose that `n` boxes were viewed, at least two, that they are fixed, and that
each recorded view lifts its box above all others. With a window of `w` boxes, any
`max (n - w) 1 + 1` servings in a row are of different boxes. -/
theorem servings_spaced (settings : QueueSettings) (writes : List StoreWrite)
    (clock : Moment) (actions : List Action)
    (several : 2 ≤ (Store.ofWrites writes).viewedBoxes.length)
    (steady : (start settings (Store.ofWrites writes) clock).Along Steady actions) :
    let n := (Store.ofWrites writes).viewedBoxes.length
    let w := max settings.selectionWindow.toNat 1
    ∀ block, block <:+: served
        ((start settings (Store.ofWrites writes) clock).run actions).2 →
      block.length ≤ max (n - w) 1 + 1 → block.Nodup := by
  intro n w
  have filed := Store.filed_ofWrites writes
  have sameWidth := width_window settings (Store.ofWrites writes) clock
  have last := spaced_run (Store.viewedBoxes_nodup filed)
    (by rw [List.length_map]; exact several)
    (by rw [sameWidth]; exact Nat.le_max_right ..)
    (by rw [sameWidth, List.length_map]) steady
    (spaced_start settings filed clock (max (n - w) 1))
  exact last.shelf.spaced

/-- Three boxes that were all viewed at the same moment. -/
def threeBoxes : List StoreWrite :=
  [.insert (MessageBox.create "a" "" Moment.epoch),
    .insert (MessageBox.create "b" "" Moment.epoch),
    .insert (MessageBox.create "c" "" Moment.epoch)]

/-- Three boxes are served in turn from a window of one, each a second after the one
before. Meanwhile a second rebuild is on its way. -/
def threeServings : List Action :=
  [.spawn, .fireTimer, .list 0, .receive 0, .install 0, .announce 0, .observe,
    .setClock (.afterEpoch 1), .call 0, .enter 0 0, .record 0,
    .pass 900000, .fireTimer, .list 1,
    .setClock (.afterEpoch 2), .call 0, .enter 0 0, .record 0,
    .receive 1, .install 1,
    .setClock (.afterEpoch 3), .call 0, .enter 0 0, .record 0]

theorem servings_spaced_threeServings :
    2 ≤ (Store.ofWrites threeBoxes).viewedBoxes.length ∧
      (start ⟨900, 10, 1000, 1⟩ (Store.ofWrites threeBoxes) Moment.epoch).Along Steady
        threeServings ∧
      (["a", "b", "c"] : List String).Nodup := by
  have several : 2 ≤ (Store.ofWrites threeBoxes).viewedBoxes.length := by
    decide +kernel
  have steady : (start ⟨900, 10, 1000, 1⟩ (Store.ofWrites threeBoxes)
      Moment.epoch).Along Steady threeServings := by
    decide +kernel
  have all : served ((start ⟨900, 10, 1000, 1⟩ (Store.ofWrites threeBoxes)
      Moment.epoch).run threeServings).2 = ["a", "b", "c"] := by
    decide +kernel
  have whole : ["a", "b", "c"] <:+: served ((start ⟨900, 10, 1000, 1⟩
      (Store.ofWrites threeBoxes) Moment.epoch).run threeServings).2 := by
    rw [all]
  refine ⟨several, steady, servings_spaced ⟨900, 10, 1000, 1⟩ threeBoxes Moment.epoch
    threeServings several steady ["a", "b", "c"] whole ?_⟩
  decide +kernel

end World

end StalestFirst
