import Mathlib
import StalestFirst.Proofs.Queue.Futile
import StalestFirst.Proofs.Roster

namespace StalestFirst

/-! ## What a rebuild installs -/

namespace Shelf

/-- The boxes are those of the listing. Each has the score of its last place there, or the
one it had if that is higher. The box that was served last stays the same. -/
structure Installs (shelf : Shelf) (listing : List ViewedBox) (next : Shelf) : Prop where
  boxes : ∀ id, next.pool.contains id = true ↔ id ∈ listing.map ViewedBox.id
  scores : ∀ earlier viewed later, listing = earlier ++ viewed :: later →
    viewed.id ∉ later.map ViewedBox.id →
      next.pool.get? viewed.id =
        some ((shelf.pool.get? viewed.id).elim viewed.lastViewed.score
          (max viewed.lastViewed.score))
  forward : ∀ id ∈ listing.map ViewedBox.id, ∀ score, shelf.pool.get? id = some score →
    ∃ newer, next.pool.get? id = some newer ∧ score ≤ newer
  size : next.pool.size = (listing.map ViewedBox.id).dedup.length
  lastServed : next.lastServed = shelf.lastServed

theorem get?_install (shelf : Shelf) (listing : List ViewedBox) (id : String) :
    (shelf.install listing).pool.get? id =
      Item.newest (Item.latest? (listing.map ViewedBox.item) id) (shelf.pool.get? id) := by
  rw [install, rebuilt, Pool.get?_keepNewer_eq_newest, Pool.get?_ofList]

theorem contains_install (shelf : Shelf) (listing : List ViewedBox) (id : String) :
    (shelf.install listing).pool.contains id = true ↔ id ∈ listing.map ViewedBox.id := by
  rw [install, contains_rebuilt, List.mem_map]

theorem size_install (shelf : Shelf) (listing : List ViewedBox) :
    (shelf.install listing).pool.size = (listing.map ViewedBox.id).dedup.length :=
  Pool.size_eq_length_dedup (shelf.contains_install listing)

theorem installs_install (shelf : Shelf) (listing : List ViewedBox) :
    shelf.Installs listing (shelf.install listing) where
  boxes := shelf.contains_install listing
  scores := by
    intro earlier viewed later shape last
    have lastItem : viewed.item.id ∉ (later.map ViewedBox.item).map Item.id := by
      rw [List.map_map]
      exact last
    have latest : Item.latest? (listing.map ViewedBox.item) viewed.id =
        some viewed.lastViewed.score := by
      rw [shape, List.map_append, List.map_cons]
      exact Item.latest?_of_last lastItem
    rw [get?_install, latest]
    cases shelf.pool.get? viewed.id with
    | none =>
        rfl
    | some live =>
        rfl
  forward := by
    intro id listed score live
    have contained := (shelf.contains_install listing id).2 listed
    obtain ⟨newer, found⟩ := Pool.contains_iff_exists_get?.1 contained
    refine ⟨newer, found, ?_⟩
    rw [get?_install, live] at found
    exact Item.le_of_newest found
  size := shelf.size_install listing
  lastServed := rfl

theorem install_install (shelf : Shelf) (listing : List ViewedBox) :
    (shelf.install listing).install listing = shelf.install listing := by
  have samePool : ((shelf.install listing).install listing).pool =
      (shelf.install listing).pool := by
    apply Pool.eq_of_get?_eq
    intro id
    rw [get?_install, get?_install, Item.newest_newest]
  exact congrArg (fun pool => (⟨pool, shelf.lastServed⟩ : Shelf)) samePool

theorem install_eq_of_perm (shelf : Shelf) {listing other : List ViewedBox}
    (distinct : (listing.map ViewedBox.id).Nodup) (permuted : listing.Perm other) :
    shelf.install other = shelf.install listing := by
  have distinctItems : ((listing.map ViewedBox.item).map Item.id).Nodup := by
    rw [List.map_map]
    exact distinct
  rw [install, install, rebuilt, rebuilt,
    Pool.ofList_eq_of_perm distinctItems (permuted.map ViewedBox.item)]

end Shelf

namespace World

variable {world : World} {seen : List Event}

/-! ## What the loop is told of an install -/

/-- The rebuild has installed a listing of so many distinct boxes. -/
def Tallied (seen : List Event) (number count : Nat) : Prop :=
  ∃ listing, .installed number listing ∈ seen ∧
    count = (listing.map ViewedBox.id).dedup.length

/-- Every count of boxes is that of a listing that was installed. -/
structure Counted (world : World) (seen : List Event) : Prop where
  atWork : ∀ rebuild ∈ world.rebuilds, ∀ count,
    rebuild.stage = .swapped count ∨ rebuild.stage = .ended (.installed count) →
      Tallied seen rebuild.number count
  told : ∀ number count time, .observed number (.installed count) time ∈ seen →
    Tallied seen number count

theorem Tallied.append {number count : Nat} (tallied : Tallied seen number count)
    (more : List Event) : Tallied (seen ++ more) number count := by
  obtain ⟨listing, member, same⟩ := tallied
  exact ⟨listing, List.mem_append_left more member, same⟩

theorem counted_step (action : Action) (sole : world.Sole) (counted : world.Counted seen) :
    (world.step action).1.Counted (seen ++ (world.step action).2) where
  atWork := by
    intro rebuild member count counts
    rcases rebuild_step sole member with before | ⟨fresh, _⟩ | ⟨earlier, before, same, advance⟩
    · exact (counted.atWork rebuild before count counts).append _
    · rw [fresh] at counts
      rcases counts with swapped | ended
      · cases swapped
      · cases ended
    · have tallied := counted.atWork earlier before count
      obtain ⟨number, stage⟩ := rebuild
      obtain ⟨_, earlierStage⟩ := earlier
      generalize (world.step action).2 = events at advance ⊢
      simp only at same advance counts tallied ⊢
      subst same
      cases advance with
      | @installs listing =>
          rcases counts with swapped | ended
          · cases swapped
            exact ⟨listing, List.mem_append_right seen (List.mem_singleton_self _),
              world.shelf.size_install listing⟩
          · cases ended
      | announces =>
          rcases counts with swapped | ended
          · cases swapped
          · cases ended
            exact (tallied (Or.inl rfl)).append _
      | lists | panics | receives | fails =>
          rcases counts with swapped | ended
          · cases swapped
          · cases ended
  told := by
    intro number count time observed
    rcases List.mem_append.1 observed with before | now
    · exact (counted.told number count time before).append _
    · exact (counted.atWork _ (ended_of_observed now) count (Or.inr rfl)).append _

theorem counted_run (settings : QueueSettings) (store : Store) (clock : Moment)
    (actions : List Action) :
    ((start settings store clock).run actions).1.Counted
      ((start settings store clock).run actions).2 := by
  have kept (world : World) (seen : List Event) (action : Action)
      (both : world.Sole ∧ world.Counted seen) :
      (world.step action).1.Sole ∧
        (world.step action).1.Counted (seen ++ (world.step action).2) :=
    ⟨sole_step world action both.1, counted_step action both.1 both.2⟩
  have atStart : (start settings store clock).Counted [] := by
    refine ⟨?_, ?_⟩
    · intro rebuild member
      cases member
    · intro number count time observed
      cases observed
  exact (run_history kept [] actions ⟨sole_start settings store clock, atStart⟩).2

/-- Where a listing is installed, the shelf is what the install makes of it, and nothing else
of the queue changes. -/
theorem installs_of_installed {action : Action} {number : Nat} {listing : List ViewedBox}
    (installed : .installed number listing ∈ (world.step action).2) :
    world.shelf.Installs listing (world.step action).1.shelf ∧
      (world.step action).1.SameQueue { world with shelf := (world.step action).1.shelf } := by
  have change := world.change action
  generalize (world.step action).1 = next at change ⊢
  generalize (world.step action).2 = events at change installed
  cases change with
  | aside idle alike silent =>
      cases silent _ installed
  | leaves guarded leaving silent =>
      cases silent _ installed
  | observes waits finished silent =>
      rcases List.mem_cons.1 installed with same | later
      · cases same
      · cases silent _ later
  | installs free arrived =>
      cases List.mem_singleton.1 installed
      exact ⟨world.shelf.installs_install listing, ⟨rfl, rfl, rfl, rfl, rfl, rfl, rfl, rfl⟩⟩
  | _ =>
      simp at installed

/-- A rebuild installs the boxes of its listing, each with the newest score that is known of
it. A rebuild that fails leaves no trace. -/
theorem rebuild_installs_newest :
    (∀ shelf listing,
      Shelf.Installs shelf listing (shelf.install listing) ∧
      (shelf.install listing).install listing = shelf.install listing ∧
      ((listing.map ViewedBox.id).Nodup → ∀ other, listing.Perm other →
        shelf.install other = shelf.install listing)) ∧
    (∀ (live : Roster.History) listing,
      let index := (Roster.ofList (listing.map ViewedBox.item)).keepNewer live.roster
      let pool := Shelf.rebuilt listing live.pool
      index.order = pool.ranking ∧ index.size = pool.size ∧
        ∀ id, index.get? id = pool.get? id) ∧
    ∀ settings store clock actions,
      let world := start settings store clock
      let last := (world.run actions).1
      let other := (world.run (world.withoutFutile actions)).1
      (∀ number count time, .observed number (.installed count) time ∈ (world.run actions).2 →
        Tallied (world.run actions).2 number count) ∧
      (∀ earlier action later number, actions = earlier ++ action :: later →
        let before := (world.run earlier).1
        let after := (before.step action).1
        (∀ listing, .installed number listing ∈ (before.step action).2 →
          before.shelf.Installs listing after.shelf ∧
            after.SameQueue { before with shelf := after.shelf }) ∧
        (before.rebuildOf? action = some number →
          world.comesToNothing number actions = true → before.SameQueue after) ∧
        (before.rests action = true → after = before)) ∧
      (∀ number outcome time, .observed number outcome time ∈ (world.run actions).2 →
        (world.comesToNothing number actions = true ↔ ∀ count, outcome ≠ .installed count)) ∧
      last.SameQueue other ∧ (last.loop ≠ .ended .overflowed → other.buffer = last.buffer) := by
  refine ⟨?_, ?_, ?_⟩
  · intro shelf listing
    exact ⟨shelf.installs_install listing, shelf.install_install listing,
      fun distinct other permuted => shelf.install_eq_of_perm distinct permuted⟩
  · intro live listing index pool
    let history : Roster.History := .keepNewer (.ofList (listing.map ViewedBox.item)) live
    have sameOrder : pool.ranking = index.order := history.ranking_eq
    refine ⟨sameOrder.symm, ?_, ?_⟩
    · rw [Pool.size, sameOrder]
      exact history.coherent.size_eq
    · intro id
      exact (history.get?_roster id).trans (history.get?_pool id).symm
  · intro settings store clock actions world last other
    refine ⟨(counted_run settings store clock actions).told, ?_,
      fun number outcome time =>
        comesToNothing_iff_of_observed settings store clock actions number time outcome,
      sameQueue_withoutFutile settings store clock actions⟩
    intro earlier action later number shape before after
    refine ⟨fun listing installed => installs_of_installed installed, ?_, ?_⟩
    · intro own fails
      rw [shape] at fails
      exact sameQueue_of_futile settings store clock earlier action later number own fails
    · intro still
      have nothing : before.step action = (before, []) := step_of_rests still
      change (before.step action).1 = before
      rw [nothing]

end World

end StalestFirst
