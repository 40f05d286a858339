import Mathlib
import StalestFirst.Proofs.Draw
import StalestFirst.Proofs.Moment
import StalestFirst.Proofs.Queue.Exclusion
import StalestFirst.Proofs.Queue.Items
import StalestFirst.Proofs.Queue.Views

namespace StalestFirst

/-! ## Pools that agree with the store -/

/-- The later store knows of all views that the earlier one knows, at the same
moments. -/
def Store.Extends (later earlier : Store) : Prop :=
  ∀ id moment, earlier.lastView? id = some moment → later.lastView? id = some moment

/-- The pool has the score of a box from its last view in the store. -/
def Pool.Agrees (pool : Pool) (store : Store) : Prop :=
  ∀ id score, pool.get? id = some score →
    ∃ moment, store.lastView? id = some moment ∧ moment.score = score

/-- What an older listing says of a box was the truth, and still is unless the pool
has the box. -/
def Pool.MakesUpFor (pool : Pool) (listing : List ViewedBox) (store : Store) : Prop :=
  ∀ viewed ∈ listing, ∃ moment, store.lastView? viewed.id = some moment ∧
    viewed.lastViewed.score ≤ moment.score ∧
    (pool.contains viewed.id = false → moment.score = viewed.lastViewed.score)

namespace Pool

variable {pool : Pool} {store later : Store} {listing : List ViewedBox}

theorem agrees_empty (store : Store) : empty.Agrees store := by
  intro id score found
  cases found

theorem Agrees.of_extends (agrees : pool.Agrees store) (grows : later.Extends store) :
    pool.Agrees later := by
  intro id score found
  obtain ⟨moment, viewed, same⟩ := agrees id score found
  exact ⟨moment, grows id moment viewed, same⟩

/-- A pool that agrees with the store has only boxes that were viewed. -/
theorem Agrees.viewed (agrees : pool.Agrees store) {id : String}
    (contained : pool.contains id = true) : (store.lastView? id).isSome = true := by
  obtain ⟨score, pooled⟩ := contains_iff_exists_get?.1 contained
  obtain ⟨moment, viewed, _⟩ := agrees id score pooled
  rw [viewed]
  rfl

/-- Pools with the same boxes that agree with the same store are equal. -/
theorem Agrees.eq {other : Pool} (agrees : pool.Agrees store)
    (otherAgrees : other.Agrees store)
    (sameBoxes : ∀ id, pool.contains id = true ↔ other.contains id = true) :
    pool = other := by
  refine eq_of_get?_eq fun id => ?_
  cases inOther : other.get? id with
  | none =>
      have absent : pool.contains id ≠ true := by
        rw [Ne, sameBoxes]
        simp [contains, inOther]
      simpa [contains] using absent
  | some score =>
      obtain ⟨poolScore, inPool⟩ := contains_iff_exists_get?.1
        ((sameBoxes id).2 (contains_iff_exists_get?.2 ⟨score, inOther⟩))
      obtain ⟨moment, viewed, rfl⟩ := agrees id poolScore inPool
      obtain ⟨otherMoment, otherViewed, rfl⟩ := otherAgrees id score inOther
      rw [viewed] at otherViewed
      cases otherViewed
      exact inPool

theorem MakesUpFor.of_extends (makesUp : pool.MakesUpFor listing store)
    (grows : later.Extends store) : pool.MakesUpFor listing later := by
  intro viewed member
  obtain ⟨moment, lastViewed, rest⟩ := makesUp viewed member
  exact ⟨moment, grows viewed.id moment lastViewed, rest⟩

/-- A new listing tells the truth. -/
theorem makesUpFor_listing (filed : store.Filed) (listed : store.listing = .ok listing)
    (pool : Pool) : pool.MakesUpFor listing store := by
  intro viewed member
  exact ⟨viewed.lastViewed, (Store.mem_listing_iff filed listed).1 member,
    Int64.le_refl _, fun _ => rfl⟩

/-- A served box gets the score of its new view. -/
theorem Agrees.serve (agrees : pool.Agrees store) (id : String) (stored : StoredBox)
    (viewedAt : Moment) :
    (pool.upsert id viewedAt.score).Agrees (store.put id (stored.withView viewedAt)) := by
  intro other score found
  rw [get?_upsert] at found
  rw [Store.lastView?_put]
  by_cases asked : id = other
  · rw [if_pos asked] at found ⊢
    cases found
    exact ⟨viewedAt, rfl, rfl⟩
  · rw [if_neg asked] at found ⊢
    exact agrees other score found

/-- A box that is served from the pool is in the pool, so its new view need not be
in an older listing. -/
theorem MakesUpFor.serve (makesUp : pool.MakesUpFor listing store)
    (agrees : pool.Agrees store) {id : String} {score : Int64}
    (pooled : pool.get? id = some score) {viewedAt : Moment}
    (forward : score ≤ viewedAt.score) (stored : StoredBox) :
    (pool.upsert id viewedAt.score).MakesUpFor listing
      (store.put id (stored.withView viewedAt)) := by
  intro viewed member
  obtain ⟨moment, lastViewed, notHigher, unlessPooled⟩ := makesUp viewed member
  rw [Store.lastView?_put, contains_upsert]
  by_cases asked : id = viewed.id
  · -- The listing falls behind for the served box, but the pool has that box.
    rw [if_pos asked]
    obtain ⟨known, knownViewed, sameScore⟩ := agrees id score pooled
    rw [asked, lastViewed] at knownViewed
    cases knownViewed
    refine ⟨viewedAt, rfl, ?_, fun absent => ?_⟩
    · rw [← sameScore] at forward
      exact Int64.le_trans notHigher forward
    · simp [asked] at absent
  · rw [if_neg asked]
    refine ⟨moment, lastViewed, notHigher, fun absent => unlessPooled ?_⟩
    exact (Bool.or_eq_false_iff.1 absent).2

/-- The pool that is rebuilt from an older listing agrees with the store if the pool
before made up for it: where the listing is behind, the higher score is kept. -/
theorem Agrees.rebuilt (agrees : pool.Agrees store)
    (makesUp : pool.MakesUpFor listing store) :
    (Shelf.rebuilt listing pool).Agrees store := by
  intro id score found
  unfold Shelf.rebuilt at found
  rw [get?_keepNewer] at found
  obtain ⟨listed, inListing, rfl⟩ := Option.map_eq_some_iff.1 found
  obtain ⟨viewed, member, same⟩ := List.mem_map.1 (mem_of_get?_ofList inListing)
  obtain ⟨rfl, rfl⟩ := Item.mk.inj same
  obtain ⟨moment, lastViewed, notHigher, unlessPooled⟩ := makesUp viewed member
  refine ⟨moment, lastViewed, ?_⟩
  cases live : pool.get? viewed.id with
  | none =>
      rw [raised_of_get?_eq_none live]
      exact unlessPooled (by simp [contains, live])
  | some liveScore =>
      obtain ⟨known, knownViewed, sameScore⟩ := agrees viewed.id liveScore live
      rw [lastViewed] at knownViewed
      cases knownViewed
      rw [← sameScore] at live
      have raised : pool.raised ⟨viewed.id, viewed.lastViewed.score⟩ =
          ⟨viewed.id, moment.score⟩ := raised_of_le live notHigher
      rw [raised]

end Pool

/-- A gentle change takes no view away. -/
theorem Store.extends_of_gentle (store : Store) {write : StoreWrite}
    (gentle : write.Gentle) : (write.apply store).Extends store := by
  intro id moment viewed
  rcases Store.lastView?_of_gentle store gentle id with same | ⟨box, _, _, absent, _⟩
  · rw [same]
    exact viewed
  · rw [absent] at viewed
    cases viewed

namespace World

/-! ## Worlds in step -/

/-- Nothing is submitted, deleted or viewed from outside, and no view that the queue
has recorded lowers the score of its box. -/
structure Tended (world : World) (action : Action) : Prop where
  unsubmitted : ∀ item, action ≠ .submit item
  undisturbed : action.Undisturbed
  forward : ∀ visit grown score, action = .record visit.call →
    world.visit = some visit →
    world.store.recordView visit.chosen visit.viewedAt = .ok grown →
    world.shelf.pool.get? visit.chosen = some score → score ≤ visit.viewedAt.score

/-- The pool agrees with the store, and makes up for what any listing on its way has
missed. -/
structure InStep (world : World) : Prop where
  sole : world.Sole
  drawn : world.Drawn
  itemless : world.items = []
  filed : world.store.Filed
  agrees : world.shelf.pool.Agrees world.store
  makesUp : ∀ number listing, world.Pending number listing →
    world.shelf.pool.MakesUpFor listing world.store

theorem inStep_start (settings : QueueSettings) {store : Store} (filed : store.Filed)
    (clock : Moment) : (start settings store clock).InStep where
  sole := sole_start settings store clock
  drawn := by
    intro visit guarded
    cases guarded
  itemless := rfl
  filed := filed
  agrees := Pool.agrees_empty store
  makesUp := by
    rintro number listing ⟨rebuild, member, _⟩
    cases member

/-- A step that leaves the shelf and brings no new listing keeps the pool in step if
the store forgets no view. -/
private theorem agreement_of_extends {world next : World} (inStep : world.InStep)
    (sameShelf : next.shelf = world.shelf) (grows : next.store.Extends world.store)
    (pendingBefore : ∀ number listing, next.Pending number listing →
      world.Pending number listing) :
    next.shelf.pool.Agrees next.store ∧
      ∀ number listing, next.Pending number listing →
        next.shelf.pool.MakesUpFor listing next.store := by
  rw [sameShelf]
  refine ⟨inStep.agrees.of_extends grows, fun number listing pending => ?_⟩
  exact (inStep.makesUp number listing (pendingBefore number listing pending)).of_extends
    grows

/-- Recording a view keeps the pool in step. -/
private theorem agreement_of_record {world : World} (inStep : world.InStep)
    {visit : Visit} (guarded : world.visit = some visit)
    (tended : world.Tended (.record visit.call)) :
    let outcome := world.store.recordView visit.chosen visit.viewedAt
    let shelf := world.shelf.conclude visit.chosen visit.viewedAt
      (outcome.map fun _ => ())
    let store := outcome.toOption.getD world.store
    shelf.pool.Agrees store ∧
      ∀ number listing, world.Pending number listing →
        shelf.pool.MakesUpFor listing store := by
  obtain ⟨number, drawn⟩ := inStep.drawn visit guarded
  have contained := Window.contains_of_draw drawn
  obtain ⟨score, pooled⟩ := Pool.contains_iff_exists_get?.1 contained
  have forward := fun grown recorded =>
    tended.forward visit grown score rfl guarded recorded pooled
  have result := Store.recording world.store visit.chosen visit.viewedAt
  generalize world.store.recordView visit.chosen visit.viewedAt = answer
    at result forward ⊢
  cases result with
  | @recorded stored found =>
      refine ⟨inStep.agrees.serve visit.chosen stored visit.viewedAt,
        fun number listing pending => ?_⟩
      exact (inStep.makesUp number listing pending).serve inStep.agrees pooled
        (forward _ rfl) stored
  | missing absent =>
      -- A box of the pool was viewed, so the store knows it.
      have viewed := inStep.agrees.viewed contained
      rw [Store.lastView?, absent] at viewed
      cases viewed
  | unreachable =>
      exact ⟨inStep.agrees, inStep.makesUp⟩

/-- Every tended step keeps the pool in step. -/
theorem inStep_step (world : World) (action : Action) (tended : world.Tended action)
    (inStep : world.InStep) : (world.step action).1.InStep := by
  have sole := sole_step world action inStep.sole
  have drawn := drawn_step world action inStep.drawn
  have itemless := items_eq_nil_step tended.unsubmitted inStep.itemless
  have filed := filed_step world action inStep.filed
  suffices agreement : (world.step action).1.shelf.pool.Agrees
        (world.step action).1.store ∧
      ∀ number listing, (world.step action).1.Pending number listing →
        (world.step action).1.shelf.pool.MakesUpFor listing
          (world.step action).1.store from
    ⟨sole, drawn, itemless, filed, agreement.1, agreement.2⟩
  have pendingBefore : ∀ number listing,
      (world.step action).1.Pending number listing →
        world.Pending number listing ∨
          (action = .list number ∧ world.store.listing = .ok listing) :=
    fun _ _ pending => pending_step pending
  have change := world.change action
  generalize (world.step action).1 = next at change pendingBefore ⊢
  generalize (world.step action).2 = events at change
  cases change with
  | aside idle alike silent =>
      refine agreement_of_extends inStep alike.shelf ?_
        (fun _ _ pending => pending.of_same alike.rebuilds)
      rw [alike.store]
      exact fun _ _ => id
  | records guarded =>
      exact agreement_of_record inStep guarded tended
  | applies free taken =>
      exact absurd inStep.itemless (items_ne_nil_of_taken taken)
  | lists begun =>
      refine ⟨inStep.agrees, fun number listing pending => ?_⟩
      rcases pendingBefore number listing pending with earlier | ⟨_, listed⟩
      · exact inStep.makesUp number listing earlier
      · exact Pool.makesUpFor_listing inStep.filed listed _
  | @installs number found listing free arrived =>
      obtain ⟨member, named⟩ := rebuild?_eq_some arrived
      have makesUp := inStep.makesUp number listing ⟨_, member, named, Or.inr rfl⟩
      refine ⟨inStep.agrees.rebuilt makesUp, fun other later pending => ?_⟩
      have stillSole : ({ world with
          shelf := world.shelf.install listing } : World).Sole :=
        inStep.sole.of_same rfl id
      exact absurd pending (stillSole.not_pending arrived (by simp) (by simp))
  | writes write =>
      exact agreement_of_extends inStep rfl
        (Store.extends_of_gentle world.store tended.undisturbed) fun _ _ => id
  | finishes ready finish =>
      exact agreement_of_extends inStep rfl (fun _ _ => id) fun number listing pending =>
        (pendingBefore number listing pending).resolve_right
          fun listed => finish.ne_list number listed.1
  | leaves guarded leaving silent =>
      exact agreement_of_extends inStep rfl (fun _ _ => id) fun _ _ => id
  | _ =>
      exact agreement_of_extends inStep rfl (fun _ _ => id) fun number listing pending =>
        (pendingBefore number listing pending).resolve_right (by simp)

end World

end StalestFirst
