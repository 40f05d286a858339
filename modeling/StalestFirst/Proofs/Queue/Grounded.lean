import Mathlib
import StalestFirst.Proofs.Queue.Agreement
import StalestFirst.Proofs.Queue.Callers

namespace StalestFirst

/-! ## Items with a box behind them

Whatever is in the pool, or is on its way into it, must name a box that the store knows
and that has been viewed. In good time, which goes forward and has no leap seconds, its
score is also no higher than that of the last view. Everything is proved at once with
good time (`timely`) supposed or not. -/

namespace Store

variable {timely : Prop} {store later : Store}

/-- The store knows the box of the item and when it was viewed last. In good time that
view is no staler than the item. -/
def Backs (timely : Prop) (store : Store) (item : Item) : Prop :=
  ∃ moment, store.lastView? item.id = some moment ∧
    (timely → item.score ≤ moment.score)

theorem Backs.stored {item : Item} (backs : store.Backs timely item) :
    ∃ stored moment, store.boxes.get? item.id = some stored ∧
      stored.box.lastViewed = some moment ∧ (timely → item.score ≤ moment.score) := by
  obtain ⟨moment, last, notLater⟩ := backs
  obtain ⟨stored, found, lastViewed⟩ := exists_stored_of_lastView? last
  exact ⟨stored, moment, found, lastViewed, notLater⟩

theorem Backs.of_viewed {viewed : ViewedBox}
    (last : store.lastView? viewed.id = some viewed.lastViewed) :
    store.Backs timely viewed.item :=
  ⟨viewed.lastViewed, last, fun _ => Int64.le_refl _⟩

/-- All boxes that the earlier store knows as viewed still are. In good time they were
viewed no earlier. -/
def Advances (timely : Prop) (later earlier : Store) : Prop :=
  ∀ viewed : ViewedBox, earlier.lastView? viewed.id = some viewed.lastViewed →
    later.Backs timely viewed.item

theorem Advances.refl (store : Store) : store.Advances timely store :=
  fun _ => Backs.of_viewed

theorem Extends.advances (grows : later.Extends store) : later.Advances timely store :=
  fun viewed last => Backs.of_viewed (grows viewed.id viewed.lastViewed last)

theorem Backs.of_advances {item : Item} (backs : store.Backs timely item)
    (advances : later.Advances timely store) : later.Backs timely item := by
  obtain ⟨moment, last, notLater⟩ := backs
  obtain ⟨next, nextLast, nextNotLater⟩ := advances ⟨item.id, moment⟩ last
  exact ⟨next, nextLast, fun inTime =>
    Int64.le_trans (notLater inTime) (nextNotLater inTime)⟩

/-- One more view of a box takes nothing away, if it is not an earlier one. -/
theorem advances_put_withView {id : String} (stored : StoredBox) {viewedAt : Moment}
    (forward : timely → ∀ moment, store.lastView? id = some moment →
      moment.score ≤ viewedAt.score) :
    (store.put id (stored.withView viewedAt)).Advances timely store := by
  intro viewed last
  by_cases same : id = viewed.id
  · refine ⟨viewedAt, ?_, fun inTime => ?_⟩
    · rw [lastView?_put, ViewedBox.item, if_pos same]
      rfl
    · exact forward inTime viewed.lastViewed (same ▸ last)
  · refine ⟨viewed.lastViewed, ?_, fun _ => Int64.le_refl _⟩
    rw [lastView?_put, ViewedBox.item, if_neg same]
    exact last

end Store

namespace World

variable {timely : Prop} {world : World}

/-- All items in the pool, all that wait, and all that a listing on its way will bring
have their boxes behind them. -/
structure Grounded (timely : Prop) (world : World) : Prop where
  filed : world.store.Filed
  drawn : world.Drawn
  pooled : ∀ id score, world.shelf.pool.get? id = some score →
    world.store.Backs timely ⟨id, score⟩
  waiting : ∀ item ∈ world.items, world.store.Backs timely item
  listed : ∀ number listing, world.Pending number listing →
    ∀ viewed ∈ listing, world.store.Backs timely viewed.item
  prompt : timely → world.Prompt

/-- The step deletes no box and submits only items with boxes behind them. In good time
it is an orderly one, unless it submits an item. -/
structure Fosters (timely : Prop) (world : World) (action : Action) : Prop where
  undeleting : ∀ id, action ≠ .write (.delete id)
  backed : ∀ item, action = .submit item → world.store.Backs timely item
  orderly : timely → (∃ item, action = .submit item) ∨ world.Orderly action

theorem Fosters.of_orderly {action : Action} (orderly : world.Orderly action) :
    world.Fosters timely action where
  undeleting := by
    rintro id rfl
    exact orderly
  backed := by
    rintro item rfl
    exact orderly.elim
  orderly _ := Or.inr orderly

theorem Fosters.submit {item : Item} (backed : world.store.Backs timely item) :
    world.Fosters timely (.submit item) where
  undeleting := nofun
  backed := by
    rintro other same
    cases same
    exact backed
  orderly _ := Or.inl ⟨item, rfl⟩

/-- Of the box that a retrieval has chosen, the store knows when it was viewed. -/
theorem Grounded.viewed_chosen (grounded : world.Grounded timely) {visit : Visit}
    (guarded : world.visit = some visit) :
    ∃ moment, world.store.lastView? visit.chosen = some moment := by
  obtain ⟨number, drawn⟩ := grounded.drawn visit guarded
  obtain ⟨score, pooled⟩ :=
    Pool.contains_iff_exists_get?.1 (Window.contains_of_draw drawn)
  obtain ⟨moment, last, _⟩ := grounded.pooled visit.chosen score pooled
  exact ⟨moment, last⟩

/-! ### What a step does to the store -/

theorem advances_step {action : Action} (grounded : world.Grounded timely)
    (fosters : world.Fosters timely action) :
    (world.step action).1.store.Advances timely world.store := by
  have effect := world.effect action
  generalize (world.step action).1.store = store at effect ⊢
  generalize served (world.step action).2 = ids at effect
  cases effect with
  | none =>
      exact .refl _
  | serves guarded found =>
      refine Store.advances_put_withView _ fun inTime moment last => ?_
      exact (grounded.prompt inTime).forward guarded last
  | writes write =>
      by_cases gentle : write.Gentle
      · exact (Store.extends_of_gentle world.store gentle).advances
      · have change := Store.written world.store write
        generalize write.apply world.store = store at change ⊢
        cases change with
        | refused =>
            exact .refl _
        | deleted id =>
            exact absurd rfl (fosters.undeleting id)
        | viewed found =>
            -- In good time nobody but the queue records a view.
            refine Store.advances_put_withView _ fun inTime moment last => ?_
            rcases fosters.orderly inTime with ⟨item, other⟩ | orderly
            · cases other
            · exact orderly.elim
        | inserted online absent =>
            exact absurd trivial gentle
        | reacted found =>
            exact absurd trivial gentle
        | switched offline =>
            exact absurd trivial gentle

/-- A box that a step serves is one that was viewed. -/
theorem viewed_of_served {action : Action} {id : String}
    (member : id ∈ served (world.step action).2) :
    ∃ moment, (world.step action).1.store.lastView? id = some moment := by
  have effect := world.effect action
  generalize (world.step action).1.store = store at effect ⊢
  generalize served (world.step action).2 = ids at effect member
  cases effect with
  | none =>
      cases member
  | @serves visit stored guarded found =>
      rw [List.mem_singleton.1 member]
      exact ⟨visit.viewedAt, by rw [Store.lastView?_put, if_pos rfl]; rfl⟩
  | writes write =>
      cases member

/-- No retrieval finds that the box it has chosen is gone. -/
theorem Grounded.notFound_unseen (grounded : world.Grounded timely) (action : Action)
    (call : Nat) (id : String) :
    .answered call (.error (.boxNotFound id)) ∉ (world.step action).2 := by
  intro seen
  cases answers_of_seen seen with
  | @settled visit _ guarded own told =>
      obtain ⟨moment, last⟩ := grounded.viewed_chosen guarded
      have result := Store.recording world.store visit.chosen visit.viewedAt
      generalize world.store.recordView visit.chosen visit.viewedAt = answer
        at result told
      cases result with
      | recorded found =>
          cases told
      | missing absent =>
          rw [Store.lastView?, absent] at last
          cases last
      | unreachable =>
          cases told

/-! ### Steps that keep everything grounded -/

/-- What the pool gains in a step is backed by the store after it. -/
theorem pooled_step {action : Action} (grounded : world.Grounded timely)
    (fosters : world.Fosters timely action) {id : String} {score : Int64}
    (pooled : (world.step action).1.shelf.pool.get? id = some score) :
    (world.step action).1.store.Backs timely ⟨id, score⟩ := by
  have advances := advances_step grounded fosters
  have change := world.change action
  generalize (world.step action).1 = next at advances change pooled ⊢
  generalize (world.step action).2 = events at change
  have before (found : world.shelf.pool.get? id = some score) :
      next.store.Backs timely ⟨id, score⟩ :=
    (grounded.pooled id score found).of_advances advances
  cases change with
  | aside idle alike silent =>
      rw [alike.shelf] at pooled
      exact before pooled
  | @records visit guarded =>
      have result := Store.recording world.store visit.chosen visit.viewedAt
      dsimp only at pooled before ⊢
      generalize world.store.recordView visit.chosen visit.viewedAt = answer
        at result pooled before ⊢
      cases result with
      | @recorded stored found =>
          have inServed :
              (world.shelf.pool.upsert visit.chosen visit.viewedAt.score).get? id =
                some score := pooled
          rw [Pool.get?_upsert] at inServed
          by_cases chosen : visit.chosen = id
          · rw [if_pos chosen] at inServed
            cases inServed
            refine ⟨visit.viewedAt, ?_, fun _ => Int64.le_refl _⟩
            exact (Store.lastView?_put ..).trans (if_pos chosen)
          · rw [if_neg chosen] at inServed
            exact before inServed
      | missing absent =>
          obtain ⟨moment, last⟩ := grounded.viewed_chosen guarded
          rw [Store.lastView?, absent] at last
          cases last
      | unreachable =>
          exact before pooled
  | @applies _ _ item free taken =>
      have inApplied : (world.shelf.pool.upsert item.id item.score).get? id =
          some score := pooled
      rw [Pool.get?_upsert] at inApplied
      by_cases same : item.id = id
      · rw [if_pos same] at inApplied
        cases inApplied
        have held : item ∈ world.items := by
          simp [items, taken?, taken]
        rw [← same]
        exact (grounded.waiting item held).of_advances advances
      · rw [if_neg same] at inApplied
        exact before inApplied
  | @installs number found listing free arrived =>
      have inRebuilt : (Shelf.rebuilt listing world.shelf.pool).get? id = some score :=
        pooled
      rw [Shelf.rebuilt, Pool.get?_keepNewer] at inRebuilt
      obtain ⟨own, inListing, rfl⟩ := Option.map_eq_some_iff.1 inRebuilt
      rcases world.shelf.pool.raised_cases ⟨id, own⟩ with same | live
      · obtain ⟨viewed, member, sameItem⟩ :=
          List.mem_map.1 (Pool.mem_of_get?_ofList inListing)
        obtain ⟨present, named⟩ := rebuild?_eq_some arrived
        have pending : world.Pending number listing :=
          ⟨_, present, named, Or.inr rfl⟩
        rw [same, ← sameItem]
        exact (grounded.listed number listing pending viewed member).of_advances advances
      · exact before live
  | _ =>
      exact before pooled

/-- What waits after a step waited before, or has just been submitted. -/
theorem waiting_step {action : Action} {item : Item}
    (member : item ∈ (world.step action).1.items) :
    item ∈ world.items ∨ action = .submit item := by
  rcases world.conveys_step action with ⟨_, lost⟩ | kept
  · rw [lost] at member
    cases member
  · have conveyed : item ∈ world.items ++
        (world.step action).2.filterMap Event.accepted? := by
      rw [kept]
      exact List.mem_append_right _ member
    exact (List.mem_append.1 conveyed).imp_right submitted_of_accepted

theorem grounded_step {action : Action} (grounded : world.Grounded timely)
    (fosters : world.Fosters timely action) :
    (world.step action).1.Grounded timely where
  filed := filed_step world action grounded.filed
  drawn := drawn_step world action grounded.drawn
  pooled _ _ pooled := pooled_step grounded fosters pooled
  waiting := by
    intro item member
    have backed : world.store.Backs timely item :=
      (waiting_step member).elim (grounded.waiting item) (fosters.backed item)
    exact backed.of_advances (advances_step grounded fosters)
  listed := by
    intro number listing pending viewed member
    have backed : world.store.Backs timely viewed.item := by
      rcases pending_step pending with earlier | ⟨_, made⟩
      · exact grounded.listed number listing earlier viewed member
      · exact .of_viewed ((Store.mem_listing_iff grounded.filed made).1 member)
    exact backed.of_advances (advances_step grounded fosters)
  prompt inTime :=
    prompt_step (fosters.orderly inTime)
      (fun _ guarded => grounded.viewed_chosen guarded) (grounded.prompt inTime)

theorem grounded_start (settings : QueueSettings) {store : Store} (filed : store.Filed)
    {clock : Moment} (prompt : timely → (start settings store clock).Prompt) :
    (start settings store clock).Grounded timely where
  filed := filed
  drawn := by
    intro visit guarded
    cases guarded
  pooled := by
    intro id score pooled
    cases pooled
  waiting := by
    intro item member
    cases member
  listed := by
    rintro number listing ⟨rebuild, member, _⟩
    cases member
  prompt := prompt

end World

end StalestFirst
