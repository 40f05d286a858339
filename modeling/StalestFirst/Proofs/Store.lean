import Mathlib
import StalestFirst.Proofs.NameMap
import StalestFirst.Queue.World

namespace StalestFirst

/-- The entry of a box after one more view. -/
def StoredBox.withView (stored : StoredBox) (now : Moment) : StoredBox :=
  ⟨{ stored.box with lastViewed := some now }, stored.views ++ [now]⟩

/-- The change neither deletes a box nor records a view. -/
def StoreWrite.Gentle : StoreWrite → Prop
  | .delete _ | .recordView _ _ => False
  | _ => True

namespace Store

/-! ## What the operations do

Each operation fails during an outage, and has one more way to fail. -/

/-- The fault that every operation meets during an outage. -/
def outage : Fault := .storeUnavailable "memory store is offline"

theorem recordView_of_offline {store : Store} (offline : store.offline = true)
    (id : String) (now : Moment) :
    store.recordView id now = .error outage := by
  simp [recordView, find, reach, offline, bind, Except.bind, outage]

theorem recordView_of_absent {store : Store} {id : String}
    (online : store.offline = false) (absent : store.boxes.get? id = none)
    (now : Moment) :
    store.recordView id now = .error (.boxNotFound id) := by
  simp [recordView, find, reach, online, absent, bind, Except.bind]

theorem recordView_of_found {store : Store} {id : String} {stored : StoredBox}
    (online : store.offline = false) (found : store.boxes.get? id = some stored)
    (now : Moment) :
    store.recordView id now = .ok (store.put id (stored.withView now)) := by
  simp [recordView, find, reach, online, found, bind, Except.bind,
    StoredBox.withView]

/-- What a request to record a view can bring. -/
inductive Recording (store : Store) (id : String) (now : Moment) :
    Except Fault Store → Prop where
  | recorded {stored : StoredBox} (found : store.boxes.get? id = some stored) :
      Recording store id now (.ok (store.put id (stored.withView now)))
  | missing (absent : store.boxes.get? id = none) :
      Recording store id now (.error (.boxNotFound id))
  | unreachable : Recording store id now (.error outage)

theorem recording (store : Store) (id : String) (now : Moment) :
    Recording store id now (store.recordView id now) := by
  cases offline : store.offline with
  | true =>
      rw [recordView_of_offline offline]
      exact .unreachable
  | false =>
      cases found : store.boxes.get? id with
      | none =>
          rw [recordView_of_absent offline found]
          exact .missing found
      | some stored =>
          rw [recordView_of_found offline found]
          exact .recorded found

/-- A box is inserted unless there is an outage or its identifier is taken. -/
theorem insert_eq_ok_iff {store grown : Store} {box : MessageBox} :
    store.insert box = .ok grown ↔
      store.offline = false ∧ store.boxes.get? box.id = none ∧
        store.put box.id ⟨box, box.lastViewed.toList⟩ = grown := by
  cases offline : store.offline with
  | true =>
      simp [Store.insert, reach, offline, bind, Except.bind]
  | false =>
      cases found : store.boxes.get? box.id with
      | none =>
          simp [Store.insert, reach, offline, NameMap.contains, found, bind, Except.bind]
      | some stored =>
          simp [Store.insert, reach, offline, NameMap.contains, found, bind, Except.bind]

/-! ## Which boxes were viewed last, and when -/

/-- When the box `id` was viewed last, whether the store can be reached or not. -/
def lastView? (store : Store) (id : String) : Option Moment :=
  (store.boxes.get? id).bind fun stored => stored.box.lastViewed

@[simp]
theorem lastView?_put (store : Store) (id other : String) (stored : StoredBox) :
    (store.put id stored).lastView? other =
      if id = other then stored.box.lastViewed else store.lastView? other := by
  unfold lastView? put
  rw [NameMap.get?_insert]
  split <;> rfl

theorem exists_stored_of_lastView? {store : Store} {id : String} {moment : Moment}
    (viewed : store.lastView? id = some moment) :
    ∃ stored, store.boxes.get? id = some stored ∧
      stored.box.lastViewed = some moment :=
  Option.bind_eq_some_iff.1 viewed

/-! ## Boxes are filed under their identifiers -/

/-- Every box is filed under its own identifier. -/
def Filed (store : Store) : Prop :=
  ∀ id stored, store.boxes.get? id = some stored → stored.box.id = id

theorem filed_empty : empty.Filed := by
  intro id stored found
  cases found

theorem Filed.put {store : Store} (filed : store.Filed)
    {id : String} {stored : StoredBox} (sameId : stored.box.id = id) :
    (store.put id stored).Filed := by
  intro other found lookup
  rw [Store.put, NameMap.get?_insert] at lookup
  split at lookup
  · rename_i asked
    cases lookup
    rw [sameId, asked]
  · exact filed other found lookup

/-- The boxes that have been viewed, whether the store can be reached or not. -/
def viewedBoxes (store : Store) : List ViewedBox :=
  store.boxes.entries.filterMap fun entry => StoredBox.viewed? entry.2

theorem listing_eq_ok_iff {store : Store} {listing : List ViewedBox} :
    store.listing = .ok listing ↔
      store.offline = false ∧ store.viewedBoxes = listing := by
  cases offline : store.offline with
  | true =>
      simp [Store.listing, reach, offline, bind, Except.bind]
  | false =>
      simp [Store.listing, reach, offline, bind, Except.bind, viewedBoxes]

theorem id_of_viewed? {store : Store} (filed : store.Filed)
    {entry : String × StoredBox} (member : entry ∈ store.boxes.entries)
    {viewed : ViewedBox} (shown : StoredBox.viewed? entry.2 = some viewed) :
    viewed.id = entry.1 := by
  obtain ⟨moment, _, rfl⟩ := Option.map_eq_some_iff.1 shown
  exact filed entry.1 entry.2 (NameMap.get?_eq_some_iff.2 member)

theorem mem_viewedBoxes_iff {store : Store} (filed : store.Filed) {viewed : ViewedBox} :
    viewed ∈ store.viewedBoxes ↔ store.lastView? viewed.id = some viewed.lastViewed := by
  rw [viewedBoxes, List.mem_filterMap]
  constructor
  · rintro ⟨⟨id, stored⟩, member, shown⟩
    obtain ⟨moment, last, rfl⟩ := Option.map_eq_some_iff.1 shown
    have found := NameMap.get?_eq_some_iff.2 member
    have sameId := filed id stored found
    rw [lastView?, sameId, found]
    exact last
  · intro last
    obtain ⟨stored, found, lastViewed⟩ := exists_stored_of_lastView? last
    refine ⟨(viewed.id, stored), NameMap.get?_eq_some_iff.1 found, ?_⟩
    have sameId := filed viewed.id stored found
    simp [StoredBox.viewed?, lastViewed, sameId]

/-- The listing of a store with its boxes filed says of each viewed box when that
was. -/
theorem mem_listing_iff {store : Store} (filed : store.Filed)
    {listing : List ViewedBox} (listed : store.listing = .ok listing)
    {viewed : ViewedBox} :
    viewed ∈ listing ↔ store.lastView? viewed.id = some viewed.lastViewed := by
  rw [← (listing_eq_ok_iff.1 listed).2]
  exact mem_viewedBoxes_iff filed

/-- A listing names every box that has been viewed. -/
theorem exists_listed_of_viewed {store : Store} (filed : store.Filed) {id : String}
    (viewed : (store.lastView? id).isSome = true) {listing : List ViewedBox}
    (listed : store.listing = .ok listing) : ∃ viewed ∈ listing, viewed.id = id := by
  obtain ⟨moment, lastViewed⟩ := Option.isSome_iff_exists.1 viewed
  exact ⟨⟨id, moment⟩, (mem_listing_iff filed listed).2 lastViewed, rfl⟩

/-- A listing names no box that the store does not know. -/
theorem not_listed_of_absent {store : Store} (filed : store.Filed) {id : String}
    (absent : store.boxes.get? id = none) {listing : List ViewedBox}
    (listed : store.listing = .ok listing) : ∀ viewed ∈ listing, viewed.id ≠ id := by
  rintro viewed member rfl
  have lastViewed := (mem_listing_iff filed listed).1 member
  obtain ⟨stored, found, _⟩ := exists_stored_of_lastView? lastViewed
  rw [absent] at found
  cases found

/-- No box is listed twice. -/
theorem viewedBoxes_nodup {store : Store} (filed : store.Filed) :
    (store.viewedBoxes.map ViewedBox.id).Nodup := by
  rw [List.Nodup, List.pairwise_map, viewedBoxes, List.pairwise_filterMap]
  refine store.boxes.ascending.imp_of_mem ?_
  intro first second firstMember secondMember before left leftShown right rightShown same
  rw [id_of_viewed? filed firstMember leftShown,
    id_of_viewed? filed secondMember rightShown] at same
  unfold NameMap.Before at before
  exact String.lt_irrefl _ (same ▸ before)

/-! ## Changes from outside -/

/-- What a change from outside can bring. One that fails leaves the store as it is. -/
inductive Written (store : Store) : StoreWrite → Store → Prop where
  | refused (write : StoreWrite) : Written store write store
  | inserted {box : MessageBox} (online : store.offline = false)
      (absent : store.boxes.get? box.id = none) :
      Written store (.insert box) (store.put box.id ⟨box, box.lastViewed.toList⟩)
  | deleted (id : String) :
      Written store (.delete id) { store with boxes := store.boxes.erase id }
  | viewed {id : String} {now : Moment} {stored : StoredBox}
      (found : store.boxes.get? id = some stored) :
      Written store (.recordView id now) (store.put id (stored.withView now))
  | reacted {id : String} {increments : Tallies} {stored : StoredBox}
      (found : store.boxes.get? id = some stored) :
      Written store (.react id increments)
        (store.put id { stored with
          box := { stored.box with
            reactions := stored.box.reactions.add increments } })
  | switched (offline : Bool) :
      Written store (.setOffline offline) (store.setOffline offline)

theorem written (store : Store) (write : StoreWrite) :
    Written store write (write.apply store) := by
  cases write with
  | insert box =>
      simp only [StoreWrite.apply]
      cases answer : store.insert box with
      | error fault =>
          exact .refused _
      | ok grown =>
          obtain ⟨online, absent, rfl⟩ := insert_eq_ok_iff.1 answer
          exact .inserted online absent
  | delete id =>
      simp only [StoreWrite.apply, delete]
      split
      · exact .deleted id
      · exact .refused _
  | recordView id now =>
      simp only [StoreWrite.apply]
      have result := recording store id now
      generalize store.recordView id now = answer at result ⊢
      cases result with
      | recorded found =>
          exact .viewed found
      | missing absent =>
          exact .refused _
      | unreachable =>
          exact .refused _
  | react id increments =>
      cases offline : store.offline with
      | true =>
          have refused : store.react id increments = .error outage := by
            simp [react, find, reach, offline, bind, Except.bind, outage]
          simp only [StoreWrite.apply, refused]
          exact .refused _
      | false =>
          cases found : store.boxes.get? id with
          | none =>
              have refused : store.react id increments =
                  .error (.boxNotFound id) := by
                simp [react, find, reach, offline, found, bind, Except.bind]
              simp only [StoreWrite.apply, refused]
              exact .refused _
          | some stored =>
              have accepted : Written store (.react id increments) _ :=
                .reacted found
              simpa [StoreWrite.apply, react, find, reach, offline, found, bind,
                Except.bind, Except.toOption] using accepted
  | setOffline offline =>
      exact .switched offline

/-- A gentle change brings no view, unless it inserts a box with one. -/
theorem lastView?_of_gentle (store : Store) {write : StoreWrite} (gentle : write.Gentle)
    (id : String) :
    (write.apply store).lastView? id = store.lastView? id ∨
      ∃ box, write = .insert box ∧ (store.insert box).isOk = true ∧
        store.lastView? id = none ∧
        (write.apply store).lastView? id = box.lastViewed := by
  have change := written store write
  generalize write.apply store = later at change ⊢
  cases change with
  | refused =>
      exact Or.inl rfl
  | @inserted box online absent =>
      rw [lastView?_put]
      by_cases asked : box.id = id
      · have inserted := insert_eq_ok_iff.2 ⟨online, absent, rfl⟩
        refine Or.inr ⟨box, rfl, by rw [inserted]; rfl, ?_, if_pos asked⟩
        rw [lastView?, ← asked, absent]
        rfl
      · exact Or.inl (if_neg asked)
  | deleted gone =>
      exact gentle.elim
  | viewed found =>
      exact gentle.elim
  | @reacted reacting _ stored found =>
      rw [lastView?_put]
      by_cases asked : reacting = id
      · rw [if_pos asked, ← asked, lastView?, found]
        exact Or.inl rfl
      · exact Or.inl (if_neg asked)
  | switched offline =>
      exact Or.inl rfl

theorem Filed.write {store : Store} (filed : store.Filed) (write : StoreWrite) :
    (write.apply store).Filed := by
  have change := written store write
  generalize write.apply store = next at change ⊢
  cases change with
  | refused =>
      exact filed
  | inserted _ _ =>
      exact filed.put rfl
  | deleted id =>
      intro other stored lookup
      simp only [NameMap.get?_erase] at lookup
      split at lookup
      · cases lookup
      · exact filed other stored lookup
  | @viewed id _ stored found =>
      have sameId : stored.box.id = id := filed id stored found
      exact filed.put sameId
  | @reacted id _ stored found =>
      have sameId : stored.box.id = id := filed id stored found
      exact filed.put sameId
  | switched offline =>
      exact filed

/-- The store that a row of changes makes out of an empty one. -/
def ofWrites (writes : List StoreWrite) : Store :=
  writes.foldl (fun store write => write.apply store) empty

theorem filed_ofWrites (writes : List StoreWrite) : (ofWrites writes).Filed := by
  induction writes using List.reverseRecOn with
  | nil =>
      exact filed_empty
  | append_singleton earlier write inductionHypothesis =>
      unfold ofWrites at inductionHypothesis ⊢
      rw [List.foldl_append]
      exact inductionHypothesis.write write

end Store

end StalestFirst
