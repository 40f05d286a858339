import Mathlib
import StalestFirst.Proofs.Store

namespace StalestFirst

/-! ## Sums of tallies

Counts are added up to the greatest count and no further. What is lost there would be
lost in any order, so only the sum of all increments matters. -/

theorem toNat_saturatingSum (left right : UInt64) :
    (saturatingSum left right).toNat =
      min (left.toNat + right.toNat) 18446744073709551615 := by
  have small : min (left.toNat + right.toNat) 18446744073709551615 < 2 ^ 64 := by omega
  rw [saturatingSum, UInt64.toNat_ofNat_of_lt' small]

namespace Tallies

/-- How often an emoji was given, which is never for one that is not named. -/
def count (tallies : Tallies) (emoji : String) : Nat :=
  ((tallies.get? emoji).getD 0).toNat

theorem count_le (tallies : Tallies) (emoji : String) :
    tallies.count emoji ≤ 18446744073709551615 :=
  Nat.le_of_lt_succ (UInt64.toNat_lt _)

theorem get?_foldl_give {entries : List (String × UInt64)}
    (ascending : entries.Pairwise NameMap.Before) (tallies : Tallies) (emoji : String) :
    (entries.foldl (fun tallies entry => tallies.give entry.1 entry.2) tallies).get? emoji =
      (NameMap.valueOf emoji entries).elim (tallies.get? emoji) fun count =>
        some (saturatingSum ((tallies.get? emoji).getD 0) count) := by
  induction entries generalizing tallies with
  | nil =>
      rfl
  | cons entry rest inductionHypothesis =>
      obtain ⟨before, restAscending⟩ := List.pairwise_cons.1 ascending
      rw [List.foldl_cons, inductionHypothesis restAscending, NameMap.valueOf, give,
        NameMap.get?_insert]
      by_cases same : entry.1 = emoji
      · have onlyOnce : NameMap.valueOf emoji rest = none := by
          refine Option.eq_none_iff_forall_not_mem.2 fun count again => ?_
          have later := before _ ((NameMap.valueOf_eq_some_iff restAscending).1 again)
          rw [NameMap.Before, same] at later
          exact String.lt_irrefl _ later
        rw [onlyOnce, if_pos same, if_pos same, same]
        rfl
      · rw [if_neg same, if_neg same]

theorem get?_add (tallies increments : Tallies) (emoji : String) :
    (tallies.add increments).get? emoji =
      (increments.get? emoji).elim (tallies.get? emoji) fun count =>
        some (saturatingSum ((tallies.get? emoji).getD 0) count) :=
  get?_foldl_give increments.ascending tallies emoji

theorem count_add (tallies increments : Tallies) (emoji : String) :
    (tallies.add increments).count emoji =
      min (tallies.count emoji + increments.count emoji) 18446744073709551615 := by
  have bound := tallies.count_le emoji
  unfold count at bound ⊢
  rw [get?_add]
  cases increments.get? emoji with
  | none =>
      have none : ((none : Option UInt64).getD 0).toNat = 0 := rfl
      rw [Option.elim_none, none]
      omega
  | some more =>
      exact toNat_saturatingSum _ more

theorem contains_add (tallies increments : Tallies) (emoji : String) :
    (tallies.add increments).contains emoji =
      (tallies.contains emoji || increments.contains emoji) := by
  unfold NameMap.contains
  rw [get?_add]
  cases increments.get? emoji with
  | none =>
      exact (Bool.or_false _).symm
  | some more =>
      exact (Bool.or_true _).symm

/-- The tallies are those at the start with a row of increments: the names are those of
all of them, and each count is the sum of all, or the greatest count. -/
structure Totals (start : Tallies) (given : List Tallies) (tallies : Tallies) : Prop where
  named (emoji : String) : tallies.contains emoji = true ↔
    start.contains emoji = true ∨ ∃ increments ∈ given, increments.contains emoji = true
  counted (emoji : String) : tallies.count emoji =
    min (start.count emoji + (given.map fun increments => increments.count emoji).sum)
      18446744073709551615

theorem totals_foldl (start : Tallies) (given : List Tallies) :
    start.Totals given (given.foldl add start) := by
  induction given generalizing start with
  | nil =>
      refine ⟨fun emoji => by simp, fun emoji => ?_⟩
      have bound := start.count_le emoji
      rw [List.foldl_nil, List.map_nil, List.sum_nil]
      omega
  | cons first rest inductionHypothesis =>
      have later := inductionHypothesis (start.add first)
      refine ⟨fun emoji => ?_, fun emoji => ?_⟩
      · rw [List.foldl_cons, later.named, contains_add]
        simp [or_assoc]
      · rw [List.foldl_cons, later.counted, count_add, List.map_cons, List.sum_cons]
        omega

/-- Tallies are known by their names and counts. -/
theorem Totals.unique {start first second : Tallies} {given : List Tallies}
    (isFirst : start.Totals given first) (isSecond : start.Totals given second) :
    first = second := by
  refine NameMap.ext_get? fun emoji => ?_
  have sameName : first.contains emoji = second.contains emoji :=
    Bool.eq_iff_iff.2 ((isFirst.named emoji).trans (isSecond.named emoji).symm)
  have sameCount := (isFirst.counted emoji).trans (isSecond.counted emoji).symm
  unfold NameMap.contains at sameName
  unfold count at sameCount
  cases inFirst : first.get? emoji with
  | none =>
      cases inSecond : second.get? emoji with
      | none =>
          rfl
      | some other =>
          simp [inFirst, inSecond] at sameName
  | some one =>
      cases inSecond : second.get? emoji with
      | none =>
          simp [inFirst, inSecond] at sameName
      | some other =>
          rw [inFirst, inSecond] at sameCount
          exact congrArg some (UInt64.toNat_inj.1 sameCount)

/-- The order of the increments does not matter. -/
theorem Totals.of_perm {start tallies : Tallies} {given other : List Tallies}
    (totals : start.Totals given tallies) (reordered : given.Perm other) :
    start.Totals other tallies where
  named emoji := by
    rw [totals.named]
    simp only [reordered.mem_iff]
  counted emoji := by
    rw [totals.counted, (reordered.map _).sum_eq]

end Tallies

/-! ## Writing to one box

What a change does to a box depends on nothing but that box, and on whether the store
can be reached. -/

/-- The entry of a box with increments added to its tallies. -/
def StoredBox.withIncrements (stored : StoredBox) (increments : Tallies) : StoredBox :=
  { stored with
    box := { stored.box with reactions := stored.box.reactions.add increments } }

/-- What a change makes of the entry of the box `id`, if there is one. -/
def StoreWrite.atBox (write : StoreWrite) (offline : Bool) (id : String)
    (entry : Option StoredBox) : Option StoredBox :=
  match write with
  | .setOffline _ => entry
  | .insert box =>
      if box.id = id ∧ offline = false then entry.or (some ⟨box, box.lastViewed.toList⟩)
      else entry
  | .delete other => if other = id ∧ offline = false then none else entry
  | .recordView other now =>
      if other = id ∧ offline = false then entry.map fun stored => stored.withView now
      else entry
  | .react other increments =>
      if other = id ∧ offline = false then
        entry.map fun stored => stored.withIncrements increments
      else entry

/-- Whether the store can be reached after a change. -/
def StoreWrite.leavesOffline (write : StoreWrite) (offline : Bool) : Bool :=
  match write with
  | .setOffline next => next
  | _ => offline

/-- Whether a change is one to the tallies of the box `id`. -/
def StoreWrite.reactsTo (id : String) : StoreWrite → Bool
  | .react other _ => other == id
  | _ => false

/-- The entry of a box without its tallies. -/
def StoredBox.untallied (stored : StoredBox) : StoredBox :=
  { stored with box := { stored.box with reactions := NameMap.empty } }

namespace Store

variable {store : Store} {id : String} {stored : StoredBox}

theorem react_of_offline (offline : store.offline = true) (id : String)
    (increments : Tallies) : store.react id increments = .error outage := by
  simp [react, find, reach, offline, bind, Except.bind, outage]

theorem react_of_absent (online : store.offline = false)
    (absent : store.boxes.get? id = none) (increments : Tallies) :
    store.react id increments = .error (.boxNotFound id) := by
  simp [react, find, reach, online, absent, bind, Except.bind]

theorem react_of_found (online : store.offline = false)
    (found : store.boxes.get? id = some stored) (increments : Tallies) :
    store.react id increments = .ok (store.put id (stored.withIncrements increments)) := by
  simp [react, find, reach, online, found, bind, Except.bind, StoredBox.withIncrements]

theorem offline_apply (store : Store) (write : StoreWrite) :
    (write.apply store).offline = write.leavesOffline store.offline := by
  have change := store.written write
  generalize applied : write.apply store = next at change ⊢
  cases change with
  | refused =>
      cases write with
      | setOffline offline =>
          exact (congrArg Store.offline applied).symm
      | _ =>
          rfl
  | _ =>
      rfl

/-- An entry is changed where it is, if it is anywhere. -/
theorem get?_changed {result : Except Fault Store} {other : String}
    (change : StoredBox → StoredBox)
    (absent : store.boxes.get? other = none → result.toOption = none)
    (found : ∀ stored, store.boxes.get? other = some stored →
      result.toOption = some (store.put other (change stored))) (id : String) :
    (result.toOption.getD store).boxes.get? id =
      if other = id then (store.boxes.get? id).map change else store.boxes.get? id := by
  cases entry : store.boxes.get? other with
  | none =>
      rw [absent entry, Option.getD_none]
      by_cases same : other = id
      · rw [if_pos same, ← same, entry, Option.map_none]
      · rw [if_neg same]
  | some stored =>
      rw [found stored entry, Option.getD_some, put, NameMap.get?_insert]
      by_cases same : other = id
      · rw [if_pos same, if_pos same, ← same, entry, Option.map_some]
      · rw [if_neg same, if_neg same]

/-- A change does to each box what it does to that box alone. -/
theorem get?_apply (store : Store) (write : StoreWrite) (id : String) :
    (write.apply store).boxes.get? id =
      write.atBox store.offline id (store.boxes.get? id) := by
  cases write with
  | setOffline offline =>
      rfl
  | insert box =>
      cases offline : store.offline with
      | true =>
          have refused : store.insert box = .error outage := by
            simp [insert, reach, offline, bind, Except.bind, outage]
          rw [StoreWrite.apply, refused, StoreWrite.atBox, if_neg (by simp)]
          rfl
      | false =>
          cases found : store.boxes.get? box.id with
          | none =>
              have inserted := insert_eq_ok_iff.2 ⟨offline, found, rfl⟩
              simp only [StoreWrite.apply, inserted, Except.toOption, Option.getD_some, put,
                NameMap.get?_insert, StoreWrite.atBox, and_true]
              by_cases same : box.id = id
              · rw [if_pos same, if_pos same, ← same, found, Option.none_or]
              · rw [if_neg same, if_neg same]
          | some stored =>
              have refused : store.insert box =
                  .error (.store ("duplicate box id: " ++ box.id)) := by
                simp [insert, reach, offline, NameMap.contains, found, bind, Except.bind]
              simp only [StoreWrite.apply, refused, Except.toOption, Option.getD_none,
                StoreWrite.atBox, and_true]
              by_cases same : box.id = id
              · rw [if_pos same, ← same, found, Option.some_or]
              · rw [if_neg same]
  | delete other =>
      cases offline : store.offline with
      | true =>
          simp [StoreWrite.apply, delete, offline, StoreWrite.atBox]
      | false =>
          cases found : store.boxes.get? other with
          | none =>
              simp only [StoreWrite.apply, delete, NameMap.contains, found,
                Option.isSome_none, Bool.and_false, StoreWrite.atBox, and_true]
              by_cases same : other = id
              · rw [if_pos same, ← same]
                exact found
              · rw [if_neg same]
                rfl
          | some stored =>
              simp [StoreWrite.apply, delete, NameMap.contains, found, offline,
                StoreWrite.atBox]
  | recordView other now =>
      cases offline : store.offline with
      | true =>
          simp [StoreWrite.apply, recordView_of_offline offline, Except.toOption,
            StoreWrite.atBox]
      | false =>
          simp only [StoreWrite.atBox, and_true]
          refine get?_changed (fun stored => stored.withView now) (fun absent => ?_)
            (fun stored found => ?_) id
          · rw [recordView_of_absent offline absent]
            rfl
          · rw [recordView_of_found offline found]
            rfl
  | react other increments =>
      cases offline : store.offline with
      | true =>
          simp [StoreWrite.apply, react_of_offline offline, Except.toOption,
            StoreWrite.atBox]
      | false =>
          simp only [StoreWrite.atBox, and_true]
          refine get?_changed (fun stored => stored.withIncrements increments)
            (fun absent => ?_) (fun stored found => ?_) id
          · rw [react_of_absent offline absent]
            rfl
          · rw [react_of_found offline found]
            rfl

/-! ### All but the tallies -/

/-- Two stores differ in nothing but the tallies of the box `id`. -/
structure AlikeBut (id : String) (left right : Store) : Prop where
  offline : left.offline = right.offline
  others (other : String) : other ≠ id → left.boxes.get? other = right.boxes.get? other
  rest : (left.boxes.get? id).map StoredBox.untallied =
    (right.boxes.get? id).map StoredBox.untallied

theorem AlikeBut.refl (id : String) (store : Store) : store.AlikeBut id store :=
  ⟨rfl, fun _ _ => rfl, rfl⟩

theorem map_untallied_map {left right : Option StoredBox}
    (alike : left.map StoredBox.untallied = right.map StoredBox.untallied)
    {change : StoredBox → StoredBox}
    (blind : ∀ stored, (change stored).untallied = (change stored.untallied).untallied) :
    (left.map change).map StoredBox.untallied =
      (right.map change).map StoredBox.untallied := by
  have throughout : StoredBox.untallied ∘ change =
      (StoredBox.untallied ∘ change) ∘ StoredBox.untallied := funext blind
  rw [Option.map_map, Option.map_map, throughout, ← Option.map_map, alike, Option.map_map]

/-- What a change makes of an entry depends on the tallies only for the tallies. -/
theorem map_untallied_atBox {left right : Option StoredBox}
    (alike : left.map StoredBox.untallied = right.map StoredBox.untallied)
    (write : StoreWrite) (offline : Bool) (id : String) :
    (write.atBox offline id left).map StoredBox.untallied =
      (write.atBox offline id right).map StoredBox.untallied := by
  cases write with
  | setOffline _ =>
      exact alike
  | insert box =>
      simp only [StoreWrite.atBox]
      split
      · rw [Option.map_or, Option.map_or, alike]
      · exact alike
  | delete other =>
      simp only [StoreWrite.atBox]
      split
      · rfl
      · exact alike
  | recordView other now =>
      simp only [StoreWrite.atBox]
      split
      · exact map_untallied_map alike fun _ => rfl
      · exact alike
  | react other increments =>
      simp only [StoreWrite.atBox]
      split
      · exact map_untallied_map alike fun _ => rfl
      · exact alike

theorem AlikeBut.apply {left right : Store} (alike : left.AlikeBut id right)
    (write : StoreWrite) : (write.apply left).AlikeBut id (write.apply right) where
  offline := by
    rw [offline_apply, offline_apply, alike.offline]
  others other different := by
    rw [get?_apply, get?_apply, alike.offline, alike.others other different]
  rest := by
    rw [get?_apply, get?_apply, alike.offline]
    exact map_untallied_atBox alike.rest write right.offline id

/-- Increments to a box change nothing but its tallies. -/
theorem AlikeBut.react {left right : Store} (alike : left.AlikeBut id right)
    (increments : Tallies) :
    ((StoreWrite.react id increments).apply left).AlikeBut id right where
  offline := (offline_apply left _).trans alike.offline
  others other different := by
    rw [get?_apply, StoreWrite.atBox, if_neg fun changed => different changed.1.symm,
      alike.others other different]
  rest := by
    rw [get?_apply, StoreWrite.atBox, ← alike.rest]
    split
    · rw [Option.map_map]
      rfl
    · rfl

/-- The store after a row of changes. -/
def writeAll (store : Store) (writes : List StoreWrite) : Store :=
  writes.foldl (fun store write => write.apply store) store

theorem writeAll_append (store : Store) (writes others : List StoreWrite) :
    store.writeAll (writes ++ others) = (store.writeAll writes).writeAll others :=
  List.foldl_append

/-- Without the increments to a box, a row of changes comes to the same but for the
tallies of that box. -/
theorem AlikeBut.writeAll {left right : Store} (alike : left.AlikeBut id right)
    (writes : List StoreWrite) :
    (left.writeAll writes).AlikeBut id
      (right.writeAll (writes.filter fun write => !write.reactsTo id)) := by
  induction writes generalizing left right with
  | nil =>
      exact alike
  | cons write rest inductionHypothesis =>
      cases reacts : write.reactsTo id with
      | false =>
          rw [List.filter_cons_of_pos (by rw [reacts]; rfl)]
          exact inductionHypothesis (alike.apply write)
      | true =>
          rw [List.filter_cons_of_neg (by rw [reacts]; nofun)]
          cases write with
          | react other increments =>
              obtain rfl : other = id := eq_of_beq reacts
              exact inductionHypothesis (alike.react increments)
          | _ =>
              cases reacts

/-! ### The tallies -/

/-- The increments that a change adds to the tallies of the box `id`. One that fails adds
none. -/
def increments? (store : Store) (id : String) : StoreWrite → Option Tallies
  | .react other increments =>
      if other = id ∧ (store.react other increments).isOk = true then some increments
      else none
  | _ => none

/-- The increments that a row of changes adds to the tallies of the box `id`. -/
def given (store : Store) (id : String) : List StoreWrite → List Tallies
  | [] => []
  | write :: rest =>
      (store.increments? id write).toList ++ (write.apply store).given id rest

theorem given_react (store : Store) (id other : String) (increments : Tallies) :
    store.given id [.react other increments] =
      if other = id ∧ (store.react other increments).isOk = true then [increments]
      else [] := by
  rw [given, given, List.append_nil, increments?]
  split
  · rfl
  · rfl

theorem given_eq_nil {writes : List StoreWrite}
    (others : ∀ write ∈ writes, write.reactsTo id = false) : store.given id writes = [] := by
  induction writes generalizing store with
  | nil =>
      rfl
  | cons write rest inductionHypothesis =>
      rw [List.forall_mem_cons] at others
      have none : store.increments? id write = none := by
        cases write with
        | react other increments =>
            exact if_neg fun added => ne_of_beq_false others.1 added.1
        | _ =>
            rfl
      rw [given, none, inductionHypothesis others.2]
      rfl

theorem given_append (store : Store) (id : String) (writes others : List StoreWrite) :
    store.given id (writes ++ others) =
      store.given id writes ++ (store.writeAll writes).given id others := by
  induction writes generalizing store with
  | nil =>
      rfl
  | cons write rest inductionHypothesis =>
      rw [List.cons_append, given, given, inductionHypothesis, List.append_assoc]
      rfl

/-- A change that does not delete a box adds to its tallies what it gives. -/
theorem reactions_apply (found : store.boxes.get? id = some stored) {write : StoreWrite}
    (undeleted : write ≠ .delete id) :
    ∃ next, (write.apply store).boxes.get? id = some next ∧
      next.box.reactions =
        (store.increments? id write).toList.foldl Tallies.add stored.box.reactions := by
  rw [get?_apply, found]
  cases write with
  | setOffline offline =>
      exact ⟨stored, rfl, rfl⟩
  | insert box =>
      refine ⟨stored, ?_, rfl⟩
      rw [StoreWrite.atBox, Option.some_or, ite_self]
  | delete other =>
      have another : other ≠ id := fun same => undeleted (same ▸ rfl)
      exact ⟨stored, if_neg fun deleted => another deleted.1, rfl⟩
  | recordView other now =>
      rw [StoreWrite.atBox]
      split
      · exact ⟨stored.withView now, rfl, rfl⟩
      · exact ⟨stored, rfl, rfl⟩
  | react other increments =>
      rw [StoreWrite.atBox, increments?]
      by_cases same : other = id
      · subst same
        cases offline : store.offline with
        | true =>
            have refused : ¬(store.react other increments).isOk = true := by
              rw [react_of_offline offline]
              nofun
            rw [if_neg (by simp), if_neg fun added => refused added.2]
            exact ⟨stored, rfl, rfl⟩
        | false =>
            rw [react_of_found offline found, if_pos ⟨rfl, rfl⟩, if_pos ⟨rfl, rfl⟩]
            exact ⟨stored.withIncrements increments, rfl, rfl⟩
      · rw [if_neg fun changed => same changed.1, if_neg fun changed => same changed.1]
        exact ⟨stored, rfl, rfl⟩

/-- After a row of changes the tallies of a box are the totals of what it was given. -/
theorem totals_writeAll (found : store.boxes.get? id = some stored)
    {writes : List StoreWrite} (undeleted : .delete id ∉ writes) :
    ∃ final, (store.writeAll writes).boxes.get? id = some final ∧
      stored.box.reactions.Totals (store.given id writes) final.box.reactions := by
  have summed : ∃ final, (store.writeAll writes).boxes.get? id = some final ∧
      final.box.reactions =
        (store.given id writes).foldl Tallies.add stored.box.reactions := by
    induction writes generalizing store stored with
    | nil =>
        exact ⟨stored, found, rfl⟩
    | cons write rest inductionHypothesis =>
        rw [List.mem_cons, not_or] at undeleted
        obtain ⟨next, nextFound, added⟩ := reactions_apply found (Ne.symm undeleted.1)
        obtain ⟨final, finalFound, total⟩ := inductionHypothesis nextFound undeleted.2
        refine ⟨final, finalFound, ?_⟩
        rw [given, List.foldl_append, ← added]
        exact total
  obtain ⟨final, finalFound, total⟩ := summed
  exact ⟨final, finalFound, total ▸ Tallies.totals_foldl _ _⟩

end Store

end StalestFirst
