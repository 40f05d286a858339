import Mathlib
import StalestFirst.Proofs.Store
import StalestFirst.Store.Request

namespace StalestFirst

/-! ## Records

A record is what there is to know of a box apart from its identifier, under which it is
filed, and its last view, which its views end with. -/

/-- A box without its identifier, with all its views in place of the last one. -/
structure Record where
  createdAt : Option Moment
  body : String
  reactions : Tallies
  views : List Moment

/-- The box that is filed under `id`. -/
def Record.box (record : Record) (id : String) : MessageBox :=
  ⟨id, record.createdAt, record.body, record.reactions, record.views.getLast?⟩

/-- The box as the store keeps it. -/
def Record.stored (record : Record) (id : String) : StoredBox :=
  ⟨record.box id, record.views⟩

/-- The record of a new box. -/
def Record.ofBox (box : MessageBox) : Record :=
  ⟨box.createdAt, box.body, box.reactions, box.lastViewed.toList⟩

theorem Record.stored_ofBox (box : MessageBox) :
    (ofBox box).stored box.id = ⟨box, box.lastViewed.toList⟩ := by
  obtain ⟨id, createdAt, body, reactions, lastViewed⟩ := box
  cases lastViewed with
  | none =>
      rfl
  | some moment =>
      rfl

/-- Records by identifier. -/
abbrev Archive := String → Option Record

namespace Archive

/-- The archive after a request. -/
def change (archive : Archive) : StoreRequest → Archive
  | .insert box =>
      if archive box.id = none then Function.update archive box.id (some (.ofBox box))
      else archive
  | .recordView id now =>
      Function.update archive id
        ((archive id).map fun record => { record with views := record.views ++ [now] })
  | .react id increments =>
      Function.update archive id
        ((archive id).map fun record =>
          { record with reactions := record.reactions.add increments })
  | .delete id => Function.update archive id none
  | _ => archive

/-- What is told of the archive in answer to a request. A listing may come in any
order. -/
def Tells (archive : Archive) : StoreRequest → StoreAnswer → Prop
  | .insert box, answer =>
      answer = .done (if archive box.id = none then .ok ()
        else .error (.store ("duplicate box id: " ++ box.id)))
  | .recordView id _, answer | .react id _, answer =>
      answer = .done (if archive id = none then .error (.boxNotFound id) else .ok ())
  | .get id, answer =>
      answer = .box ((archive id).elim (.error (.boxNotFound id)) fun record =>
        .ok (record.box id))
  | .listing, answer =>
      ∃ listing, answer = .listing (.ok listing) ∧ (listing.map ViewedBox.id).Nodup ∧
        ∀ viewed, viewed ∈ listing ↔ ∃ record, archive viewed.id = some record ∧
          record.views.getLast? = some viewed.lastViewed
  | .viewsOf id, answer => answer = .views ((archive id).map Record.views)
  | .delete id, answer => answer = .deleted (archive id).isSome
  | .size, answer => answer = .size {id | archive id ≠ none}.ncard
  | .isEmpty, answer =>
      ∃ empty, answer = .isEmpty empty ∧ (empty = true ↔ ∀ id, archive id = none)
  | .setOffline _, answer => answer = .switched

end Archive

namespace Archive

/-- How the views of a box may change: by the view that is recorded, or with the box. -/
inductive Extends (id : String) :
    StoreRequest → Option (List Moment) → Option (List Moment) → Prop where
  | same {request : StoreRequest} (views : Option (List Moment)) :
      Extends id request views views
  | viewed {now : Moment} (views : List Moment) :
      Extends id (.recordView id now) (some views) (some (views ++ [now]))
  | deleted (views : Option (List Moment)) : Extends id (.delete id) views none
  | inserted {box : MessageBox} (named : box.id = id) :
      Extends id (.insert box) none (some box.lastViewed.toList)

theorem extends_change (archive : Archive) (request : StoreRequest) (id : String) :
    Extends id request ((archive id).map Record.views)
      ((archive.change request id).map Record.views) := by
  cases request with
  | insert box =>
      rw [change]
      by_cases free : archive box.id = none
      · rw [if_pos free, Function.update_apply]
        by_cases named : id = box.id
        · rw [if_pos named, named, free]
          exact .inserted rfl
        · rw [if_neg named]
          exact .same _
      · rw [if_neg free]
        exact .same _
  | recordView viewed now =>
      rw [change, Function.update_apply]
      by_cases named : id = viewed
      · rw [if_pos named, named]
        cases archive viewed with
        | none =>
            exact .same none
        | some record =>
            exact .viewed record.views
      · rw [if_neg named]
        exact .same _
  | react reacted increments =>
      rw [change, Function.update_apply]
      by_cases named : id = reacted
      · rw [if_pos named, named, Option.map_map]
        exact .same _
      · rw [if_neg named]
        exact .same _
  | delete deleted =>
      rw [change, Function.update_apply]
      by_cases named : id = deleted
      · rw [if_pos named, named]
        exact .deleted _
      · rw [if_neg named]
        exact .same _
  | _ =>
      exact .same _

end Archive

/-! ## Requests during an outage -/

/-- What is told during an outage. -/
def StoreRequest.outage : StoreRequest → StoreAnswer
  | .insert _ | .recordView _ _ | .react _ _ => .done (.error Store.outage)
  | .get _ => .box (.error Store.outage)
  | .listing => .listing (.error Store.outage)
  | .viewsOf _ => .views none
  | .delete _ => .deleted false
  | .size => .size 0
  | .isEmpty => .isEmpty true
  | .setOffline _ => .switched

/-- Whether a request begins or ends an outage. -/
def StoreRequest.switches : StoreRequest → Bool
  | .setOffline _ => true
  | _ => false

/-- The change that a request asks for. -/
def StoreRequest.write? : StoreRequest → Option StoreWrite
  | .insert box => some (.insert box)
  | .recordView id now => some (.recordView id now)
  | .react id increments => some (.react id increments)
  | .delete id => some (.delete id)
  | .setOffline offline => some (.setOffline offline)
  | _ => none

/-- A row of requests without those that are made during an outage. -/
def StoreRequest.heard (offline : Bool) : List StoreRequest → List StoreRequest
  | [] => []
  | .setOffline next :: rest => .setOffline next :: heard next rest
  | request :: rest =>
      if offline then heard offline rest else request :: heard offline rest

/-- The answers to a row of requests without those that were given during an outage. -/
def StoreAnswer.heard (offline : Bool) :
    List StoreRequest → List StoreAnswer → List StoreAnswer
  | .setOffline next :: rest, told :: later => told :: heard next rest later
  | _ :: rest, told :: later =>
      if offline then heard offline rest later else told :: heard offline rest later
  | _, _ => []

/-- The archive that a row of requests leaves, with nothing done during an outage. -/
def Archive.ofRequests (requests : List StoreRequest) : Archive :=
  (StoreRequest.heard false requests).foldl Archive.change fun _ => none

/-- The answer tells of a fault. -/
def StoreAnswer.Failed : StoreAnswer → Prop
  | .done (.error _) | .box (.error _) | .listing (.error _) => True
  | _ => False

namespace Store

variable {store : Store} {archive : Archive}

/-- The store has exactly the boxes of the archive. -/
def Keeps (store : Store) (archive : Archive) : Prop :=
  ∀ id, store.boxes.get? id = (archive id).map fun record => record.stored id

theorem Keeps.absent (keeps : store.Keeps archive) {id : String} (absent : archive id = none) :
    store.boxes.get? id = none := by
  rw [keeps, absent, Option.map_none]

theorem Keeps.found (keeps : store.Keeps archive) {id : String} {record : Record}
    (found : archive id = some record) : store.boxes.get? id = some (record.stored id) := by
  rw [keeps, found, Option.map_some]

theorem Keeps.put (keeps : store.Keeps archive) (id : String) (record : Record) :
    (store.put id (record.stored id)).Keeps (Function.update archive id (some record)) := by
  intro asked
  rw [Store.put, NameMap.get?_insert, Function.update_apply]
  by_cases same : id = asked
  · rw [if_pos same, if_pos same.symm, same, Option.map_some]
  · rw [if_neg same, if_neg (Ne.symm same), keeps]

theorem Keeps.filed (keeps : store.Keeps archive) : store.Filed := by
  intro id stored found
  rw [keeps] at found
  obtain ⟨record, _, rfl⟩ := Option.map_eq_some_iff.1 found
  rfl

theorem Keeps.lastView?_eq (keeps : store.Keeps archive) (id : String) :
    store.lastView? id = (archive id).bind fun record => record.views.getLast? := by
  rw [lastView?, keeps]
  cases archive id with
  | none =>
      rfl
  | some record =>
      rfl

theorem Keeps.views_eq (keeps : store.Keeps archive) (id : String) :
    (store.boxes.get? id).map StoredBox.views = (archive id).map Record.views := by
  rw [keeps, Option.map_map]
  rfl

/-- The names under which boxes are filed are those of the records. -/
theorem Keeps.ncard_eq (keeps : store.Keeps archive) :
    {id | archive id ≠ none}.ncard = store.boxes.size := by
  have sameNames : {id | archive id ≠ none} = (store.boxes.names.toFinset : Set String) := by
    ext id
    rw [List.coe_toFinset, Set.mem_ofPred_eq, Set.mem_ofPred_eq, NameMap.mem_names_iff,
      keeps, Option.ne_none_iff_exists']
    simp only [Option.map_eq_some_iff]
    constructor
    · rintro ⟨record, found⟩
      exact ⟨_, record, found, rfl⟩
    · rintro ⟨stored, record, found, _⟩
      exact ⟨record, found⟩
  rw [sameNames, Set.ncard_coe_finset, List.toFinset_card_of_nodup (NameMap.names_nodup _),
    NameMap.names, List.length_map, NameMap.size]

theorem keeps_empty : empty.Keeps fun _ => none :=
  fun _ => rfl

/-! ### One request -/

section

variable (keeps : store.Keeps archive) (online : store.offline = false)

include keeps online

theorem keeps_insert (box : MessageBox) :
    (store.answer (.insert box)).1.Keeps (archive.change (.insert box)) ∧
      archive.Tells (.insert box) (store.answer (.insert box)).2 := by
  rw [answer, Archive.change, Archive.Tells]
  cases found : archive box.id with
  | none =>
      have accepted := insert_eq_ok_iff.2 ⟨online, keeps.absent found, rfl⟩
      rw [accepted, if_pos rfl, if_pos rfl, settle, ← Record.stored_ofBox]
      exact ⟨keeps.put box.id (.ofBox box), rfl⟩
  | some record =>
      have taken : store.insert box = .error (.store ("duplicate box id: " ++ box.id)) := by
        simp [Store.insert, reach, online, NameMap.contains, keeps.found found, bind,
          Except.bind]
      rw [taken, if_neg (by simp), if_neg (by simp), settle]
      exact ⟨keeps, rfl⟩

theorem keeps_recordView (id : String) (now : Moment) :
    (store.answer (.recordView id now)).1.Keeps (archive.change (.recordView id now)) ∧
      archive.Tells (.recordView id now) (store.answer (.recordView id now)).2 := by
  rw [answer, Archive.change, Archive.Tells]
  cases found : archive id with
  | none =>
      rw [recordView_of_absent online (keeps.absent found), settle, Option.map_none,
        Function.update_eq_self_iff.2 found.symm, if_pos rfl]
      exact ⟨keeps, rfl⟩
  | some record =>
      have viewed : (record.stored id).withView now =
          ({ record with views := record.views ++ [now] } : Record).stored id := by
        simp [StoredBox.withView, Record.stored, Record.box]
      rw [recordView_of_found online (keeps.found found), settle, viewed, if_neg (by simp)]
      exact ⟨keeps.put id _, rfl⟩

theorem keeps_react (id : String) (increments : Tallies) :
    (store.answer (.react id increments)).1.Keeps (archive.change (.react id increments)) ∧
      archive.Tells (.react id increments) (store.answer (.react id increments)).2 := by
  rw [answer, Archive.change, Archive.Tells]
  cases found : archive id with
  | none =>
      have missing : store.react id increments = .error (.boxNotFound id) := by
        simp [react, find, reach, online, keeps.absent found, bind, Except.bind]
      rw [missing, settle, Option.map_none, Function.update_eq_self_iff.2 found.symm,
        if_pos rfl]
      exact ⟨keeps, rfl⟩
  | some record =>
      have reacted : store.react id increments = .ok (store.put id
          (({ record with reactions := record.reactions.add increments } : Record).stored
            id)) := by
        simp [react, find, reach, online, keeps.found found, bind, Except.bind,
          Record.stored, Record.box]
      rw [reacted, settle, if_neg (by simp)]
      exact ⟨keeps.put id _, rfl⟩

theorem tells_get (id : String) :
    archive.Tells (.get id) (store.answer (.get id)).2 := by
  rw [answer, Archive.Tells]
  cases found : archive id with
  | none =>
      simp [Store.get, find, reach, online, keeps.absent found, bind, Except.bind]
  | some record =>
      simp [Store.get, find, reach, online, keeps.found found, bind, Except.bind,
        Record.stored]

/-- Each box with views is listed once, at its last view. -/
theorem tells_listing : archive.Tells .listing (store.answer .listing).2 := by
  have listed : store.listing = .ok store.viewedBoxes :=
    listing_eq_ok_iff.2 ⟨online, rfl⟩
  rw [answer, Archive.Tells, listed]
  refine ⟨store.viewedBoxes, rfl, viewedBoxes_nodup keeps.filed, ?_⟩
  intro viewed
  rw [mem_viewedBoxes_iff keeps.filed, keeps.lastView?_eq, Option.bind_eq_some_iff]

theorem keeps_delete (id : String) :
    (store.answer (.delete id)).1.Keeps (archive.change (.delete id)) ∧
      archive.Tells (.delete id) (store.answer (.delete id)).2 := by
  rw [answer, Archive.change, Archive.Tells, delete, online, Bool.not_false,
    Bool.true_and]
  cases found : archive id with
  | none =>
      have absent : store.boxes.contains id = false := by
        rw [NameMap.contains, keeps.absent found, Option.isSome_none]
      rw [absent, Function.update_eq_self_iff.2 found.symm]
      exact ⟨keeps, rfl⟩
  | some record =>
      have present : store.boxes.contains id = true := by
        rw [NameMap.contains, keeps.found found, Option.isSome_some]
      rw [present]
      refine ⟨?_, rfl⟩
      intro asked
      simp only [if_true, NameMap.get?_erase, Function.update_apply]
      by_cases same : id = asked
      · rw [if_pos same, if_pos same.symm, Option.map_none]
      · rw [if_neg same, if_neg (Ne.symm same), keeps]

/-- While the store can be reached it does and tells what the archive says. -/
theorem keeps_answer (request : StoreRequest) :
    (store.answer request).1.Keeps (archive.change request) ∧
      archive.Tells request (store.answer request).2 := by
  have reached : store.reach = .ok store.boxes := by
    simp [reach, online]
  cases request with
  | insert box =>
      exact keeps_insert keeps online box
  | recordView id now =>
      exact keeps_recordView keeps online id now
  | react id increments =>
      exact keeps_react keeps online id increments
  | get id =>
      exact ⟨keeps, tells_get keeps online id⟩
  | listing =>
      exact ⟨keeps, tells_listing keeps online⟩
  | viewsOf id =>
      refine ⟨keeps, ?_⟩
      simp only [answer, Archive.Tells, viewsOf?, reached, Except.toOption,
        Option.bind_some, keeps id, Option.map_map]
      rfl
  | delete id =>
      exact keeps_delete keeps online id
  | size =>
      refine ⟨keeps, ?_⟩
      simp [answer, Archive.Tells, size, reached, Except.toOption, keeps.ncard_eq]
  | isEmpty =>
      refine ⟨keeps, store.isEmpty, rfl, ?_⟩
      have sameEmpty : store.isEmpty = store.boxes.isEmpty := by
        simp only [isEmpty, size, reached, Except.toOption, Option.map_some,
          Option.getD_some, NameMap.size, NameMap.isEmpty]
        cases store.boxes.entries with
        | nil =>
            rfl
        | cons entry rest =>
            rfl
      rw [sameEmpty, NameMap.isEmpty_iff]
      simp only [keeps _, Option.map_eq_none_iff]
  | setOffline offline =>
      exact ⟨keeps, rfl⟩

end

/-- During an outage nothing is done and nothing is told. -/
theorem answer_of_offline (offline : store.offline = true) {request : StoreRequest}
    (noSwitch : request.switches = false) :
    store.answer request = (store, request.outage) := by
  have unreached : store.reach = .error outage := by
    simp [reach, offline, outage]
  cases request with
  | setOffline switched =>
      cases noSwitch
  | delete id =>
      simp [answer, delete, offline, StoreRequest.outage]
  | _ =>
      simp [answer, settle, insert, recordView, react, get, find, listing, viewsOf?, size,
        isEmpty, unreached, bind, Except.bind, Except.toOption, StoreRequest.outage]

/-- A request changes the store as the change that it asks for does. -/
theorem fst_answer (store : Store) (request : StoreRequest) :
    (store.answer request).1 = request.write?.elim store fun write => write.apply store := by
  have settled (result : Except Fault Store) :
      (store.settle result).1 = result.toOption.getD store := by
    cases result with
    | ok next =>
        rfl
    | error fault =>
        rfl
  cases request with
  | insert box =>
      exact settled _
  | recordView id now =>
      exact settled _
  | react id increments =>
      exact settled _
  | _ =>
      rfl

theorem outage_answer (offline : store.offline = true) (request : StoreRequest) :
    (store.answer request).2 = request.outage ∧
      (store.answer request).1.boxes = store.boxes := by
  cases noSwitch : request.switches with
  | true =>
      cases request with
      | setOffline switched =>
          exact ⟨rfl, rfl⟩
      | _ =>
          cases noSwitch
  | false =>
      rw [answer_of_offline offline noSwitch]
      exact ⟨rfl, rfl⟩

theorem Keeps.extends_answer (keeps : store.Keeps archive) (request : StoreRequest)
    (id : String) :
    Archive.Extends id request ((store.boxes.get? id).map StoredBox.views)
      (((store.answer request).1.boxes.get? id).map StoredBox.views) := by
  cases offline : store.offline with
  | true =>
      rw [(outage_answer offline request).2]
      exact .same _
  | false =>
      rw [keeps.views_eq, (keeps_answer keeps offline request).1.views_eq]
      exact archive.extends_change request id

theorem offline_answer (store : Store) {request : StoreRequest}
    (noSwitch : request.switches = false) :
    (store.answer request).1.offline = store.offline := by
  rw [fst_answer]
  cases asked : request.write? with
  | none =>
      rfl
  | some write =>
      have change := store.written write
      rw [Option.elim_some]
      generalize write.apply store = next at change ⊢
      cases change with
      | switched offline =>
          cases request with
          | setOffline switched =>
              cases noSwitch
          | _ =>
              cases asked
      | _ =>
          rfl

theorem answer_of_failed {request : StoreRequest}
    (failed : (store.answer request).2.Failed) : (store.answer request).1 = store := by
  have settled {result : Except Fault Store} (failed : (store.settle result).2.Failed) :
      (store.settle result).1 = store := by
    cases result with
    | ok next =>
        cases failed
    | error fault =>
        rfl
  cases request with
  | insert box =>
      exact settled failed
  | recordView id now =>
      exact settled failed
  | react id increments =>
      exact settled failed
  | delete id =>
      cases failed
  | setOffline offline =>
      cases failed
  | _ =>
      rfl

/-! ### A row of requests -/

theorem heard_cons (offline : Bool) {request : StoreRequest}
    (noSwitch : request.switches = false) (rest : List StoreRequest) :
    StoreRequest.heard offline (request :: rest) =
      if offline then StoreRequest.heard offline rest
      else request :: StoreRequest.heard offline rest := by
  cases request with
  | setOffline switched =>
      cases noSwitch
  | _ =>
      rfl

theorem heard_answers_cons (offline : Bool) {request : StoreRequest}
    (noSwitch : request.switches = false) (rest : List StoreRequest) (told : StoreAnswer)
    (later : List StoreAnswer) :
    StoreAnswer.heard offline (request :: rest) (told :: later) =
      if offline then StoreAnswer.heard offline rest later
      else told :: StoreAnswer.heard offline rest later := by
  cases request with
  | setOffline switched =>
      cases noSwitch
  | _ =>
      rfl

theorem answerAll_cons (store : Store) (request : StoreRequest) (rest : List StoreRequest) :
    store.answerAll (request :: rest) =
      (((store.answer request).1.answerAll rest).1,
        (store.answer request).2 :: ((store.answer request).1.answerAll rest).2) :=
  rfl

/-- Without the requests that are made during an outage, the store comes to the same state
and answers the others alike. -/
theorem answerAll_heard (store : Store) (requests : List StoreRequest) :
    store.answerAll (StoreRequest.heard store.offline requests) =
      ((store.answerAll requests).1,
        StoreAnswer.heard store.offline requests (store.answerAll requests).2) := by
  induction requests generalizing store with
  | nil =>
      rfl
  | cons request rest inductionHypothesis =>
      have later := inductionHypothesis (store.answer request).1
      rw [answerAll_cons store request rest]
      cases noSwitch : request.switches with
      | true =>
          cases request with
          | setOffline switched =>
              rw [StoreRequest.heard, answerAll_cons]
              exact congrArg (fun told => (told.1, StoreAnswer.switched :: told.2)) later
          | _ =>
              cases noSwitch
      | false =>
          rw [offline_answer store noSwitch] at later
          rw [heard_cons store.offline noSwitch, heard_answers_cons store.offline noSwitch]
          cases offline : store.offline with
          | true =>
              rw [answer_of_offline offline noSwitch, offline] at later
              rw [if_pos rfl, if_pos rfl, answer_of_offline offline noSwitch]
              exact later
          | false =>
              rw [offline] at later
              rw [if_neg Bool.false_ne_true, if_neg Bool.false_ne_true, answerAll_cons,
                later]

/-- What the store has is in the archive of the requests that were heard. -/
theorem keeps_answerAll (keeps : store.Keeps archive) (requests : List StoreRequest) :
    (store.answerAll requests).1.Keeps
      ((StoreRequest.heard store.offline requests).foldl Archive.change archive) := by
  induction requests generalizing store archive with
  | nil =>
      exact keeps
  | cons request rest inductionHypothesis =>
      cases noSwitch : request.switches with
      | true =>
          cases request with
          | setOffline switched =>
              have switchedKeeps : (store.setOffline switched).Keeps archive := keeps
              exact inductionHypothesis switchedKeeps
          | _ =>
              cases noSwitch
      | false =>
          rw [heard_cons store.offline noSwitch]
          cases offline : store.offline with
          | true =>
              have later := inductionHypothesis keeps
              rw [offline] at later
              rw [if_pos rfl, answerAll, answer_of_offline offline noSwitch]
              exact later
          | false =>
              have later := inductionHypothesis (keeps_answer keeps offline request).1
              rw [offline_answer store noSwitch, offline] at later
              exact later

/-- The store is a map from identifiers to boxes with their views, in which each last view
is the last of the views. What is asked during an outage fails and leaves no trace. -/
theorem store_keeps_records (requests : List StoreRequest) :
    let store := (Store.empty.answerAll requests).1
    let archive := Archive.ofRequests requests
    store.Keeps archive ∧
    (∀ id stored, store.boxes.get? id = some stored → stored.box.id = id ∧
      stored.box.lastViewed = stored.views.getLast? ∧
      (stored.box.lastViewed = none ↔ stored.views = [])) ∧
    (∀ request,
      (store.offline = false → (store.answer request).1.Keeps (archive.change request) ∧
        archive.Tells request (store.answer request).2) ∧
      (store.offline = true → (store.answer request).2 = request.outage ∧
        (store.answer request).1.boxes = store.boxes) ∧
      ((store.answer request).2.Failed → (store.answer request).1 = store) ∧
      ∀ id, Archive.Extends id request ((store.boxes.get? id).map StoredBox.views)
        (((store.answer request).1.boxes.get? id).map StoredBox.views)) ∧
    Store.empty.answerAll (StoreRequest.heard false requests) =
      (store, StoreAnswer.heard false requests (Store.empty.answerAll requests).2) := by
  intro store archive
  have keeps : store.Keeps archive := keeps_answerAll keeps_empty requests
  refine ⟨keeps, ?_, fun request => ⟨?_, ?_, answer_of_failed, ?_⟩,
    answerAll_heard Store.empty requests⟩
  · intro id stored found
    rw [keeps id] at found
    obtain ⟨record, _, rfl⟩ := Option.map_eq_some_iff.1 found
    exact ⟨rfl, rfl, List.getLast?_eq_none_iff⟩
  · exact fun online => keeps_answer keeps online request
  · exact fun offline => outage_answer offline request
  · exact fun id => keeps.extends_answer request id

end Store

end StalestFirst
