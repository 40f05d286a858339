import Mathlib
import StalestFirst.Proofs.Service.Creation
import StalestFirst.Proofs.Service.Waiting
import StalestFirst.Proofs.Service.Writes

namespace StalestFirst

/-! ## Increments and answers -/

/-- The increments in a request. Without any nothing is written. -/
def Reactions.increments (reactions : Reactions) : List Tallies :=
  if reactions.tallies.isEmpty then [] else [reactions.tallies]

namespace BoxService

variable {store : Store} {reactions : Reactions}

theorem react_of_addReactions_error {failure : Failure}
    (failed : addReactions store reactions = .error failure) :
    reactions.tallies.isEmpty = false ∧
      (store.react reactions.id reactions.tallies).isOk = false := by
  unfold addReactions at failed
  split at failed
  · cases failed
  · rename_i present
    cases answer : store.react reactions.id reactions.tallies with
    | ok next =>
        rw [answer] at failed
        cases failed
    | error fault =>
        exact ⟨eq_false_of_ne_true present, rfl⟩

theorem react_of_addReactions_ok {next : Store}
    (added : addReactions store reactions = .ok next)
    (present : reactions.tallies.isEmpty = false) :
    (store.react reactions.id reactions.tallies).isOk = true := by
  rw [addReactions, present, if_neg Bool.false_ne_true] at added
  cases answer : store.react reactions.id reactions.tallies with
  | ok next =>
      rfl
  | error fault =>
      rw [answer] at added
      cases added

theorem readReactions_of_offline (offline : store.offline = true) (id : String) :
    readReactions store id = .error (.fault Store.outage) := by
  simp [readReactions, Store.get, Store.find, Store.reach, offline, bind, Except.bind,
    Store.outage]

theorem readReactions_of_found {id : String} {stored : StoredBox}
    (online : store.offline = false) (found : store.boxes.get? id = some stored) :
    readReactions store id = .ok ⟨id, stored.box.reactions⟩ := by
  simp [readReactions, Store.get, Store.find, Store.reach, online, found, bind, Except.bind]

end BoxService

namespace Deployment

variable {deployment : Deployment} {id : String}

/-- What a row of steps adds to the tallies of the box `id`. -/
def given (deployment : Deployment) (id : String) (moves : List Move) : List Tallies :=
  deployment.world.store.given id (deployment.writesOf moves)

theorem given_append (deployment : Deployment) (id : String) (moves others : List Move) :
    deployment.given id (moves ++ others) =
      deployment.given id moves ++ (deployment.run moves).1.given id others := by
  rw [given, writesOf_append, Store.given_append, ← store_run]
  rfl

theorem totals_run {stored : StoredBox}
    (found : deployment.world.store.boxes.get? id = some stored) {moves : List Move}
    (undeleted : .queue (.write (.delete id)) ∉ moves) :
    ∃ final, (deployment.run moves).1.world.store.boxes.get? id = some final ∧
      stored.box.reactions.Totals (deployment.given id moves) final.box.reactions := by
  rw [store_run]
  exact Store.totals_writeAll found (undeleted_writesOf undeleted)

theorem given_single (deployment : Deployment) (id : String) (move : Move) :
    deployment.given id [move] =
      deployment.world.store.given id (deployment.writes move) := by
  rw [given, writesOf, writesOf, List.append_nil]

/-- A step asks the store to add increments to the tallies of the box `id`. -/
inductive Calls (deployment : Deployment) (id : String) (increments : Tallies) :
    Move → Prop
  | request {number : Nat} {asked : Http.Request} (freshId : String) {metadata : Metadata}
      (free : deployment.isTaken number = false)
      (served : Reply.beforehand? asked = none)
      (ordered : BoxOrder.ofRequest asked = ⟨metadata, .ok (.react ⟨id, increments⟩)⟩)
      (present : increments.isEmpty = false) :
      Calls deployment id increments (.arrive number .box asked freshId)
  | direct : Calls deployment id increments (.queue (.write (.react id increments)))

theorem Calls.writes_eq {increments : Tallies} {move : Move}
    (calls : deployment.Calls id increments move) :
    deployment.writes move = [.react id increments] := by
  cases calls with
  | request freshId free served ordered present =>
      simp [writes, free, served, ordered, BoxOrder.writes, present]
  | direct =>
      rfl

theorem calls_of_mem_writes {increments : Tallies} {move : Move}
    (member : .react id increments ∈ deployment.writes move) :
    deployment.Calls id increments move := by
  rcases mem_writes_cases member with ⟨number, asked, freshId, metadata, order, rfl, free,
    served, checked, ordered⟩ | ⟨_, _, recorded⟩ | rfl
  · cases order with
    | create draft =>
        cases List.mem_singleton.1 ordered
    | react reactions =>
        simp only [BoxOrder.writes] at ordered
        split at ordered
        · cases ordered
        · rename_i present
          cases List.mem_singleton.1 ordered
          exact .request freshId free served checked (eq_false_of_ne_true present)
    | view =>
        cases ordered
  · cases recorded
  · exact .direct

/-- A call that the store accepts adds its increments, and nothing else adds any. -/
theorem given_of_calls {increments : Tallies} {move : Move}
    (calls : deployment.Calls id increments move) :
    deployment.given id [move] =
      if (deployment.world.store.react id increments).isOk then [increments] else [] := by
  rw [given_single, calls.writes_eq, Store.given_react]
  simp only [true_and]

theorem given_of_not_calls {move : Move}
    (noCall : ∀ increments, ¬ deployment.Calls id increments move) :
    deployment.given id [move] = [] := by
  rw [given_single]
  refine Store.given_eq_nil fun write member => ?_
  cases write with
  | react other increments =>
      refine beq_false_of_ne fun same => noCall increments ?_
      exact calls_of_mem_writes (same ▸ member)
  | _ =>
      rfl

/-- A request with increments is refused at once and adds nothing, or adds them and waits
for what the tallies are then. -/
theorem arrive_react {number : Nat} {asked : Http.Request} {freshId : String}
    {metadata : Metadata} {reactions : Reactions}
    (free : deployment.isTaken number = false)
    (ordered : BoxOrder.ofRequest asked = ⟨metadata, .ok (.react reactions)⟩) :
    let move : Move := .arrive number .box asked freshId
    (∃ response, (deployment.step move).2 = [.replied number response] ∧
      response.status ≠ 200 ∧
      (deployment.step move).1.world.store = deployment.world.store ∧
      ∀ id, deployment.given id [move] = []) ∨
    ((deployment.step move).2 = [] ∧
      (deployment.step move).1.Awaits
        ⟨number, asked.method, metadata, .readReactions reactions.id⟩ reactions.id ∧
      deployment.given reactions.id [move] = reactions.increments) := by
  intro move
  have begun : deployment.step move = deployment.meet number .box asked freshId :=
    if_neg (ne_true_of_eq_false free)
  simp only [begun, given_single, meet, move, writes, free, Bool.false_or, ordered]
  cases early : Reply.beforehand? asked with
  | some response =>
      refine Or.inl ⟨_, rfl, ?_, rfl, fun id => rfl⟩
      rw [Http.Response.status_forMethod]
      exact status_beforehand? early
  | none =>
      simp only [Option.isSome_none, Bool.false_eq_true, if_false, beginBoxOrder,
        BoxOrder.writes, Reactions.increments]
      cases added : BoxService.addReactions deployment.world.store reactions with
      | error failure =>
          refine Or.inl ⟨_, rfl, ?_, rfl, fun id => ?_⟩
          · rw [Http.Response.status_forMethod]
            intro success
            have refused := BoxService.isSuccess_addReactions added
            change (Refusal.ofFailure failure).status = 200 at success
            rw [success] at refused
            cases refused
          · obtain ⟨present, refused⟩ := BoxService.react_of_addReactions_error added
            rw [present, if_neg Bool.false_ne_true, Store.given_react, refused,
              if_neg fun added => Bool.false_ne_true added.2]
      | ok next =>
          refine Or.inr ⟨rfl, ⟨pending?_await_self, rfl⟩, ?_⟩
          cases none : reactions.tallies.isEmpty with
          | true =>
              rfl
          | false =>
              have accepted := BoxService.react_of_addReactions_ok added none
              rw [if_neg Bool.false_ne_true, if_neg Bool.false_ne_true, Store.given_react,
                if_pos ⟨rfl, accepted⟩]

/-- The services when a request to the box service has arrived and more steps have been
taken. -/
def afterArrival (deployment : Deployment) (number : Nat) (asked : Http.Request)
    (freshId : String) (between : List Move) : Deployment :=
  (deployment.run (.arrive number .box asked freshId :: between)).1

/-- A request to the box service arrives, and its first answer comes with the last of some
more steps. Its sender does not go away before. -/
structure AnsweredLater (deployment : Deployment) (number : Nat) (asked : Http.Request)
    (freshId : String) (between : List Move) (last : Move) (response : Http.Response) :
    Prop where
  free : deployment.isTaken number = false
  stays : .leave number ∉ between
  unanswered (earlier : Http.Response) : .replied number earlier ∉
    (deployment.run (.arrive number .box asked freshId :: between)).2
  answered : .replied number response ∈
    ((deployment.afterArrival number asked freshId between).step last).2

section Answers

variable {number : Nat} {asked : Http.Request} {freshId : String} {between : List Move}
  {last : Move} {response : Http.Response} {metadata : Metadata} {reactions : Reactions}

theorem AnsweredLater.added
    (later : deployment.AnsweredLater number asked freshId between last response)
    (ordered : BoxOrder.ofRequest asked = ⟨metadata, .ok (.react reactions)⟩) :
    (deployment.step (.arrive number .box asked freshId)).1.Awaits
        ⟨number, asked.method, metadata, .readReactions reactions.id⟩ reactions.id ∧
      deployment.given reactions.id [.arrive number .box asked freshId] =
        reactions.increments := by
  rcases arrive_react later.free ordered with ⟨refusal, atOnce, _⟩ | ⟨_, added⟩
  · have replied : .replied number refusal ∈
        (deployment.step (.arrive number .box asked freshId)).2 :=
      atOnce ▸ List.mem_singleton_self _
    exact absurd (List.mem_append_left _ replied) (later.unanswered refusal)
  · exact added

/-- A request that has added its increments is answered with the tallies of the box as
they are when it reads them back, unless it is cut off or the store cannot be reached. -/
theorem AnsweredLater.response_eq {stored : StoredBox}
    (later : deployment.AnsweredLater number asked freshId between last response)
    (ordered : BoxOrder.ofRequest asked = ⟨metadata, .ok (.react reactions)⟩)
    (found : (deployment.afterArrival number asked freshId between).world.store.boxes.get?
      reactions.id = some stored) :
    let final := deployment.afterArrival number asked freshId between
    (last = .readBack number ∧ final.world.store.offline = false ∧
      response = (Reply.ofOutcome metadata
        (.ok ⟨reactions.id, stored.box.reactions⟩ : Except Failure Reactions)).forMethod
          asked.method) ∨
    (last = .readBack number ∧ final.world.store.offline = true ∧ response.status = 500) ∨
    (last = .cutOff number ∧ response.status = 408) := by
  intro final
  have awaits : final.Awaits
      ⟨number, asked.method, metadata, .readReactions reactions.id⟩ reactions.id :=
    (later.added ordered).1.run later.stays fun earlier replied =>
      later.unanswered earlier (List.mem_append_right _ replied)
  have answered : .replied number response ∈ (final.step last).2 := later.answered
  by_cases readsBack : last = .readBack number
  · have read : final.step last = final.answer
        ⟨number, asked.method, metadata, .readReactions reactions.id⟩
        (BoxService.readReactions final.world.store reactions.id) :=
      readsBack ▸ awaits.step_readBack
    rw [read] at answered
    cases List.mem_singleton.1 answered
    cases offline : final.world.store.offline with
    | true =>
        rw [BoxService.readReactions_of_offline offline, Http.Response.status_forMethod]
        exact Or.inr (Or.inl ⟨readsBack, rfl, rfl⟩)
    | false =>
        rw [BoxService.readReactions_of_found offline found]
        exact Or.inl ⟨readsBack, rfl, rfl⟩
  · by_cases cutOff : last = .cutOff number
    · have cut : final.step last = (final.abandon number,
          [.replied number (Reply.cutOff.forMethod asked.method)]) :=
        cutOff ▸ awaits.step_cutOff
      rw [cut] at answered
      cases List.mem_singleton.1 answered
      rw [Http.Response.status_forMethod]
      exact Or.inr (Or.inr ⟨cutOff, rfl⟩)
    · have notLeft : last ≠ .leave number := by
        rintro rfl
        have left : final.step (.leave number) = (final.abandon number, []) :=
          awaits.step_leave
        rw [left] at answered
        exact List.not_mem_nil answered
      exact absurd answered ((awaits.leaves_step readsBack cutOff notLeft).silent response)

theorem AnsweredLater.status_iff {stored : StoredBox}
    (later : deployment.AnsweredLater number asked freshId between last response)
    (ordered : BoxOrder.ofRequest asked = ⟨metadata, .ok (.react reactions)⟩)
    (found : (deployment.afterArrival number asked freshId between).world.store.boxes.get?
      reactions.id = some stored) :
    response.status = 200 ↔ last = .readBack number ∧
      (deployment.afterArrival number asked freshId between).world.store.offline = false := by
  rcases later.response_eq ordered found with ⟨read, online, rfl⟩ | ⟨_, offline, failed⟩ |
    ⟨rfl, failed⟩
  · rw [Http.Response.status_forMethod]
    exact ⟨fun _ => ⟨read, online⟩, fun _ => rfl⟩
  · rw [failed, offline]
    simp
  · rw [failed]
    simp

/-- A request that succeeds shows what was given to the box until then. -/
theorem AnsweredLater.shows {stored : StoredBox} {before : List Move}
    (found : deployment.world.store.boxes.get? reactions.id = some stored)
    (undeleted : .queue (.write (.delete reactions.id)) ∉
      before ++ .arrive number .box asked freshId :: between)
    (later : (deployment.run before).1.AnsweredLater number asked freshId between last
      response)
    (ordered : BoxOrder.ofRequest asked = ⟨metadata, .ok (.react reactions)⟩) :
    let start := (deployment.run before).1
    let arrived := (start.step (.arrive number .box asked freshId)).1
    (response.status = 200 ↔ last = .readBack number ∧
      (start.afterArrival number asked freshId between).world.store.offline = false) ∧
    (response.status = 200 → ∃ tallies,
      response = (Reply.ofOutcome metadata
        (.ok ⟨reactions.id, tallies⟩ : Except Failure Reactions)).forMethod asked.method ∧
      stored.box.reactions.Totals (deployment.given reactions.id before ++
        reactions.increments ++ arrived.given reactions.id between) tallies) := by
  intro start arrived
  obtain ⟨read, readFound, totals⟩ := totals_run found undeleted
  rw [run_append] at readFound
  have statuses := later.status_iff ordered readFound
  refine ⟨statuses, fun success => ⟨read.box.reactions, ?_, ?_⟩⟩
  · obtain ⟨readsBack, online⟩ := statuses.1 success
    rcases later.response_eq ordered readFound with ⟨_, _, shown⟩ | ⟨_, offline, _⟩ |
      ⟨cutOff, _⟩
    · exact shown
    · rw [online] at offline
      cases offline
    · rw [readsBack] at cutOff
      cases cutOff
  · rw [given_append, ← List.singleton_append, given_append, (later.added ordered).2,
      ← List.append_assoc] at totals
    exact totals

end Answers

/-- Take a box that is not deleted in a run of the services, whatever else happens in it.
In the end each emoji was given as often as in the beginning and by all increments that
the store accepted, up to the greatest count, and the emojis are those of the beginning
and of these increments. All else in the store is as it would be without them. Every step
of the run adds the increments that it has the store add, if the store accepts them, and
nothing otherwise. A request with increments that is answered at once has failed and
changed nothing. One that is answered later succeeds when it can read the box back, and
its answer shows what was given up to then, with its own increments. Increments that are
accepted in another order, in another run, come to the same tallies. -/
theorem increments_add_up (deployment : Deployment) (moves : List Move) {id : String}
    {stored : StoredBox} (found : deployment.world.store.boxes.get? id = some stored)
    (undeleted : .queue (.write (.delete id)) ∉ moves) :
    let store := (deployment.run moves).1.world.store
    (∃ final, store.boxes.get? id = some final ∧
      stored.box.reactions.Totals (deployment.given id moves) final.box.reactions) ∧
    (store = deployment.world.store.writeAll (deployment.writesOf moves) ∧
      store.AlikeBut id (deployment.world.store.writeAll
        ((deployment.writesOf moves).filter fun write => !write.reactsTo id))) ∧
    (∀ before move after, moves = before ++ move :: after →
      let start := (deployment.run before).1
      deployment.given id moves = deployment.given id before ++ start.given id [move] ++
        (start.step move).1.given id after ∧
      (∀ increments, start.Calls id increments move → start.given id [move] =
        if (start.world.store.react id increments).isOk then [increments] else []) ∧
      ((∀ increments, ¬ start.Calls id increments move) → start.given id [move] = [])) ∧
    (∀ before number asked freshId after metadata reactions,
      moves = before ++ .arrive number .box asked freshId :: after →
      let start := (deployment.run before).1
      let arrived := start.step (.arrive number .box asked freshId)
      start.isTaken number = false →
      BoxOrder.ofRequest asked = ⟨metadata, .ok (.react reactions)⟩ →
      (∀ response, .replied number response ∈ arrived.2 →
        response.status ≠ 200 ∧ arrived.1.world.store = start.world.store) ∧
      (reactions.id = id → ∀ between last rest response, after = between ++ last :: rest →
        start.AnsweredLater number asked freshId between last response →
        (response.status = 200 ↔ last = .readBack number ∧
          (start.afterArrival number asked freshId between).world.store.offline = false) ∧
        (response.status = 200 → ∃ tallies,
          response = (Reply.ofOutcome metadata
            (.ok ⟨id, tallies⟩ : Except Failure Reactions)).forMethod asked.method ∧
          stored.box.reactions.Totals (deployment.given id before ++
            reactions.increments ++ arrived.1.given id between) tallies))) ∧
    ∀ (other : Deployment) others another,
      other.world.store.boxes.get? id = some another →
      another.box.reactions = stored.box.reactions →
      .queue (.write (.delete id)) ∉ others →
      (other.given id others).Perm (deployment.given id moves) →
      ((other.run others).1.world.store.boxes.get? id).map (·.box.reactions) =
        (store.boxes.get? id).map (·.box.reactions) := by
  intro store
  obtain ⟨final, finalFound, totals⟩ := totals_run found undeleted
  refine ⟨⟨final, finalFound, totals⟩, ⟨store_run deployment moves, ?_⟩, ?_, ?_, ?_⟩
  · rw [show store = _ from store_run deployment moves]
    exact (Store.AlikeBut.refl id deployment.world.store).writeAll _
  · rintro before move after rfl start
    refine ⟨?_, fun increments => given_of_calls, given_of_not_calls⟩
    rw [given_append, ← List.singleton_append, given_append, List.append_assoc]
    rfl
  · rintro before number asked freshId after metadata reactions rfl start arrived free ordered
    refine ⟨fun response replied => ?_, ?_⟩
    · rcases @arrive_react _ number asked freshId _ _ free ordered with
        ⟨refusal, atOnce, failed, kept, _⟩ | ⟨silent, _⟩
      · have only : .replied number response ∈ [Notice.replied number refusal] :=
          atOnce ▸ replied
        cases List.mem_singleton.1 only
        exact ⟨failed, kept⟩
      · have none : .replied number response ∈ ([] : List Notice) := silent ▸ replied
        cases none
    · rintro rfl between last rest response rfl later
      have untilRead : .queue (.write (.delete reactions.id)) ∉
          before ++ .arrive number .box asked freshId :: between := by
        simp only [List.mem_append, List.mem_cons, not_or] at undeleted ⊢
        exact ⟨undeleted.1, undeleted.2.1, undeleted.2.2.1⟩
      exact later.shows found untilRead ordered
  · intro other others another otherFound same otherUndeleted reordered
    obtain ⟨otherFinal, otherFinalFound, otherTotals⟩ := totals_run otherFound otherUndeleted
    rw [same] at otherTotals
    rw [otherFinalFound, finalFound, Option.map_some, Option.map_some,
      (otherTotals.of_perm reordered).unique totals]

/-- A request to add reactions to the box "a", as often as can be counted. -/
def requestToReact : Http.Request where
  method := "POST"
  target :=
    ⟨[Http.ascii '/'], some (Http.asciiBytes "Action=AddBoxEmoji&Version=2021-12-23")⟩
  headers := [("content-type", Http.asciiBytes "application/json")]
  body := Http.asciiBytes ("\x7b\"Id\":\"a\",\"EmojiFeedbacks\":" ++
    "\x7b\"up\":18446744073709551615,\"down\":0\x7d\x7d")

/-- While the request waits, another comes, a box that is not there is given reactions,
and "a" is given some and viewed. -/
def meanwhile : List Move :=
  [.arrive 1 .box requestToReact "",
    .queue (.write (.react "b" (NameMap.ofList [("up", 5)]))),
    .queue (.write (.react "a" (NameMap.ofList [("up", 3), ("odd", 1)]))),
    .queue (.write (.recordView "a" Moment.epoch))]

/-- The reactions in the request. -/
def largest : Tallies := NameMap.ofList [("up", 18446744073709551615), ("down", 0)]

theorem increments_add_up_meanwhile :
    let early : Move := .queue (.write (.react "a" (NameMap.ofList [("up", 7)])))
    let moves := [early] ++ .arrive 0 .box requestToReact "" ::
      (meanwhile ++ .readBack 0 :: [])
    let start := (overOneBox.run [early]).1
    overOneBox.world.store.boxes.get? "a" =
      some ⟨MessageBox.create "a" "" Moment.epoch, [Moment.epoch]⟩ ∧
    .queue (.write (.delete "a")) ∉ moves ∧
    BoxOrder.ofRequest requestToReact =
      ⟨⟨"AddBoxEmoji", "2021-12-23"⟩, .ok (.react ⟨"a", largest⟩)⟩ ∧
    ∃ response, start.AnsweredLater 0 requestToReact "" meanwhile (.readBack 0) response ∧
      ∃ tallies,
        response = (Reply.ofOutcome ⟨"AddBoxEmoji", "2021-12-23"⟩
          (.ok ⟨"a", tallies⟩ : Except Failure Reactions)).forMethod "POST" ∧
        tallies.count "up" = 18446744073709551615 ∧ tallies.contains "down" = true ∧
        tallies.count "odd" = 1 := by
  intro early moves start
  have found : overOneBox.world.store.boxes.get? "a" =
      some ⟨MessageBox.create "a" "" Moment.epoch, [Moment.epoch]⟩ := by
    decide +kernel
  have undeleted : .queue (.write (.delete "a")) ∉ moves := by
    simp [moves, early, meanwhile]
  have ordered : BoxOrder.ofRequest requestToReact =
      ⟨⟨"AddBoxEmoji", "2021-12-23"⟩, .ok (.react ⟨"a", largest⟩)⟩ := by
    cbv
  have free : start.isTaken 0 = false := by
    decide +kernel
  have silent : (start.run (.arrive 0 .box requestToReact "" :: meanwhile)).2.findSome?
      (Notice.responseTo? 0) = none := by
    decide +kernel
  have answered : (((start.afterArrival 0 requestToReact "" meanwhile).step
      (.readBack 0)).2.findSome? (Notice.responseTo? 0)).isSome = true := by
    decide +kernel
  have online : (start.afterArrival 0 requestToReact "" meanwhile).world.store.offline =
      false := by
    decide +kernel
  have given : overOneBox.given "a" [early] ++ Reactions.increments ⟨"a", largest⟩ ++
      (start.step (.arrive 0 .box requestToReact "")).1.given "a" meanwhile =
        [NameMap.ofList [("up", 7)], largest, largest,
          NameMap.ofList [("up", 3), ("odd", 1)]] := by
    decide +kernel
  obtain ⟨response, told⟩ := Option.isSome_iff_exists.1 answered
  obtain ⟨notice, seen, brings⟩ := List.exists_of_findSome?_eq_some told
  rw [Notice.eq_of_responseTo? brings] at seen
  have later : start.AnsweredLater 0 requestToReact "" meanwhile (.readBack 0) response := by
    refine ⟨free, by simp [meanwhile], fun earlier replied => ?_, seen⟩
    have quiet := List.findSome?_eq_none_iff.1 silent _ replied
    simp [Notice.responseTo?] at quiet
  obtain ⟨_, _, _, answers, _⟩ := increments_add_up overOneBox moves found undeleted
  obtain ⟨status, shows⟩ := (answers [early] 0 requestToReact "" _ _ _ rfl free ordered).2
    rfl meanwhile (.readBack 0) [] response rfl later
  obtain ⟨tallies, shown, totals⟩ := shows (status.2 ⟨rfl, online⟩)
  rw [given] at totals
  refine ⟨found, undeleted, ordered, response, later, tallies, shown, ?_, ?_, ?_⟩
  · rw [totals.counted]
    decide +kernel
  · rw [totals.named]
    exact Or.inr ⟨largest, by simp, by decide +kernel⟩
  · rw [totals.counted]
    decide +kernel

end Deployment

end StalestFirst
