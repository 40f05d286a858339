import Mathlib
import StalestFirst.Proofs.Queue.Grounded
import StalestFirst.Service.Deployment

namespace StalestFirst

/-! ## Which requests find nothing

The box service finds nothing only where the store does not know a box. -/

theorem Refusal.status_ofFault_ne {fault : Fault}
    (present : ∀ id, fault ≠ .boxNotFound id) : (Refusal.ofFault fault).status ≠ 404 := by
  cases fault with
  | boxNotFound id =>
      exact absurd rfl (present id)
  | _ =>
      exact Nat.ne_of_beq_eq_false rfl

@[simp]
theorem Http.Response.status_forMethod (response : Http.Response) (method : String) :
    (response.forMethod method).status = response.status := by
  unfold forMethod
  split
  · rfl
  · rfl

namespace Store

/-- A box that was viewed is read back, unless there is an outage. -/
theorem get_ne_notFound {store : Store} {id : String} {moment : Moment}
    (last : store.lastView? id = some moment) {fault : Fault}
    (failed : store.get id = .error fault) (other : String) :
    fault ≠ .boxNotFound other := by
  obtain ⟨stored, found, _⟩ := exists_stored_of_lastView? last
  cases offline : store.offline with
  | true =>
      have outage : store.get id = .error Store.outage := by
        simp [get, find, reach, offline, bind, Except.bind, Store.outage]
      rw [outage] at failed
      cases failed
      intro same
      cases same
  | false =>
      simp [get, find, reach, offline, found, bind, Except.bind] at failed

end Store

/-- A box that is made is stored. -/
theorem BoxService.create_eq_ok {store grown : Store} {draft : BoxDraft} {id : String}
    {now : Moment} {box : MessageBox}
    (created : BoxService.create store draft id now = .ok (grown, box)) :
    box = MessageBox.create id draft.body now ∧ store.insert box = .ok grown := by
  unfold BoxService.create at created
  dsimp only at created
  split at created
  · rename_i next inserted
    cases created
    exact ⟨rfl, inserted⟩
  · cases created

/-- Reactions that are added are added in the store, unless there are none. -/
theorem BoxService.addReactions_eq_ok {store grown : Store} {reactions : Reactions}
    (added : BoxService.addReactions store reactions = .ok grown) :
    store = grown ∨
      (StoreWrite.react reactions.id reactions.tallies).apply store = grown := by
  unfold BoxService.addReactions at added
  split at added
  · exact Or.inl (Except.ok.inj added)
  · refine Or.inr ?_
    cases answer : store.react reactions.id reactions.tallies with
    | error fault =>
        rw [answer] at added
        cases added
    | ok later =>
        rw [answer] at added
        cases added
        simp only [StoreWrite.apply, answer]
        rfl

/-- The request is one to view a box. -/
structure Service.AsksToView (service : Service) (request : Http.Request) : Prop where
  box : service = .box
  served : Reply.beforehand? request = none
  view : (BoxOrder.ofRequest request).outcome = .ok .view

/-- No item comes from outside, and no box is deleted. -/
def Move.Standalone : Move → Prop
  | .arrive _ .queue request _ =>
      ∀ item, (QueueOrder.ofRequest request).outcome ≠ .ok (.accept item)
  | .queue (.submit _) | .queue (.write (.delete _)) => False
  | _ => True

/-- The requests of the viewers find something, and so does every retrieval. -/
def Notice.FindsBoxes (viewer : Nat → Prop) : Notice → Prop
  | .replied number response => viewer number → response.status ≠ 404
  | .queue event => ∀ call id, event ≠ .answered call (.error (.boxNotFound id))

/-- The response that a notice brings to the request with a number. -/
def Notice.responseTo? (number : Nat) : Notice → Option Http.Response
  | .replied other response => if other = number then some response else none
  | .queue _ => none

namespace Deployment

/-- A step of the queue is an orderly one. -/
def Orderly (deployment : Deployment) : Move → Prop
  | .queue action => deployment.world.Orderly action
  | _ => True

instance (deployment : Deployment) : (move : Move) → Decidable (deployment.Orderly move)
  | .queue action => inferInstanceAs (Decidable (deployment.world.Orderly action))
  | .arrive _ _ _ _ | .readBack _ | .cutOff _ | .leave _ | .announce _ =>
      inferInstanceAs (Decidable True)

/-- All steps of a run are orderly. -/
def OrderlyRun (deployment : Deployment) : List Move → Prop
  | [] => True
  | move :: rest => deployment.Orderly move ∧ (deployment.step move).1.OrderlyRun rest

def decidableOrderlyRun (deployment : Deployment) :
    (moves : List Move) → Decidable (deployment.OrderlyRun moves)
  | [] => inferInstanceAs (Decidable True)
  | move :: rest =>
      have := decidableOrderlyRun (deployment.step move).1 rest
      inferInstanceAs (Decidable (deployment.Orderly move ∧ _))

instance (deployment : Deployment) (moves : List Move) :
    Decidable (deployment.OrderlyRun moves) :=
  decidableOrderlyRun deployment moves

variable {timely : Prop} {viewer : Nat → Prop} {deployment : Deployment}

/-- The queue is grounded, the boxes that it has yet to be told of are stored, and so
are those that a request will read. The requests of the viewers view boxes. -/
structure Grounded (timely : Prop) (viewer : Nat → Prop) (deployment : Deployment) :
    Prop where
  world : deployment.world.Grounded timely
  announced : ∀ item ∈ deployment.announcements,
    deployment.world.store.Backs timely item
  reading : ∀ request ∈ deployment.pending, ∀ id, request.errand = .readBox id →
    ∃ moment, deployment.world.store.lastView? id = some moment
  viewing : ∀ request ∈ deployment.pending, viewer request.number →
    request.errand = .drawToView ∨ ∃ id, request.errand = .readBox id

/-- What a step leads to is grounded, and everybody has found a box. -/
structure Keeps (timely : Prop) (viewer : Nat → Prop)
    (result : Deployment × List Notice) : Prop where
  grounded : result.1.Grounded timely viewer
  finds : ∀ notice ∈ result.2, notice.FindsBoxes viewer

theorem Keeps.silent (grounded : deployment.Grounded timely viewer) :
    Keeps timely viewer (deployment, []) :=
  ⟨grounded, fun _ member => absurd member List.not_mem_nil⟩

theorem Keeps.andThen {first second : Deployment × List Notice}
    (kept : Keeps timely viewer first)
    (later : first.1.Grounded timely viewer → Keeps timely viewer second) :
    Keeps timely viewer (second.1, first.2 ++ second.2) := by
  have last := later kept.grounded
  refine ⟨last.grounded, fun notice member => ?_⟩
  rcases List.mem_append.1 member with early | late
  · exact kept.finds notice early
  · exact last.finds notice late

/-! ### Parts of a step -/

theorem Grounded.without (grounded : deployment.Grounded timely viewer)
    (number : Nat) : (deployment.without number).Grounded timely viewer where
  world := grounded.world
  announced := grounded.announced
  reading request member := grounded.reading request (List.mem_filter.1 member).1
  viewing request member := grounded.viewing request (List.mem_filter.1 member).1

theorem Grounded.await (grounded : deployment.Grounded timely viewer)
    (request : Pending) {errand : Errand}
    (reading : ∀ id, errand = .readBox id →
      ∃ moment, deployment.world.store.lastView? id = some moment)
    (viewing : viewer request.number →
      errand = .drawToView ∨ ∃ id, errand = .readBox id) :
    (deployment.await request errand).Grounded timely viewer where
  world := grounded.world
  announced := grounded.announced
  reading other member := by
    rcases List.mem_append.1 member with before | fresh
    · exact (grounded.without request.number).reading other before
    · rw [List.mem_singleton.1 fresh]
      exact reading
  viewing other member := by
    rcases List.mem_append.1 member with before | fresh
    · exact (grounded.without request.number).viewing other before
    · rw [List.mem_singleton.1 fresh]
      exact viewing

/-- The world may go on as long as the store advances. -/
theorem Grounded.of_advances (grounded : deployment.Grounded timely viewer)
    {next : World} (nextGrounded : next.Grounded timely)
    (advances : next.store.Advances timely deployment.world.store) :
    ({ deployment with world := next } : Deployment).Grounded timely viewer where
  world := nextGrounded
  announced item member := (grounded.announced item member).of_advances advances
  reading request member id reads := by
    obtain ⟨moment, last⟩ := grounded.reading request member id reads
    obtain ⟨later, laterLast, _⟩ := advances ⟨id, moment⟩ last
    exact ⟨later, laterLast⟩
  viewing := grounded.viewing

theorem Grounded.step_world (grounded : deployment.Grounded timely viewer)
    (action : Action) (fosters : deployment.world.Fosters timely action) :
    ({ deployment with world := (deployment.world.step action).1 } :
      Deployment).Grounded timely viewer :=
  grounded.of_advances (World.grounded_step grounded.world fosters)
    (World.advances_step grounded.world fosters)

theorem Grounded.announce (grounded : deployment.Grounded timely viewer) {item : Item}
    (backed : deployment.world.store.Backs timely item) :
    ({ deployment with announcements := deployment.announcements ++ [item] } :
      Deployment).Grounded timely viewer where
  world := grounded.world
  announced other member := by
    rcases List.mem_append.1 member with before | fresh
    · exact grounded.announced other before
    · rw [List.mem_singleton.1 fresh]
      exact backed
  reading := grounded.reading
  viewing := grounded.viewing

theorem Keeps.reply (grounded : deployment.Grounded timely viewer) {number : Nat}
    {response : Http.Response} (finds : viewer number → response.status ≠ 404) :
    Keeps timely viewer (deployment, [.replied number response]) := by
  refine ⟨grounded, fun notice member => ?_⟩
  rw [List.mem_singleton.1 member]
  exact finds

theorem keeps_answer {α : Type} [Wire α] (grounded : deployment.Grounded timely viewer)
    (request : Pending) {outcome : Except Failure α}
    (finds : viewer request.number → ∀ failure, outcome = .error failure →
      (Refusal.ofFailure failure).status ≠ 404) :
    Keeps timely viewer (deployment.answer request outcome) := by
  refine .reply (grounded.without request.number) fun isViewer => ?_
  rw [Http.Response.status_forMethod]
  cases outcome with
  | ok result =>
      exact Nat.ne_of_beq_eq_false rfl
  | error failure =>
      exact finds isViewer failure rfl

/-- A request that waits for anything else is none of a viewer. -/
theorem Grounded.no_viewer (grounded : deployment.Grounded timely viewer)
    {request : Pending} (member : request ∈ deployment.pending)
    (noView : request.errand ≠ .drawToView) (noRead : ∀ id, request.errand ≠ .readBox id) :
    ¬ viewer request.number := by
  intro isViewer
  rcases grounded.viewing request member isViewer with views | ⟨id, reads⟩
  · exact noView views
  · exact noRead id reads

theorem keeps_absorbAnswer (grounded : deployment.Grounded timely viewer) (call : Nat)
    {result : Except Fault String}
    (viewed : ∀ id, result = .ok id →
      ∃ moment, deployment.world.store.lastView? id = some moment)
    (present : ∀ id, result ≠ .error (.boxNotFound id)) :
    Keeps timely viewer (deployment.absorbAnswer call result) := by
  unfold absorbAnswer
  split
  · exact .silent grounded
  · rename_i request found
    have member := List.mem_of_find?_eq_some found
    split
    · exact keeps_answer grounded request nofun
    · rename_i fault draws
      have noViewer := grounded.no_viewer member (by simp [draws]) (by simp [draws])
      exact keeps_answer grounded request fun isViewer => absurd isViewer noViewer
    · rename_i id draws
      refine .silent (grounded.await request ?_ fun _ => Or.inr ⟨id, rfl⟩)
      intro other same
      cases same
      exact viewed id rfl
    · rename_i fault draws
      refine keeps_answer grounded request fun _ failure same => ?_
      cases same
      exact Refusal.status_ofFault_ne fun id missing => present id (missing ▸ rfl)
    · exact .silent grounded

theorem world_absorbAnswer (deployment : Deployment) (call : Nat)
    (result : Except Fault String) :
    (deployment.absorbAnswer call result).1.world = deployment.world := by
  unfold absorbAnswer
  split
  · rfl
  · split
    all_goals rfl

/-- Goes on with one thing that was seen of the queue. -/
def absorbEvent (deployment : Deployment) : Event → Deployment × List Notice
  | .answered call result => deployment.absorbAnswer call result
  | _ => (deployment, [])

theorem absorb_cons (deployment : Deployment) (event : Event) (rest : List Event) :
    deployment.absorb (event :: rest) =
      (((deployment.absorbEvent event).1.absorb rest).1,
        .queue event :: ((deployment.absorbEvent event).2 ++
          ((deployment.absorbEvent event).1.absorb rest).2)) := by
  cases event with
  | _ =>
      rfl

theorem keeps_absorbEvent (grounded : deployment.Grounded timely viewer) {event : Event}
    (viewed : ∀ id ∈ event.served?,
      ∃ moment, deployment.world.store.lastView? id = some moment)
    (present : ∀ call id, event ≠ .answered call (.error (.boxNotFound id))) :
    Keeps timely viewer (deployment.absorbEvent event) ∧
      (deployment.absorbEvent event).1.world = deployment.world := by
  cases event with
  | answered call result =>
      refine ⟨keeps_absorbAnswer grounded call ?_ ?_, world_absorbAnswer ..⟩
      · rintro id rfl
        exact viewed id rfl
      · rintro id rfl
        exact present call id rfl
  | _ =>
      exact ⟨.silent grounded, rfl⟩

theorem keeps_absorb (grounded : deployment.Grounded timely viewer)
    {events : List Event}
    (viewed : ∀ id ∈ served events,
      ∃ moment, deployment.world.store.lastView? id = some moment)
    (present : ∀ call id, .answered call (.error (.boxNotFound id)) ∉ events) :
    Keeps timely viewer (deployment.absorb events) := by
  induction events generalizing deployment with
  | nil =>
      exact .silent grounded
  | cons event rest inductionHypothesis =>
      have firstPresent : ∀ call id, event ≠ .answered call (.error (.boxNotFound id)) :=
        fun call id same => present call id (same ▸ List.mem_cons_self)
      have firstViewed : ∀ id ∈ event.served?,
          ∃ moment, deployment.world.store.lastView? id = some moment :=
        fun id serves => viewed id (List.mem_filterMap.2 ⟨event, List.mem_cons_self, serves⟩)
      obtain ⟨kept, sameWorld⟩ := keeps_absorbEvent grounded firstViewed firstPresent
      have both := kept.andThen fun nextGrounded => by
        refine inductionHypothesis nextGrounded ?_ fun call id member =>
          present call id (List.mem_cons_of_mem event member)
        rw [sameWorld]
        intro id member
        obtain ⟨later, inRest, serves⟩ := List.mem_filterMap.1 member
        exact viewed id
          (List.mem_filterMap.2 ⟨later, List.mem_cons_of_mem event inRest, serves⟩)
      rw [absorb_cons]
      refine ⟨both.grounded, fun notice member => ?_⟩
      rcases List.mem_cons.1 member with rfl | others
      · exact firstPresent
      · exact both.finds notice others

theorem keeps_stepQueue (grounded : deployment.Grounded timely viewer)
    (action : Action) (fosters : deployment.world.Fosters timely action) :
    Keeps timely viewer (deployment.stepQueue action) :=
  keeps_absorb (grounded.step_world action fosters) (fun _ => World.viewed_of_served)
    (grounded.world.notFound_unseen action)

/-! ### Requests -/

theorem keeps_draw (grounded : deployment.Grounded timely viewer) (request : Pending)
    {errand : Errand} (unread : ∀ id, errand ≠ .readBox id)
    (views : viewer request.number → errand = .drawToView) :
    Keeps timely viewer
      ((deployment.await request errand).stepQueue (.call request.number)) := by
  have waits : (deployment.await request errand).Grounded timely viewer :=
    grounded.await request (fun id reads => absurd reads (unread id))
      fun isViewer => Or.inl (views isViewer)
  exact keeps_stepQueue waits (.call request.number) (.of_orderly trivial)

/-- A box is stored before it is announced, with the moment that it is announced
with. A box that cannot be stored is not announced. -/
theorem keeps_create (grounded : deployment.Grounded timely viewer) {request : Pending}
    (noViewer : ¬ viewer request.number) (freshId : String) (draft : BoxDraft) :
    Keeps timely viewer
      (deployment.beginBoxOrder request freshId (.create draft)) := by
  unfold beginBoxOrder
  dsimp only
  split
  · exact keeps_answer grounded request fun isViewer => absurd isViewer noViewer
  · rename_i grown box created
    obtain ⟨rfl, inserted⟩ := BoxService.create_eq_ok created
    obtain ⟨_, _, put⟩ := Store.insert_eq_ok_iff.1 inserted
    let box := MessageBox.create freshId draft.body deployment.world.clock
    have sameStore : (deployment.world.step (.write (.insert box))).1 =
        { deployment.world with store := grown } := by
      simp only [World.step, StoreWrite.apply, box, inserted]
      rfl
    have orderly : deployment.world.Fosters timely (.write (.insert box)) := by
      refine ⟨?_, ?_, fun inTime => Or.inr fun _ moment viewed => ?_⟩
      · intro id same
        cases same
      · intro item same
        cases same
      · cases viewed
        exact ⟨(grounded.world.prompt inTime).clock, Moment.Before.irrefl _⟩
    have stored := grounded.step_world _ orderly
    rw [sameStore] at stored
    have backed : grown.Backs timely
        (BoxService.announcement freshId deployment.world.clock) := by
      refine ⟨deployment.world.clock, ?_, fun _ => Int64.le_refl _⟩
      rw [← put, Store.lastView?_put]
      exact if_pos rfl
    have told := (stored.announce backed).step_world .cloneHandle (.of_orderly trivial)
    refine keeps_answer told request fun _ failure failed => ?_
    cases failed

/-- Reactions leave the views of all boxes alone. -/
theorem keeps_react (grounded : deployment.Grounded timely viewer) {request : Pending}
    (noViewer : ¬ viewer request.number) (freshId : String) (reactions : Reactions) :
    Keeps timely viewer
      (deployment.beginBoxOrder request freshId (.react reactions)) := by
  unfold beginBoxOrder
  dsimp only
  split
  · exact keeps_answer grounded request fun isViewer => absurd isViewer noViewer
  · rename_i grown added
    have stored : ({ deployment with world := { deployment.world with store := grown } } :
        Deployment).Grounded timely viewer := by
      rcases BoxService.addReactions_eq_ok added with rfl | rfl
      · exact grounded
      · exact grounded.step_world (.write (.react reactions.id reactions.tallies))
          (.of_orderly trivial)
    refine .silent (stored.await request ?_ fun isViewer => absurd isViewer noViewer)
    intro id reads
    cases reads

theorem keeps_arrive (grounded : deployment.Grounded timely viewer) {number : Nat}
    {service : Service} {request : Http.Request} {freshId : String}
    (standalone : (Move.arrive number service request freshId).Standalone)
    (views : viewer number → service.AsksToView request) :
    Keeps timely viewer (deployment.stepArrive number service request freshId) := by
  unfold stepArrive
  split
  · exact .silent grounded
  · unfold meet
    split
    · refine .reply grounded fun isViewer => ?_
      cases (views isViewer).box
    · have noViewer : ¬ viewer number := by
        intro isViewer
        cases (views isViewer).box
      split
      · exact .reply grounded fun isViewer => absurd isViewer noViewer
      · split
        · exact .reply grounded fun isViewer => absurd isViewer noViewer
        · rename_i metadata order checked
          cases order with
          | accept item =>
              exact absurd (congrArg Checked.outcome checked) (standalone item)
          | draw =>
              exact keeps_draw grounded _ nofun fun isViewer => absurd isViewer noViewer
    · split
      · rename_i response beforehand
        refine .reply grounded fun isViewer => ?_
        rw [(views isViewer).served] at beforehand
        cases beforehand
      · split
        · rename_i metadata fault checked
          refine .reply grounded fun isViewer => ?_
          have view := (views isViewer).view
          rw [checked] at view
          cases view
        · rename_i metadata order checked
          have viewsOnly (isViewer : viewer number) : order = .view := by
            have view := (views isViewer).view
            rw [checked] at view
            exact Except.ok.inj view
          cases order with
          | create draft =>
              exact keeps_create grounded (fun isViewer => nomatch viewsOnly isViewer) _ _
          | react reactions =>
              exact keeps_react grounded (fun isViewer => nomatch viewsOnly isViewer) _ _
          | view =>
              exact keeps_draw grounded _ nofun fun _ => rfl

/-! ### Steps and runs -/

theorem keeps_readBack (grounded : deployment.Grounded timely viewer) (number : Nat) :
    Keeps timely viewer (deployment.stepReadBack number) := by
  unfold stepReadBack
  split
  · exact .silent grounded
  · rename_i request found
    have member := List.mem_of_find?_eq_some found
    split
    · rename_i id reads
      obtain ⟨moment, last⟩ := grounded.reading request member id reads
      refine keeps_answer grounded request fun _ failure failed => ?_
      unfold BoxService.readBox at failed
      cases answer : deployment.world.store.get id with
      | ok box =>
          rw [answer] at failed
          cases failed
      | error fault =>
          rw [answer] at failed
          cases failed
          exact Refusal.status_ofFault_ne (Store.get_ne_notFound last answer)
    · rename_i id reads
      have noViewer := grounded.no_viewer member (by simp [reads]) (by simp [reads])
      exact keeps_answer grounded request fun isViewer => absurd isViewer noViewer
    · exact .silent grounded

theorem Grounded.abandon (grounded : deployment.Grounded timely viewer) (number : Nat) :
    (deployment.abandon number).Grounded timely viewer :=
  (grounded.without number).step_world (.abandon number) (.of_orderly trivial)

/-- The queue is told of a box that is stored. -/
theorem keeps_announce (grounded : deployment.Grounded timely viewer) (position : Nat) :
    Keeps timely viewer (deployment.stepAnnounce position) := by
  unfold stepAnnounce
  split
  · exact .silent grounded
  · rename_i item found
    have backed : deployment.world.store.Backs timely item :=
      grounded.announced item (List.mem_of_getElem? found)
    have untold : ({ deployment with
        announcements := deployment.announcements.eraseIdx position } :
        Deployment).Grounded timely viewer := by
      refine ⟨grounded.world, fun other member => ?_, grounded.reading, grounded.viewing⟩
      exact grounded.announced other (List.mem_of_mem_eraseIdx member)
    exact (keeps_stepQueue untold (.submit item) (.submit backed)).andThen fun told =>
      keeps_stepQueue told .dropHandle (.of_orderly trivial)

theorem keeps_step (grounded : deployment.Grounded timely viewer) {move : Move}
    (standalone : move.Standalone)
    (views : ∀ number service request freshId,
      move = .arrive number service request freshId →
        viewer number → service.AsksToView request)
    (orderly : timely → deployment.Orderly move) :
    Keeps timely viewer (deployment.step move) := by
  cases move with
  | arrive number service request freshId =>
      exact keeps_arrive grounded standalone (views _ _ _ _ rfl)
  | readBack number =>
      exact keeps_readBack grounded number
  | cutOff number =>
      simp only [step, stepCutOff]
      split
      · exact .silent grounded
      · refine .reply (grounded.abandon number) fun _ => ?_
        rw [Http.Response.status_forMethod]
        exact Nat.ne_of_beq_eq_false rfl
  | leave number =>
      simp only [step, stepLeave]
      split
      · exact .silent grounded
      · exact .silent (grounded.abandon number)
  | announce position =>
      exact keeps_announce grounded position
  | queue action =>
      refine keeps_stepQueue grounded action ⟨?_, ?_, fun inTime => Or.inr (orderly inTime)⟩
      · rintro id rfl
        exact standalone
      · rintro item rfl
        exact standalone.elim

theorem keeps_run (moves : List Move) (grounded : deployment.Grounded timely viewer)
    (standalone : ∀ move ∈ moves, move.Standalone)
    (views : ∀ number service request freshId,
      .arrive number service request freshId ∈ moves →
        viewer number → service.AsksToView request)
    (orderly : timely → deployment.OrderlyRun moves) :
    Keeps timely viewer (deployment.run moves) := by
  induction moves generalizing deployment with
  | nil =>
      exact .silent grounded
  | cons move rest inductionHypothesis =>
      have kept : Keeps timely viewer (deployment.step move) := by
        refine keeps_step grounded (standalone move List.mem_cons_self) ?_
          fun inTime => (orderly inTime).1
        rintro number service request freshId rfl
        exact views number service request freshId List.mem_cons_self
      exact kept.andThen fun nextGrounded =>
        inductionHypothesis nextGrounded
          (fun later member => standalone later (List.mem_cons_of_mem move member))
          (fun number service request freshId member =>
            views number service request freshId (List.mem_cons_of_mem move member))
          (fun inTime => (orderly inTime).2)

theorem grounded_ofWorld {world : World} (grounded : world.Grounded timely) :
    (ofWorld world).Grounded timely viewer where
  world := grounded
  announced item member := by cases member
  reading request member := by cases member
  viewing request member := by cases member

/-- Suppose that items come only from the box service, and that no box is deleted. Then
every box in the pool, taken by the loop, in the buffer or still to be announced is
stored with the moment of its last view. No retrieval fails for want of its box, and no
request to view a box is told that there is none. If time goes forward without leap
seconds, from after all views up to then, the pool never has a box at a higher score
than that of its last view in the store. -/
theorem standalone_pool_grounded (settings : QueueSettings) (writes : List StoreWrite)
    (clock : Moment) (moves : List Move)
    (standalone : ∀ move ∈ moves, move.Standalone) :
    let store := Store.ofWrites writes
    let first := ofWorld (World.start settings store clock)
    let last := (first.run moves).1
    let notices := (first.run moves).2
    (∀ id, last.world.shelf.pool.contains id = true ∨
        id ∈ (last.world.taken?.toList ++ last.world.buffer ++
          last.announcements).map Item.id →
      ∃ stored moment, last.world.store.boxes.get? id = some stored ∧
        stored.box.lastViewed = some moment) ∧
    (∀ call id, .queue (.answered call (.error (.boxNotFound id))) ∉ notices) ∧
    (∀ number, (∀ service request freshId,
        .arrive number service request freshId ∈ moves → service.AsksToView request) →
      ∀ response, .replied number response ∈ notices → response.status ≠ 404) ∧
    (clock.isLeap = false →
      (∀ id stored moment, store.boxes.get? id = some stored →
        stored.box.lastViewed = some moment →
          moment.isLeap = false ∧ ¬ clock.Before moment) →
      first.OrderlyRun moves →
      ∀ id score, last.world.shelf.pool.get? id = some score →
        ∃ stored moment, last.world.store.boxes.get? id = some stored ∧
          stored.box.lastViewed = some moment ∧ score ≤ moment.score) := by
  intro store first last notices
  have filed : store.Filed := Store.filed_ofWrites writes
  have started {timely : Prop} {viewer : Nat → Prop}
      (prompt : timely → (World.start settings store clock).Prompt) :
      first.Grounded timely viewer :=
    grounded_ofWorld (World.grounded_start settings filed prompt)
  have kept : Keeps False (fun _ => False) (first.run moves) :=
    keeps_run moves (started False.elim) standalone (fun _ _ _ _ _ => False.elim)
      False.elim
  refine ⟨?_, ?_, ?_, ?_⟩
  · rintro id (contained | named)
    · obtain ⟨score, pooled⟩ := Pool.contains_iff_exists_get?.1 contained
      obtain ⟨stored, moment, found, lastViewed, _⟩ :=
        (kept.grounded.world.pooled id score pooled).stored
      exact ⟨stored, moment, found, lastViewed⟩
    · obtain ⟨item, member, rfl⟩ := List.mem_map.1 named
      have backed : last.world.store.Backs False item :=
        (List.mem_append.1 member).elim (kept.grounded.world.waiting item)
          (kept.grounded.announced item)
      obtain ⟨stored, moment, found, lastViewed, _⟩ := backed.stored
      exact ⟨stored, moment, found, lastViewed⟩
  · intro call id seen
    exact kept.finds _ seen call id rfl
  · intro number asks response seen
    have viewersKept : Keeps False (fun other => other = number) (first.run moves) := by
      refine keeps_run moves (started False.elim) standalone ?_ False.elim
      rintro other service request freshId member rfl
      exact asks service request freshId member
    exact viewersKept.finds _ seen rfl
  · intro ordinary early orderly id score pooled
    have prompt : (World.start settings store clock).Prompt := by
      refine World.prompt_start settings ordinary fun id moment viewed => ?_
      obtain ⟨stored, found, lastViewed⟩ := Store.exists_stored_of_lastView? viewed
      exact early id stored moment found lastViewed
    have inTime : Keeps True (fun _ => False) (first.run moves) :=
      keeps_run moves (started fun _ => prompt) standalone
        (fun _ _ _ _ _ => False.elim) fun _ => orderly
    obtain ⟨stored, moment, found, lastViewed, notLater⟩ :=
      (inTime.grounded.world.pooled id score pooled).stored
    exact ⟨stored, moment, found, lastViewed, notLater trivial⟩

/-- A request to make a box. -/
def requestToCreate : Http.Request where
  method := "POST"
  target :=
    ⟨[Http.ascii '/'], some (Http.asciiBytes "Action=CreateBox&Version=2021-12-23")⟩
  headers := [("content-type", Http.asciiBytes "application/json")]
  body := Http.asciiBytes "\x7b\"Body\":\"hello\"\x7d"

/-- A request to view a box. -/
def requestToView : Http.Request where
  method := "POST"
  target :=
    ⟨[Http.ascii '/'], some (Http.asciiBytes "Action=ViewBox&Version=2021-12-23")⟩
  headers := []
  body := []

/-- The pool is rebuilt. Then a box is made and announced, and a second later the box
that was there before is viewed. -/
def createdAndViewed : List Move :=
  [.queue .spawn, .queue .fireTimer, .queue (.list 0), .queue (.receive 0),
    .queue (.install 0), .queue (.announce 0), .queue .observe,
    .arrive 0 .box requestToCreate "b", .announce 0, .queue .take, .queue .apply,
    .queue (.setClock (.afterEpoch 1)), .arrive 1 .box requestToView "",
    .queue (.enter 1 0), .queue (.record 1), .readBack 1]

/-- A new queue over a store with one box. -/
def overOneBox : Deployment :=
  ofWorld (World.start .standard
    (Store.ofWrites [.insert (MessageBox.create "a" "" Moment.epoch)]) Moment.epoch)

theorem standalone_pool_grounded_createdAndViewed :
    (∀ move ∈ createdAndViewed, move.Standalone) ∧
    (∀ service request freshId,
      .arrive 1 service request freshId ∈ createdAndViewed →
        service.AsksToView request) ∧
    overOneBox.OrderlyRun createdAndViewed ∧
    (∃ stored moment,
      (overOneBox.run createdAndViewed).1.world.store.boxes.get? "b" = some stored ∧
        stored.box.lastViewed = some moment) ∧
    (∃ response, .replied 1 response ∈ (overOneBox.run createdAndViewed).2 ∧
      response.status ≠ 404) ∧
    ∃ stored moment,
      (overOneBox.run createdAndViewed).1.world.store.boxes.get? "a" = some stored ∧
        stored.box.lastViewed = some moment ∧ (1000000000 : Int64) ≤ moment.score := by
  have standalone : ∀ move ∈ createdAndViewed, move.Standalone := by
    simp [createdAndViewed, Move.Standalone]
  have asks : ∀ service request freshId,
      .arrive 1 service request freshId ∈ createdAndViewed →
        service.AsksToView request := by
    intro service request freshId member
    obtain ⟨rfl, rfl, rfl⟩ : service = .box ∧ request = requestToView ∧ freshId = "" := by
      simpa [createdAndViewed] using member
    exact ⟨rfl, by cbv, by cbv⟩
  have early : ∀ id stored moment,
      (Store.ofWrites [.insert (MessageBox.create "a" "" Moment.epoch)]).boxes.get? id =
        some stored → stored.box.lastViewed = some moment →
          moment.isLeap = false ∧ ¬ Moment.epoch.Before moment := by
    intro id stored moment found lastViewed
    have inStore : (NameMap.empty.insert "a"
        ⟨MessageBox.create "a" "" Moment.epoch, [Moment.epoch]⟩).get? id =
          some stored := found
    rw [NameMap.get?_insert] at inStore
    split at inStore
    · cases inStore
      cases lastViewed
      exact ⟨rfl, Moment.Before.irrefl _⟩
    · cases inStore
  have orderly : overOneBox.OrderlyRun createdAndViewed := by decide +kernel
  have created : (overOneBox.run createdAndViewed).1.world.shelf.pool.contains "b" =
      true := by
    decide +kernel
  have viewed : (overOneBox.run createdAndViewed).1.world.shelf.pool.get? "a" =
      some 1000000000 := by
    decide +kernel
  have answered : ((overOneBox.run createdAndViewed).2.findSome?
      (Notice.responseTo? 1)).isSome = true := by
    decide +kernel
  obtain ⟨stored, _, answers, timely⟩ :=
    standalone_pool_grounded .standard
      [.insert (MessageBox.create "a" "" Moment.epoch)] Moment.epoch createdAndViewed
      standalone
  have made := stored "b" (Or.inl created)
  have inTime := timely rfl early orderly "a" 1000000000 viewed
  obtain ⟨response, last⟩ := Option.isSome_iff_exists.1 answered
  obtain ⟨notice, member, replied⟩ := List.exists_of_findSome?_eq_some last
  have seen : .replied 1 response ∈ (overOneBox.run createdAndViewed).2 := by
    unfold Notice.responseTo? at replied
    split at replied
    · split at replied
      · rename_i same
        cases replied
        rw [← same]
        exact member
      · cases replied
    · cases replied
  exact ⟨standalone, asks, orderly, made, ⟨response, seen, answers 1 asks response seen⟩,
    inTime⟩

end Deployment

end StalestFirst
