import Mathlib
import StalestFirst.Proofs.Pool
import StalestFirst.Proofs.Queue.Change
import StalestFirst.Proofs.Queue.Run

namespace StalestFirst

/-- The pool that is rebuilt from a listing has the boxes of that listing and no
other ones. -/
theorem Shelf.contains_rebuilt {listing : List ViewedBox} {live : Pool} {id : String} :
    (Shelf.rebuilt listing live).contains id = true ↔
      ∃ viewed ∈ listing, viewed.id = id := by
  rw [Shelf.rebuilt, Pool.contains_keepNewer, Pool.contains_ofList, List.map_map,
    List.mem_map]
  rfl

namespace World

/-! ## One rebuild at a time

The loop starts a rebuild only when it has observed the one before. So at most one
listing waits to be installed, and it was made after all that were installed. -/

/-- There is at most one rebuild, and none while the loop may start one. -/
structure Sole (world : World) : Prop where
  atMostOne : world.rebuilds.length ≤ 1
  noneWhenSpare : world.spare = true → world.rebuilds = []

/-- A rebuild has its listing, made or arrived, and has not installed it. -/
def Pending (world : World) (number : Nat) (listing : List ViewedBox) : Prop :=
  ∃ rebuild ∈ world.rebuilds, rebuild.number = number ∧
    (rebuild.stage = .listed (.ok listing) ∨ rebuild.stage = .arrived listing)

theorem rebuild?_eq_some {world : World} {number : Nat} {rebuild : Rebuild}
    (found : world.rebuild? number = some rebuild) :
    rebuild ∈ world.rebuilds ∧ rebuild.number = number := by
  refine ⟨List.mem_of_find?_eq_some found, ?_⟩
  simpa using List.find?_some found

theorem Sole.rebuilds_eq {world : World} (sole : world.Sole) {number : Nat}
    {rebuild : Rebuild} (found : world.rebuild? number = some rebuild) :
    world.rebuilds = [rebuild] := by
  have member := (rebuild?_eq_some found).1
  match shape : world.rebuilds with
  | [] =>
      rw [shape] at member
      cases member
  | [only] =>
      rw [shape, List.mem_singleton] at member
      rw [member]
  | first :: second :: rest =>
      have bound := sole.atMostOne
      rw [shape] at bound
      simp at bound

theorem Sole.of_same {world next : World} (sole : world.Sole)
    (sameRebuilds : next.rebuilds = world.rebuilds)
    (spare : next.spare = true → world.spare = true) : next.Sole := by
  refine ⟨?_, fun nextSpare => ?_⟩
  · rw [sameRebuilds]
    exact sole.atMostOne
  · rw [sameRebuilds]
    exact sole.noneWhenSpare (spare nextSpare)

theorem Sole.setStage {world : World} (sole : world.Sole) (number : Nat)
    (stage : Stage) : (world.setStage number stage).Sole := by
  refine ⟨?_, fun spare => ?_⟩
  · rw [World.setStage, List.length_map]
    exact sole.atMostOne
  · have none := sole.noneWhenSpare spare
    simp [World.setStage, none]

theorem sole_step (world : World) (action : Action) (sole : world.Sole) :
    (world.step action).1.Sole := by
  have change := world.change action
  generalize (world.step action).1 = next at change ⊢
  generalize (world.step action).2 = events at change
  cases change with
  | aside idle alike silent =>
      exact sole.of_same alike.rebuilds alike.spare
  | enters waits free drawn =>
      exact sole.of_same rfl id
  | findsNone waits free drawn =>
      exact sole.of_same rfl id
  | records guarded =>
      exact sole.of_same rfl id
  | leaves guarded leaving silent =>
      exact sole.of_same rfl id
  | @applies due inFlight item free taken =>
      refine sole.of_same rfl fun spare => ?_
      cases inFlight with
      | none =>
          simp [World.spare, taken]
      | some number =>
          simp [World.spare] at spare
  | starts resting =>
      -- The loop rests only when it has observed the rebuild before.
      have none := sole.noneWhenSpare (by simp [World.spare, resting])
      refine ⟨by simp [none], fun spare => ?_⟩
      simp [World.spare] at spare
  | observes waits finished silent =>
      have only := sole.rebuilds_eq finished
      have named := (rebuild?_eq_some finished).2
      simp only at named
      exact ⟨by simp [only, named], fun _ => by simp [only, named]⟩
  | lists begun =>
      exact sole.setStage _ _
  | receives listed =>
      exact sole.setStage _ _
  | finishes ready finish =>
      have marked : ({ world with ready } : World).Sole := sole.of_same rfl id
      exact marked.setStage _ _
  | @installs _ _ listing free arrived =>
      have swapped : ({ world with
          shelf := world.shelf.install listing } : World).Sole :=
        sole.of_same rfl id
      exact swapped.setStage _ _
  | writes write =>
      exact sole.of_same rfl id
  | setsClock clock =>
      exact sole.of_same rfl id

theorem sole_start (settings : QueueSettings) (store : Store) (clock : Moment) :
    (start settings store clock).Sole :=
  ⟨Nat.zero_le 1, fun _ => rfl⟩

/-! ## Listings on their way -/

theorem Pending.of_same {world next : World} {number : Nat}
    {listing : List ViewedBox} (pending : next.Pending number listing)
    (sameRebuilds : next.rebuilds = world.rebuilds) :
    world.Pending number listing := by
  unfold Pending at pending ⊢
  rw [← sameRebuilds]
  exact pending

/-- A rebuild that has reached another stage has a listing on its way only if that
stage holds one. For the others nothing changes. -/
theorem Pending.of_setStage {world : World} {number other : Nat} {stage : Stage}
    {listing : List ViewedBox}
    (pending : (world.setStage number stage).Pending other listing) :
    (other ≠ number ∧ world.Pending other listing) ∨
      (other = number ∧
        (stage = .listed (.ok listing) ∨ stage = .arrived listing)) := by
  obtain ⟨moved, member, movedNumber, held⟩ := pending
  obtain ⟨rebuild, original, rfl⟩ := List.mem_map.1 member
  by_cases sameNumber : rebuild.number = number
  · rw [if_pos sameNumber] at movedNumber held
    exact Or.inr ⟨movedNumber.symm.trans sameNumber, held⟩
  · rw [if_neg sameNumber] at movedNumber held
    exact Or.inl ⟨fun same => sameNumber (movedNumber.trans same),
      rebuild, original, movedNumber, held⟩

/-- A listing that is on its way was on its way before, or has just been made. -/
theorem pending_step {world : World} {action : Action}
    {number : Nat} {listing : List ViewedBox}
    (pending : (world.step action).1.Pending number listing) :
    world.Pending number listing ∨
      (action = .list number ∧ world.store.listing = .ok listing) := by
  have change := world.change action
  generalize (world.step action).1 = next at change pending
  generalize (world.step action).2 = events at change
  cases change with
  | aside idle alike silent =>
      exact Or.inl (pending.of_same alike.rebuilds)
  | enters waits free drawn =>
      exact Or.inl (pending.of_same rfl)
  | findsNone waits free drawn =>
      exact Or.inl (pending.of_same rfl)
  | records guarded =>
      exact Or.inl (pending.of_same rfl)
  | leaves guarded leaving silent =>
      exact Or.inl (pending.of_same rfl)
  | applies free taken =>
      exact Or.inl (pending.of_same rfl)
  | starts resting =>
      obtain ⟨rebuild, member, named, held⟩ := pending
      rcases List.mem_append.1 member with earlier | fresh
      · exact Or.inl ⟨rebuild, earlier, named, held⟩
      · rw [List.mem_singleton.1 fresh] at held
        simp at held
  | observes waits finished silent =>
      obtain ⟨rebuild, member, named, held⟩ := pending
      exact Or.inl ⟨rebuild, (List.mem_filter.1 member).1, named, held⟩
  | lists begun =>
      rcases pending.of_setStage with ⟨_, earlier⟩ | ⟨rfl, made | arrived⟩
      · exact Or.inl earlier
      · exact Or.inr ⟨rfl, Stage.listed.inj made⟩
      · cases arrived
  | receives listed =>
      rcases pending.of_setStage with ⟨_, earlier⟩ | ⟨rfl, made | arrived⟩
      · exact Or.inl earlier
      · cases made
      · cases arrived
        obtain ⟨member, named⟩ := rebuild?_eq_some listed
        exact Or.inl ⟨_, member, named, Or.inl rfl⟩
  | finishes ready finish =>
      rcases pending.of_setStage with ⟨_, earlier⟩ | ⟨_, made | arrived⟩
      · exact Or.inl (earlier.of_same rfl)
      · cases made
      · cases arrived
  | installs free arrived =>
      rcases pending.of_setStage with ⟨_, earlier⟩ | ⟨_, made | arrived⟩
      · exact Or.inl (earlier.of_same rfl)
      · cases made
      · cases arrived
  | writes write =>
      exact Or.inl (pending.of_same rfl)
  | setsClock clock =>
      exact Or.inl (pending.of_same rfl)

/-- When one rebuild reaches a stage that holds no listing, none is on its way. -/
theorem Sole.not_pending {world : World} (sole : world.Sole) {number other : Nat}
    {rebuild : Rebuild} {stage : Stage} {listing : List ViewedBox}
    (found : world.rebuild? number = some rebuild)
    (unlisted : stage ≠ .listed (.ok listing)) (gone : stage ≠ .arrived listing) :
    ¬ (world.setStage number stage).Pending other listing := by
  intro pending
  rcases pending.of_setStage with ⟨different, earlier⟩ | ⟨_, made | arrived⟩
  · obtain ⟨candidate, member, named, _⟩ := earlier
    rw [sole.rebuilds_eq found, List.mem_singleton] at member
    subst member
    exact different (named.symm.trans (rebuild?_eq_some found).2)
  · exact unlisted made
  · exact gone arrived

/-- The step makes a listing only for a rebuild that has begun. -/
theorem begun_of_listed {world : World} {number : Nat} {listing : List ViewedBox}
    (listed : (world.step (.list number)).2 = [.listed number (.ok listing)]) :
    ∃ found, world.rebuild? number = some ⟨found, .begun⟩ := by
  simp only [step, stepList] at listed
  split at listed
  · rename_i found begun
    exact ⟨found, begun⟩
  · cases listed

/-- The step installs the listing that has arrived. -/
theorem arrived_of_installed {world : World} {number : Nat} {listing : List ViewedBox}
    (installed : (world.step (.install number)).2 = [.installed number listing]) :
    (world.step (.install number)).1.shelf = world.shelf.install listing ∧
      ∃ found, world.rebuild? number = some ⟨found, .arrived listing⟩ := by
  simp only [step, stepInstall] at installed ⊢
  split at installed
  · rename_i found arrivedListing free arrived
    cases installed
    exact ⟨rfl, found, arrived⟩
  · cases installed

end World

end StalestFirst
