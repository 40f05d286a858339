import Mathlib
import StalestFirst.Settings.Document

namespace StalestFirst.Settings

/-! ## Quantities of settings -/

/-- The areas that settings are about. -/
inductive Area where
  | queue
  | http
  | store
  deriving DecidableEq

/-- The quantities that settings fix. -/
inductive Quantity where
  | resyncSeconds
  | retrySeconds
  | bufferCapacity
  | selectionWindow
  | requestSeconds
  | dequeueSeconds
  | graceSeconds
  | maxConnections
  | connectSeconds
  deriving DecidableEq

instance : Fintype Area where
  elems := {.queue, .http, .store}
  complete area := by
    cases area with
    | _ =>
        decide

instance : Fintype Quantity where
  elems := {.resyncSeconds, .retrySeconds, .bufferCapacity, .selectionWindow,
    .requestSeconds, .dequeueSeconds, .graceSeconds, .maxConnections, .connectSeconds}
  complete quantity := by
    cases quantity with
    | _ =>
        decide

/-- What documents call an area. -/
def Area.name : Area → String
  | .queue => "queue"
  | .http => "http"
  | .store => "store"

namespace Quantity

/-- The area that a quantity belongs to. -/
def area : Quantity → Area
  | .resyncSeconds | .retrySeconds | .bufferCapacity | .selectionWindow => .queue
  | .requestSeconds | .dequeueSeconds | .graceSeconds => .http
  | .maxConnections | .connectSeconds => .store

/-- What documents call a quantity. -/
def name : Quantity → String
  | .resyncSeconds => "resync_interval_secs"
  | .retrySeconds => "retry_interval_secs"
  | .bufferCapacity => "buffer_capacity"
  | .selectionWindow => "selection_window"
  | .requestSeconds => "request_timeout_secs"
  | .dequeueSeconds => "dequeue_timeout_secs"
  | .graceSeconds => "shutdown_grace_secs"
  | .maxConnections => "max_connections"
  | .connectSeconds => "connect_timeout_secs"

/-- The number that a quantity is below. -/
def limit : Quantity → Nat
  | .maxConnections => 4294967296
  | _ => 18446744073709551616

/-- The number that settings have for a quantity. -/
def of (settings : Settings) : Quantity → Nat
  | .resyncSeconds => settings.queue.resyncSeconds.toNat
  | .retrySeconds => settings.queue.retrySeconds.toNat
  | .bufferCapacity => settings.queue.bufferCapacity.toNat
  | .selectionWindow => settings.queue.selectionWindow.toNat
  | .requestSeconds => settings.http.requestSeconds.toNat
  | .dequeueSeconds => settings.http.dequeueSeconds.toNat
  | .graceSeconds => settings.http.graceSeconds.toNat
  | .maxConnections => settings.store.maxConnections.toNat
  | .connectSeconds => settings.store.connectSeconds.toNat

theorem of_lt (settings : Settings) (quantity : Quantity) :
    quantity.of settings < quantity.limit := by
  cases quantity with
  | maxConnections =>
      exact UInt32.toNat_lt _
  | _ =>
      exact UInt64.toNat_lt _

end Quantity

/-- The settings with given numbers. -/
def ofNumbers (number : Quantity → Nat) : Settings where
  queue := ⟨.ofNat (number .resyncSeconds), .ofNat (number .retrySeconds),
    .ofNat (number .bufferCapacity), .ofNat (number .selectionWindow)⟩
  http := ⟨.ofNat (number .requestSeconds), .ofNat (number .dequeueSeconds),
    .ofNat (number .graceSeconds)⟩
  store := ⟨.ofNat (number .maxConnections), .ofNat (number .connectSeconds)⟩

theorem of_ofNumbers {number : Quantity → Nat} {quantity : Quantity}
    (fits : number quantity < quantity.limit) :
    quantity.of (ofNumbers number) = number quantity := by
  cases quantity with
  | maxConnections =>
      exact UInt32.toNat_ofNat_of_lt' fits
  | _ =>
      exact UInt64.toNat_ofNat_of_lt' fits

theorem ofNumbers_of (settings : Settings) :
    ofNumbers (fun quantity => quantity.of settings) = settings := by
  simp only [ofNumbers, Quantity.of, UInt64.ofNat_toNat, UInt32.ofNat_toNat]

/-- Settings are known by their numbers. -/
theorem ext_of {left right : Settings}
    (same : ∀ quantity : Quantity, quantity.of left = quantity.of right) : left = right := by
  rw [← ofNumbers_of left, ← ofNumbers_of right, funext same]

/-- The settings with the numbers of some other settings for the quantities that are named,
and standard ones for all others. -/
def overlay (other : Settings) (named : Quantity → Bool) : Settings :=
  ofNumbers fun quantity => if named quantity then quantity.of other else quantity.of .standard

theorem of_overlay (other : Settings) (named : Quantity → Bool) (quantity : Quantity) :
    quantity.of (overlay other named) =
      if named quantity then quantity.of other else quantity.of .standard := by
  refine of_ofNumbers ?_
  split
  · exact quantity.of_lt other
  · exact quantity.of_lt .standard

/-! ## Documents with named parts -/

namespace Form

variable {β : Type}

/-- What a form says of a part that has named entries is what its entries say, if all
their names can be read; and its numbers are below the limit. -/
structure Reads (form : Form β) (entries? : β → Option (List (Option String × β))) :
    Prop where
  slots {part : β} {entries : List (Option String × β)}
    (shown : entries? part = some entries) (names : List String) :
    form.slots? names part =
      if entries.all fun entry => entry.1.isSome then names.mapM (Slot.ofFields? entries)
      else none
  below {limit number : Nat} {part : β} (read : form.number? limit part = some number) :
    number < limit

variable (form : Form β)

/-- The number that entries have for a quantity. -/
def numberOf? (entries : List (Option String × β)) (quantity : Quantity) : Option Nat :=
  (Slot.ofFields? entries quantity.name).bind fun slot =>
    slot.orElse (quantity.of .standard) (form.number? quantity.limit)

/-- The word of 64 bits that entries have for a name. -/
def wordOf? (entries : List (Option String × β)) (name : String) (default : UInt64) :
    Option UInt64 :=
  (Slot.ofFields? entries name).bind fun slot => slot.orElse default form.word?

/-- The word of 32 bits that entries have for a name. -/
def shortWordOf? (entries : List (Option String × β)) (name : String) (default : UInt32) :
    Option UInt32 :=
  (Slot.ofFields? entries name).bind fun slot => slot.orElse default form.shortWord?

variable {form} {entries? : β → Option (List (Option String × β))}
  {entries : List (Option String × β)}

theorem wordOf?_eq_some_iff (reads : form.Reads entries?) {name : String}
    {default word : UInt64} :
    form.wordOf? entries name default = some word ↔
      ((Slot.ofFields? entries name).bind fun slot =>
        slot.orElse default.toNat (form.number? 18446744073709551616)) =
          some word.toNat := by
  unfold wordOf?
  cases Slot.ofFields? entries name with
  | none =>
      simp only [Option.bind_none, reduceCtorEq]
  | some slot =>
      cases slot with
      | given part =>
          simp only [Option.bind_some, Slot.orElse, word?, Option.map_eq_some_iff]
          constructor
          · rintro ⟨number, read, rfl⟩
            rw [read, UInt64.toNat_ofNat_of_lt' (reads.below read)]
          · intro read
            exact ⟨word.toNat, read, UInt64.ofNat_toNat⟩
      | _ =>
          simp only [Option.bind_some, Slot.orElse, Option.some.injEq]
          exact UInt64.toNat_inj.symm

theorem shortWordOf?_eq_some_iff (reads : form.Reads entries?) {name : String}
    {default word : UInt32} :
    form.shortWordOf? entries name default = some word ↔
      ((Slot.ofFields? entries name).bind fun slot =>
        slot.orElse default.toNat (form.number? 4294967296)) = some word.toNat := by
  unfold shortWordOf?
  cases Slot.ofFields? entries name with
  | none =>
      simp only [Option.bind_none, reduceCtorEq]
  | some slot =>
      cases slot with
      | given part =>
          simp only [Option.bind_some, Slot.orElse, shortWord?, Option.map_eq_some_iff]
          constructor
          · rintro ⟨number, read, rfl⟩
            rw [read, UInt32.toNat_ofNat_of_lt' (reads.below read)]
          · intro read
            exact ⟨word.toNat, read, UInt32.ofNat_toNat⟩
      | _ =>
          simp only [Option.bind_some, Slot.orElse, Option.some.injEq]
          exact UInt32.toNat_inj.symm

/-! ### Areas -/

section Part

variable {part : β} {settings : Settings}

theorem queue?_eq_some_iff (reads : form.Reads entries?)
    (shown : entries? part = some entries)
    (named : entries.all (fun entry => entry.1.isSome) = true) :
    form.queue? part = some settings.queue ↔
      ∀ quantity : Quantity, quantity.area = .queue →
        form.numberOf? entries quantity = some (quantity.of settings) := by
  -- All names are looked up before any number is read, so the failures come in another
  -- order here, which makes no difference to what is read.
  have opened : form.queue? part =
      (form.wordOf? entries "resync_interval_secs" 900).bind fun resync =>
      (form.wordOf? entries "retry_interval_secs" 10).bind fun retry =>
      (form.wordOf? entries "buffer_capacity" 1000).bind fun capacity =>
      (form.wordOf? entries "selection_window" 5).bind fun window =>
        some ⟨resync, retry, capacity, window⟩ := by
    rw [queue?, reads.slots shown, if_pos named]
    simp only [List.mapM_cons, List.mapM_nil, wordOf?]
    cases Slot.ofFields? entries "resync_interval_secs" with
    | none =>
        rfl
    | some resync =>
        cases Slot.ofFields? entries "retry_interval_secs" with
        | none =>
            simp
        | some retry =>
            cases Slot.ofFields? entries "buffer_capacity" with
            | none =>
                simp
            | some capacity =>
                cases Slot.ofFields? entries "selection_window" with
                | none =>
                    simp
                | some window =>
                    rfl
  rw [opened]
  simp only [Option.bind_eq_some_iff, Option.some.injEq]
  constructor
  · rintro ⟨resync, one, retry, two, capacity, three, window, four, same⟩ quantity inArea
    cases quantity with
    | resyncSeconds =>
        rw [Quantity.of, ← same]
        exact (wordOf?_eq_some_iff reads).1 one
    | retrySeconds =>
        rw [Quantity.of, ← same]
        exact (wordOf?_eq_some_iff reads).1 two
    | bufferCapacity =>
        rw [Quantity.of, ← same]
        exact (wordOf?_eq_some_iff reads).1 three
    | selectionWindow =>
        rw [Quantity.of, ← same]
        exact (wordOf?_eq_some_iff reads).1 four
    | _ =>
        cases inArea
  · intro given
    exact ⟨_, (wordOf?_eq_some_iff reads).2 (given .resyncSeconds rfl), _,
      (wordOf?_eq_some_iff reads).2 (given .retrySeconds rfl), _,
      (wordOf?_eq_some_iff reads).2 (given .bufferCapacity rfl), _,
      (wordOf?_eq_some_iff reads).2 (given .selectionWindow rfl), rfl⟩

theorem http?_eq_some_iff (reads : form.Reads entries?)
    (shown : entries? part = some entries)
    (named : entries.all (fun entry => entry.1.isSome) = true) :
    form.http? part = some settings.http ↔
      ∀ quantity : Quantity, quantity.area = .http →
        form.numberOf? entries quantity = some (quantity.of settings) := by
  have opened : form.http? part =
      (form.wordOf? entries "request_timeout_secs" 10).bind fun request =>
      (form.wordOf? entries "dequeue_timeout_secs" 3).bind fun dequeue =>
      (form.wordOf? entries "shutdown_grace_secs" 10).bind fun grace =>
        some ⟨request, dequeue, grace⟩ := by
    rw [http?, reads.slots shown, if_pos named]
    simp only [List.mapM_cons, List.mapM_nil, wordOf?]
    cases Slot.ofFields? entries "request_timeout_secs" with
    | none =>
        rfl
    | some request =>
        cases Slot.ofFields? entries "dequeue_timeout_secs" with
        | none =>
            simp
        | some dequeue =>
            cases Slot.ofFields? entries "shutdown_grace_secs" with
            | none =>
                simp
            | some grace =>
                rfl
  rw [opened]
  simp only [Option.bind_eq_some_iff, Option.some.injEq]
  constructor
  · rintro ⟨request, one, dequeue, two, grace, three, same⟩ quantity inArea
    cases quantity with
    | requestSeconds =>
        rw [Quantity.of, ← same]
        exact (wordOf?_eq_some_iff reads).1 one
    | dequeueSeconds =>
        rw [Quantity.of, ← same]
        exact (wordOf?_eq_some_iff reads).1 two
    | graceSeconds =>
        rw [Quantity.of, ← same]
        exact (wordOf?_eq_some_iff reads).1 three
    | _ =>
        cases inArea
  · intro given
    exact ⟨_, (wordOf?_eq_some_iff reads).2 (given .requestSeconds rfl), _,
      (wordOf?_eq_some_iff reads).2 (given .dequeueSeconds rfl), _,
      (wordOf?_eq_some_iff reads).2 (given .graceSeconds rfl), rfl⟩

theorem store?_eq_some_iff (reads : form.Reads entries?)
    (shown : entries? part = some entries)
    (named : entries.all (fun entry => entry.1.isSome) = true) :
    form.store? part = some settings.store ↔
      ∀ quantity : Quantity, quantity.area = .store →
        form.numberOf? entries quantity = some (quantity.of settings) := by
  have opened : form.store? part =
      (form.shortWordOf? entries "max_connections" 5).bind fun connections =>
      (form.wordOf? entries "connect_timeout_secs" 5).bind fun connect =>
        some ⟨connections, connect⟩ := by
    rw [store?, reads.slots shown, if_pos named]
    simp only [List.mapM_cons, List.mapM_nil, wordOf?, shortWordOf?]
    cases Slot.ofFields? entries "max_connections" with
    | none =>
        rfl
    | some connections =>
        cases Slot.ofFields? entries "connect_timeout_secs" with
        | none =>
            simp
        | some connect =>
            rfl
  rw [opened]
  simp only [Option.bind_eq_some_iff, Option.some.injEq]
  constructor
  · rintro ⟨connections, one, connect, two, same⟩ quantity inArea
    cases quantity with
    | maxConnections =>
        rw [Quantity.of, ← same]
        exact (shortWordOf?_eq_some_iff reads).1 one
    | connectSeconds =>
        rw [Quantity.of, ← same]
        exact (wordOf?_eq_some_iff reads).1 two
    | _ =>
        cases inArea
  · intro given
    exact ⟨_, (shortWordOf?_eq_some_iff reads).2 (given .maxConnections rfl), _,
      (wordOf?_eq_some_iff reads).2 (given .connectSeconds rfl), rfl⟩

/-- What settings have in an area is what a document says of it. -/
def Settles (form : Form β) (settings : Settings) (slot : Slot β) : Area → Prop
  | .queue => slot.orElse .standard form.queue? = some settings.queue
  | .http => slot.orElse .standard form.http? = some settings.http
  | .store => slot.orElse .standard form.store? = some settings.store

/-- An area that a document names has the numbers that are named in it, and else
standard ones. -/
theorem settles_given_iff (reads : form.Reads entries?)
    (shown : entries? part = some entries)
    (named : entries.all (fun entry => entry.1.isSome) = true) {area : Area} :
    form.Settles settings (.given part) area ↔
      ∀ quantity : Quantity, quantity.area = area →
        form.numberOf? entries quantity = some (quantity.of settings) := by
  cases area with
  | queue =>
      exact queue?_eq_some_iff reads shown named
  | http =>
      exact http?_eq_some_iff reads shown named
  | store =>
      exact store?_eq_some_iff reads shown named

theorem Reads.slots?_eq_none (reads : form.Reads entries?)
    (shown : entries? part = some entries)
    (unnamed : entries.all (fun entry => entry.1.isSome) = false) (names : List String) :
    form.slots? names part = none := by
  rw [reads.slots shown, if_neg (ne_true_of_eq_false unnamed)]

/-- No settings are those of a part that says nothing of any quantities. -/
theorem not_settles_given (nothing : ∀ names, form.slots? names part = none)
    {area : Area} : ¬ form.Settles settings (.given part) area := by
  cases area with
  | queue =>
      simp [Settles, Slot.orElse, queue?, nothing]
  | http =>
      simp [Settles, Slot.orElse, http?, nothing]
  | store =>
      simp [Settles, Slot.orElse, store?, nothing]

/-- An area that a document does not name has the standard numbers. -/
theorem settles_unnamed_iff {area : Area} :
    form.Settles settings .unnamed area ↔ ∀ quantity : Quantity, quantity.area = area →
      quantity.of settings = quantity.of .standard := by
  cases area with
  | queue =>
      refine Option.some_inj.trans ⟨fun same quantity inArea => ?_, fun same => ?_⟩
      · cases quantity with
        | resyncSeconds | retrySeconds | bufferCapacity | selectionWindow =>
            rw [Quantity.of, ← same]
            rfl
        | _ =>
            cases inArea
      · rw [← ofNumbers_of settings, ofNumbers, same .resyncSeconds rfl,
          same .retrySeconds rfl, same .bufferCapacity rfl, same .selectionWindow rfl]
        rfl
  | http =>
      refine Option.some_inj.trans ⟨fun same quantity inArea => ?_, fun same => ?_⟩
      · cases quantity with
        | requestSeconds | dequeueSeconds | graceSeconds =>
            rw [Quantity.of, ← same]
            rfl
        | _ =>
            cases inArea
      · rw [← ofNumbers_of settings, ofNumbers, same .requestSeconds rfl,
          same .dequeueSeconds rfl, same .graceSeconds rfl]
        rfl
  | store =>
      refine Option.some_inj.trans ⟨fun same quantity inArea => ?_, fun same => ?_⟩
      · cases quantity with
        | maxConnections | connectSeconds =>
            rw [Quantity.of, ← same]
            rfl
        | _ =>
            cases inArea
      · rw [← ofNumbers_of settings, ofNumbers, same .maxConnections rfl,
          same .connectSeconds rfl]
        rfl

/-- A document gives settings if it says of each area what they have in it. -/
theorem settings?_eq_some_iff (reads : form.Reads entries?)
    (shown : entries? part = some entries) :
    form.settings? part = some settings ↔
      entries.all (fun entry => entry.1.isSome) = true ∧ ∀ area : Area, ∃ slot,
        Slot.ofFields? entries area.name = some slot ∧ form.Settles settings slot area := by
  cases named : entries.all fun entry => entry.1.isSome with
  | false =>
      rw [settings?, reads.slots shown, if_neg (ne_true_of_eq_false named)]
      simp
  | true =>
      have opened : form.settings? part =
          (Slot.ofFields? entries "queue").bind fun queue =>
          (Slot.ofFields? entries "http").bind fun http =>
          (Slot.ofFields? entries "store").bind fun store =>
          (queue.orElse .standard form.queue?).bind fun queue =>
          (http.orElse .standard form.http?).bind fun http =>
          (store.orElse .standard form.store?).bind fun store =>
            some ⟨queue, http, store⟩ := by
        rw [settings?, reads.slots shown, if_pos named]
        simp only [List.mapM_cons, List.mapM_nil]
        cases Slot.ofFields? entries "queue" with
        | none =>
            rfl
        | some queue =>
            cases Slot.ofFields? entries "http" with
            | none =>
                rfl
            | some http =>
                cases Slot.ofFields? entries "store" with
                | none =>
                    rfl
                | some store =>
                    rfl
      rw [opened]
      simp only [Option.bind_eq_some_iff, Option.some.injEq, true_and]
      constructor
      · rintro ⟨queue, queueTold, http, httpTold, store, storeTold, _, queueRead, _, httpRead,
          _, storeRead, rfl⟩ area
        cases area with
        | queue =>
            exact ⟨queue, queueTold, queueRead⟩
        | http =>
            exact ⟨http, httpTold, httpRead⟩
        | store =>
            exact ⟨store, storeTold, storeRead⟩
      · intro told
        obtain ⟨queue, queueTold, queueRead⟩ := told .queue
        obtain ⟨http, httpTold, httpRead⟩ := told .http
        obtain ⟨store, storeTold, storeRead⟩ := told .store
        exact ⟨queue, queueTold, http, httpTold, store, storeTold, _, queueRead, _, httpRead,
          _, storeRead, rfl⟩

end Part

end Form

/-! ## What documents name -/

variable {β : Type}

/-- What entries say about a name is that they do not name it, or the one value that they
have for it. -/
theorem ofFields?_eq_some_iff {entries : List (Option String × β)} {name : String}
    {slot : Slot β} :
    Slot.ofFields? entries name = some slot ↔
      (Slot.valuesOf name entries = [] ∧ slot = .unnamed) ∨
        ∃ value, Slot.valuesOf name entries = [value] ∧ slot = .given value := by
  unfold Slot.ofFields?
  match Slot.valuesOf name entries with
  | [] =>
      simp [eq_comm]
  | [value] =>
      simp [eq_comm]
  | first :: second :: rest =>
      simp

theorem Form.numberOf?_eq_some_iff {form : Form β} {entries : List (Option String × β)}
    {quantity : Quantity} {number : Nat} :
    form.numberOf? entries quantity = some number ↔
      (Slot.valuesOf quantity.name entries = [] ∧ quantity.of .standard = number) ∨
        ∃ value, Slot.valuesOf quantity.name entries = [value] ∧
          form.number? quantity.limit value = some number := by
  simp only [numberOf?, Option.bind_eq_some_iff, ofFields?_eq_some_iff]
  constructor
  · rintro ⟨slot, ⟨absent, rfl⟩ | ⟨value, only, rfl⟩, told⟩
    · exact Or.inl ⟨absent, Option.some.inj told⟩
    · exact Or.inr ⟨value, only, told⟩
  · rintro (⟨absent, rfl⟩ | ⟨value, only, told⟩)
    · exact ⟨.unnamed, Or.inl ⟨absent, rfl⟩, rfl⟩
    · exact ⟨.given value, Or.inr ⟨value, only, rfl⟩, told⟩

section Document

variable (entries? : β → Option (List (Option String × β))) (document : β)

/-- The parts that a document has under the name of an area. -/
def partsOf (area : Area) : List β :=
  Slot.valuesOf area.name ((entries? document).getD [])

/-- The values that a document has, in the parts for its area, under the name of a
quantity. -/
def valuesOf (quantity : Quantity) : List β :=
  (partsOf entries? document quantity.area).flatMap fun part =>
    Slot.valuesOf quantity.name ((entries? part).getD [])

/-- Whether a document names a quantity. -/
def names (quantity : Quantity) : Bool := !(valuesOf entries? document quantity).isEmpty

/-- A part has entries, and all their names can be read. -/
def Readable (part : β) : Prop :=
  (entries? part).any (fun entries => entries.all fun entry => entry.1.isSome) = true

/-- A document is made of named parts, in any order. It names no area and no quantity
twice, and gives those quantities that it names the numbers that some settings have. -/
structure Overlays (form : Form β) (settings : Settings) : Prop where
  readable : Readable entries? document
  parts (area : Area) : ∀ part ∈ partsOf entries? document area, Readable entries? part
  areasOnce (area : Area) : (partsOf entries? document area).length ≤ 1
  quantitiesOnce (quantity : Quantity) : (valuesOf entries? document quantity).length ≤ 1
  agrees (quantity : Quantity) : ∀ value ∈ valuesOf entries? document quantity,
    form.number? quantity.limit value = some (quantity.of settings)

instance (part : β) : Decidable (Readable entries? part) :=
  inferInstanceAs (Decidable (_ = true))

instance (form : Form β) (settings : Settings) :
    Decidable (Overlays entries? document form settings) :=
  decidable_of_iff
    (Readable entries? document ∧
      (∀ area, (∀ part ∈ partsOf entries? document area, Readable entries? part) ∧
        (partsOf entries? document area).length ≤ 1) ∧
      ∀ quantity, (valuesOf entries? document quantity).length ≤ 1 ∧
        ∀ value ∈ valuesOf entries? document quantity,
          form.number? quantity.limit value = some (quantity.of settings))
    ⟨fun ⟨readable, areas, quantities⟩ =>
      ⟨readable, fun area => (areas area).1, fun area => (areas area).2,
        fun quantity => (quantities quantity).1, fun quantity => (quantities quantity).2⟩,
    fun overlays =>
      ⟨overlays.readable, fun area => ⟨overlays.parts area, overlays.areasOnce area⟩,
        fun quantity => ⟨overlays.quantitiesOnce quantity, overlays.agrees quantity⟩⟩⟩

/-- A document names an area or a quantity twice, gives a quantity something that is no
number below its limit or an area something that has no parts, or has a name that cannot
be read where it names areas or quantities. -/
inductive Faulty (form : Form β) : Prop
  | area (area : Area) (repeated : 1 < (partsOf entries? document area).length)
  | quantity (quantity : Quantity)
      (repeated : 1 < (valuesOf entries? document quantity).length)
  | value (quantity : Quantity) {value : β}
      (given : value ∈ valuesOf entries? document quantity)
      (unfit : form.number? quantity.limit value = none)
  | name {entries : List (Option String × β)} (shown : entries? document = some entries)
      (unnamed : entries.all (fun entry => entry.1.isSome) = false)
  | nameWithin {area : Area} {part : β} (given : part ∈ partsOf entries? document area)
      {entries : List (Option String × β)} (shown : entries? part = some entries)
      (unnamed : entries.all (fun entry => entry.1.isSome) = false)
  | shape {area : Area} {part : β} (given : part ∈ partsOf entries? document area)
      (nothing : ∀ names, form.slots? names part = none)

variable {entries?} {document} {form : Form β}

theorem Readable.exists_entries {part : β} (readable : Readable entries? part) :
    ∃ entries, entries? part = some entries ∧
      entries.all (fun entry => entry.1.isSome) = true := by
  unfold Readable at readable
  cases shown : entries? part with
  | none =>
      rw [shown] at readable
      cases readable
  | some entries =>
      rw [shown] at readable
      exact ⟨entries, rfl, readable⟩

theorem partsOf_eq {entries : List (Option String × β)}
    (shown : entries? document = some entries) (area : Area) :
    partsOf entries? document area = Slot.valuesOf area.name entries := by
  rw [partsOf, shown, Option.getD_some]

theorem valuesOf_of_unnamed {quantity : Quantity}
    (unnamed : partsOf entries? document quantity.area = []) :
    valuesOf entries? document quantity = [] := by
  rw [valuesOf, unnamed, List.flatMap_nil]

theorem valuesOf_of_named {quantity : Quantity} {part : β}
    {entries : List (Option String × β)}
    (only : partsOf entries? document quantity.area = [part])
    (shown : entries? part = some entries) :
    valuesOf entries? document quantity = Slot.valuesOf quantity.name entries := by
  rw [valuesOf, only, List.flatMap_singleton, shown, Option.getD_some]

theorem eq_nil_or_eq_singleton {row : List β} (once : row.length ≤ 1) :
    row = [] ∨ ∃ value, row = [value] :=
  (Nat.le_one_iff_eq_zero_or_eq_one.1 once).imp List.eq_nil_of_length_eq_zero
    List.length_eq_one_iff.1

/-- A quantity has the number that settings have for it, if it is named, and else the
standard one. -/
theorem Overlays.numberOf?_eq {settings : Settings}
    (overlays : Overlays entries? document form settings) {quantity : Quantity} {part : β}
    {entries : List (Option String × β)}
    (only : partsOf entries? document quantity.area = [part])
    (shown : entries? part = some entries) :
    form.numberOf? entries quantity =
      some (quantity.of (overlay settings (names entries? document))) := by
  rw [Form.numberOf?_eq_some_iff, ← valuesOf_of_named only shown, of_overlay, names]
  rcases eq_nil_or_eq_singleton (overlays.quantitiesOnce quantity) with none | ⟨value, one⟩
  · rw [none]
    exact Or.inl ⟨rfl, rfl⟩
  · have agrees := overlays.agrees quantity value (one ▸ List.mem_singleton_self value)
    rw [one]
    exact Or.inr ⟨value, rfl, agrees⟩

/-- A document that names some quantities as settings have them gives these settings there,
and standard ones elsewhere. -/
theorem Overlays.settings?_eq {settings : Settings} (reads : form.Reads entries?)
    (overlays : Overlays entries? document form settings) :
    form.settings? document = some (overlay settings (names entries? document)) := by
  obtain ⟨entries, shown, named⟩ := overlays.readable.exists_entries
  refine (Form.settings?_eq_some_iff reads shown).2 ⟨named, fun area => ?_⟩
  have parts := partsOf_eq shown area
  rcases eq_nil_or_eq_singleton (overlays.areasOnce area) with none | ⟨part, one⟩
  · refine ⟨.unnamed, ofFields?_eq_some_iff.2 (Or.inl ⟨parts ▸ none, rfl⟩), ?_⟩
    refine Form.settles_unnamed_iff.2 ?_
    rintro quantity rfl
    rw [of_overlay, names, valuesOf_of_unnamed none]
    rfl
  · obtain ⟨partEntries, partShown, partNamed⟩ :=
      (overlays.parts area part (one ▸ List.mem_singleton_self part)).exists_entries
    refine ⟨.given part, ofFields?_eq_some_iff.2 (Or.inr ⟨part, parts ▸ one, rfl⟩), ?_⟩
    refine (Form.settles_given_iff reads partShown partNamed).2 ?_
    rintro quantity rfl
    exact overlays.numberOf?_eq one partShown

/-- Of a document that gives settings, every area was read of the one part that the
document has for it, if it has any. -/
theorem settles_of_settings?_eq_some {settings : Settings} (reads : form.Reads entries?)
    (read : form.settings? document = some settings) {area : Area} {part : β}
    (given : part ∈ partsOf entries? document area) :
    partsOf entries? document area = [part] ∧ form.Settles settings (.given part) area := by
  cases shown : entries? document with
  | none =>
      rw [partsOf, shown] at given
      cases given
  | some entries =>
      have parts := partsOf_eq shown area
      obtain ⟨_, told⟩ := (Form.settings?_eq_some_iff reads shown).1 read
      obtain ⟨slot, found, settles⟩ := told area
      rcases ofFields?_eq_some_iff.1 found with ⟨unnamed, _⟩ | ⟨only, alone, rfl⟩
      · rw [parts, unnamed] at given
        cases given
      · rw [parts, alone] at given
        cases List.mem_singleton.1 given
        exact ⟨parts.trans alone, settles⟩

/-- Every quantity that it names was read of the one value that it has for it. -/
theorem fits_of_settings?_eq_some {settings : Settings} (reads : form.Reads entries?)
    (read : form.settings? document = some settings) {quantity : Quantity} {value : β}
    (given : value ∈ valuesOf entries? document quantity) :
    valuesOf entries? document quantity = [value] ∧
      form.number? quantity.limit value = some (quantity.of settings) := by
  obtain ⟨part, partGiven, within⟩ := List.mem_flatMap.1 given
  obtain ⟨alone, settles⟩ := settles_of_settings?_eq_some reads read partGiven
  cases shown : entries? part with
  | none =>
      rw [shown] at within
      cases within
  | some entries =>
      have values := valuesOf_of_named alone shown
      cases named : entries.all fun entry => entry.1.isSome with
      | false =>
          exact absurd settles (Form.not_settles_given (reads.slots?_eq_none shown named))
      | true =>
          have told := (Form.settles_given_iff reads shown named).1 settles quantity rfl
          rcases Form.numberOf?_eq_some_iff.1 told with ⟨unnamed, _⟩ | ⟨only, single, fits⟩
          · rw [values, unnamed] at given
            cases given
          · rw [values, single] at given
            cases List.mem_singleton.1 given
            exact ⟨values.trans single, fits⟩

/-- A faulty document gives no settings. -/
theorem Faulty.settings?_eq_none (reads : form.Reads entries?)
    (faulty : Faulty entries? document form) : form.settings? document = none := by
  refine Option.eq_none_iff_forall_ne_some.2 fun settings read => ?_
  cases faulty with
  | area area repeated =>
      obtain ⟨part, given⟩ := List.exists_mem_of_length_pos (Nat.zero_lt_of_lt repeated)
      rw [(settles_of_settings?_eq_some reads read given).1] at repeated
      exact Nat.lt_irrefl 1 repeated
  | quantity quantity repeated =>
      obtain ⟨value, given⟩ := List.exists_mem_of_length_pos (Nat.zero_lt_of_lt repeated)
      rw [(fits_of_settings?_eq_some reads read given).1] at repeated
      exact Nat.lt_irrefl 1 repeated
  | value quantity given unfit =>
      rw [(fits_of_settings?_eq_some reads read given).2] at unfit
      cases unfit
  | name shown unnamed =>
      rw [((Form.settings?_eq_some_iff reads shown).1 read).1] at unnamed
      cases unnamed
  | nameWithin given shown unnamed =>
      exact Form.not_settles_given (reads.slots?_eq_none shown unnamed)
        (settles_of_settings?_eq_some reads read given).2
  | shape given nothing =>
      exact Form.not_settles_given nothing (settles_of_settings?_eq_some reads read given).2

end Document

end StalestFirst.Settings
