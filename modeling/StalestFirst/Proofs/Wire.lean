import Mathlib
import StalestFirst.Proofs.Json.Reader
import StalestFirst.Proofs.Json.Record
import StalestFirst.Proofs.Moment.Written
import StalestFirst.Proofs.NameMap
import StalestFirst.Wire.Envelope
import StalestFirst.Wire.Settings

namespace StalestFirst

open Json

/-! ## Coming through the wire

Values that are written as plain JSON and are read back from it come through texts and
bytes. -/

/-- The values of a type are written as plain JSON, and never as null. -/
class PlainWire (α : Type) [Wire α] : Prop where
  plain (value : α) : (Wire.toJson value).Plain
  present (value : α) : Wire.toJson value ≠ .null

/-- The values of a type are read back from what they are written as. -/
class LawfulWire (α : Type) [Wire α] : Prop extends PlainWire α where
  ofJson?_toJson (value : α) : Wire.ofJson? (Wire.toJson value) = some value

namespace Wire

variable {α : Type} [Wire α]

/-- The text of one value is read as another, be it given as characters or as bytes. -/
def ReadAs (value other : α) : Prop :=
  ofText? (print value) = some other ∧
    ofBytes? (Text.Utf8.encode (print value).toList) = some other

theorem readAs_iff [PlainWire α] {value other : α} :
    ReadAs value other ↔ ofJson? (toJson value) = some other := by
  have plain : (toJson value).Plain := PlainWire.plain value
  have text : (ofText? (print value) : Option α) = ofJson? (toJson value) := by
    rw [ofText?, print, Json.ofText?_print plain, Option.bind_some]
  have bytes : (ofBytes? (Text.Utf8.encode (print value).toList) : Option α) =
      ofJson? (toJson value) := by
    rw [ofBytes?, print, Json.ofBytes?_encode_print plain, Option.bind_some]
  rw [ReadAs, text, bytes, and_self]

theorem readAs_self [LawfulWire α] (value : α) : ReadAs value value :=
  readAs_iff.2 (LawfulWire.ofJson?_toJson value)

theorem ofText?_print [LawfulWire α] (value : α) : ofText? (print value) = some value :=
  (readAs_self value).1

theorem ofBytes?_encode_print [LawfulWire α] (value : α) :
    ofBytes? (Text.Utf8.encode (print value).toList) = some value :=
  (readAs_self value).2

end Wire

/-! ### Fields -/

theorem Json.nullable?_of_ne {α : Type} (read : Json → Option α) {json : Json}
    (present : json ≠ .null) : nullable? read json = (read json).map some := by
  cases json with
  | null =>
      exact absurd rfl present
  | _ =>
      rfl

namespace Slot

variable {α β : Type} (default : α) (read : β → Option α) (value : β)

@[simp]
theorem required_given : required read (.given value) = read value :=
  rfl

@[simp]
theorem orElse_given : orElse default read (.given value) = read value :=
  rfl

theorem ofOption_some : ofOption (some value) = .given value :=
  rfl

end Slot

section

variable {α : Type} [Wire α]

theorem plain_unless [PlainWire α] (omitted : Bool) (value : α) :
    ∀ json ∈ if omitted then none else some (Wire.toJson value), json.Plain := by
  cases omitted with
  | true =>
      nofun
  | false =>
      rintro _ ⟨⟩
      exact PlainWire.plain value

/-- A field that is left out for its default is read back. -/
theorem Slot.orElse_unless [LawfulWire α] {default value : α} {omitted : Bool}
    (same : omitted = true → value = default) :
    orElse default Wire.ofJson?
        (ofOption (if omitted then none else some (Wire.toJson value))) = some value := by
  cases omitted with
  | true =>
      rw [same rfl]
      rfl
  | false =>
      exact LawfulWire.ofJson?_toJson value

variable {value : Option α}

theorem plain_option (plain : ∀ given ∈ value, (Wire.toJson given).Plain) :
    ∀ json ∈ value.map Wire.toJson, json.Plain := by
  rintro json written
  obtain ⟨given, isValue, rfl⟩ := Option.map_eq_some_iff.1 written
  exact plain given isValue

/-- A field that is left out for want of a value is read back, even where no row may end
before it. -/
theorem Slot.read_option (present : ∀ given ∈ value, Wire.toJson given ≠ .null)
    (read : ∀ given ∈ value, Wire.ofJson? (Wire.toJson given) = some given) :
    orElse none (nullable? Wire.ofJson?) (ofOption (value.map Wire.toJson)) = some value ∧
      orUnnamed none (nullable? Wire.ofJson?) (ofOption (value.map Wire.toJson)) =
        some value := by
  cases value with
  | none =>
      exact ⟨rfl, rfl⟩
  | some value =>
      have read : nullable? Wire.ofJson? (Wire.toJson value) = some (some value) := by
        rw [nullable?_of_ne _ (present value rfl), read value rfl, Option.map_some]
      exact ⟨read, read⟩

theorem Slot.orElse_option [LawfulWire α] (value : Option α) :
    orElse none (nullable? Wire.ofJson?) (ofOption (value.map Wire.toJson)) = some value :=
  (read_option (fun given _ => PlainWire.present given)
    fun given _ => LawfulWire.ofJson?_toJson given).1

end

theorem NameMap.eq_empty_of_isEmpty {α : Type} {map : NameMap α}
    (isEmpty : map.isEmpty = true) : map = empty :=
  ext (List.isEmpty_iff.1 isEmpty)

/-! ### Values -/

instance : LawfulWire String where
  plain _ := trivial
  present _ := nofun
  ofJson?_toJson _ := rfl

theorem Json.natBelow?_natCast {limit number : Nat} (below : number < limit) :
    natBelow? limit (.integer number) = some number := by
  simp [natBelow?, integer?, below]

instance : LawfulWire UInt64 where
  plain _ := trivial
  present _ := nofun
  ofJson?_toJson value := by
    have below : value.toNat < 18446744073709551616 := value.toNat_lt
    change word? (.integer value.toNat) = some value
    rw [word?, natBelow?_natCast below, Option.map_some, UInt64.ofNat_toNat]

instance : PlainWire Moment where
  plain _ := trivial
  present _ := nofun

theorem Moment.ofJson?_toJson (moment : Moment) :
    Wire.ofJson? (Wire.toJson moment) = some moment.asWritten := by
  have text : (Wire.toJson moment).text? = some moment.print := rfl
  change ((Wire.toJson moment).text?.bind fun text => Moment.read? text.toList) = _
  rw [text, Option.bind_some, Moment.print, String.toList_ofList, moment.read?_written]

/-- A moment that may be left out is read back as it is written. -/
theorem Slot.orElse_moment (moment? : Option Moment) :
    orElse none (nullable? Wire.ofJson?) (ofOption (moment?.map Wire.toJson)) =
      some (moment?.map Moment.asWritten) := by
  cases moment? with
  | none =>
      rfl
  | some moment =>
      rw [Option.map_some, Option.map_some, ofOption_some, orElse_given,
        nullable?_of_ne _ (PlainWire.present moment), moment.ofJson?_toJson, Option.map_some]

instance : LawfulWire Int64 where
  plain _ := trivial
  present _ := nofun
  ofJson?_toJson value := by
    have above := value.le_toInt
    have below := value.toInt_lt
    have inRange : -9223372036854775808 ≤ value.toInt ∧ value.toInt ≤ 9223372036854775807 :=
      ⟨by omega, by omega⟩
    change signedWord? (.integer value.toInt) = some value
    rw [signedWord?, integer?, Option.bind_some, if_pos inRange, Int64.ofInt_toInt]

instance {α : Type} [Wire α] [PlainWire α] : PlainWire (NameMap α) where
  plain map := by
    refine plain_record fun field member => ?_
    obtain ⟨entry, _, rfl⟩ := List.mem_map.1 member
    exact PlainWire.plain entry.2
  present _ := nofun

instance {α : Type} [Wire α] [LawfulWire α] : LawfulWire (NameMap α) where
  ofJson?_toJson map := by
    have read : ∀ entries : List (String × α),
        (entries.map fun entry => (some entry.1, Wire.toJson entry.2)).mapM
          (namedValue? Wire.ofJson?) = some entries := by
      intro entries
      induction entries with
      | nil =>
          rfl
      | cons entry rest inductionHypothesis =>
          have named : namedValue? Wire.ofJson? (some entry.1, Wire.toJson entry.2) =
              some entry := by
            rw [namedValue?, Option.bind_some, LawfulWire.ofJson?_toJson, Option.map_some]
          rw [List.map_cons, List.mapM_cons, named, inductionHypothesis]
          rfl
    change nameMap? Wire.ofJson? (record _) = _
    rw [record, List.map_map, nameMap?]
    exact (congrArg _ (read map.entries)).trans (congrArg some map.ofList_entries)

/-! ### Messages -/

instance : LawfulWire Item where
  plain item := plain_record (by simp [PlainWire.plain])
  present _ := nofun
  ofJson?_toJson item := by
    have slots : slots? ["Id", "Score"] (Wire.toJson item) =
        some [.given (Wire.toJson item.id), .given (Wire.toJson item.score)] := rfl
    change slots? ["Id", "Score"] (Wire.toJson item) >>= _ = _
    rw [slots]
    simp [LawfulWire.ofJson?_toJson]

/-- The fields of a box, those left out included. -/
def MessageBox.fields (box : MessageBox) : List (String × Option Json) := [
  ("Id", if box.id == "" then none else some (Wire.toJson box.id)),
  ("CreatedAt", box.createdAt.map Wire.toJson),
  ("Body", if box.body == "" then none else some (Wire.toJson box.body)),
  ("EmojiFeedbacks",
    if box.reactions.isEmpty then none else some (Wire.toJson box.reactions)),
  ("LastViewed", box.lastViewed.map Wire.toJson)]

theorem MessageBox.toJson_eq (box : MessageBox) :
    Wire.toJson box = record (kept box.fields) := by
  obtain ⟨id, createdAt, body, reactions, lastViewed⟩ := box
  have written : Wire.toJson (MessageBox.mk id createdAt body reactions lastViewed) =
      record (fieldUnless (id == "") "Id" (Wire.toJson id) ++
        ((createdAt.map Wire.toJson).map fun json => ("CreatedAt", json)).toList ++
        fieldUnless (body == "") "Body" (Wire.toJson body) ++
        fieldUnless reactions.isEmpty "EmojiFeedbacks" (Wire.toJson reactions) ++
        ((lastViewed.map Wire.toJson).map fun json => ("LastViewed", json)).toList) := by
    cases createdAt with
    | none =>
        cases lastViewed with
        | none =>
            rfl
        | some moment =>
            rfl
    | some moment =>
        cases lastViewed with
        | none =>
            rfl
        | some moment =>
            rfl
  have none : kept [] = [] := rfl
  rw [written, fields, kept_unless, kept_cons, kept_unless, kept_unless, kept_cons, none]
  simp only [List.append_nil, List.append_assoc]

instance : PlainWire MessageBox where
  plain box := by
    rw [box.toJson_eq]
    refine plain_kept ?_
    simp only [MessageBox.fields, List.forall_mem_cons]
    exact ⟨plain_unless _ _, plain_option fun _ _ => trivial, plain_unless _ _,
      plain_unless _ _, plain_option fun _ _ => trivial, nofun⟩
  present _ := nofun

namespace MessageBox

/-- A box with its moments as they are written. -/
def asWritten (box : MessageBox) : MessageBox :=
  { box with
    createdAt := box.createdAt.map Moment.asWritten
    lastViewed := box.lastViewed.map Moment.asWritten }

/-- A box is read back from its fields with its moments as they are written. -/
theorem ofJson?_toJson (box : MessageBox) :
    Wire.ofJson? (Wire.toJson box) = some box.asWritten := by
  have distinct : (box.fields.map Prod.fst).Nodup := by
    change ["Id", "CreatedAt", "Body", "EmojiFeedbacks", "LastViewed"].Nodup
    decide
  refine (bind_slots?_kept box.toJson_eq distinct _).trans ?_
  simp only [fields, List.map_cons, List.map_nil, Option.bind_eq_bind, Option.bind_some,
    Slot.orElse_unless eq_of_beq, Slot.orElse_moment,
    Slot.orElse_unless NameMap.eq_empty_of_isEmpty, Option.pure_def]
  rfl

/-- Whether the calendar has the leap seconds that the moments of a box lie in. -/
def LeapsEndMinutes (box : MessageBox) : Prop :=
  (∀ moment ∈ box.createdAt, moment.LeapEndsMinute) ∧
    ∀ moment ∈ box.lastViewed, moment.LeapEndsMinute

theorem map_asWritten_eq_self_iff {moment? : Option Moment} :
    moment?.map Moment.asWritten = moment? ↔ ∀ moment ∈ moment?, moment.LeapEndsMinute := by
  cases moment? with
  | none =>
      simp
  | some moment =>
      simp [Moment.asWritten_eq_self_iff]

theorem asWritten_eq_self_iff {box : MessageBox} :
    box.asWritten = box ↔ box.LeapsEndMinutes := by
  obtain ⟨id, createdAt, body, reactions, lastViewed⟩ := box
  simp [asWritten, LeapsEndMinutes, map_asWritten_eq_self_iff]

end MessageBox

instance : LawfulWire BoxDraft where
  plain draft := plain_record (by simp [PlainWire.plain])
  present _ := nofun
  ofJson?_toJson draft := by
    have slots : slots? ["Body"] (Wire.toJson draft) = some [.given (Wire.toJson draft.body)] :=
      rfl
    change slots? ["Body"] (Wire.toJson draft) >>= _ = _
    rw [slots]
    simp [LawfulWire.ofJson?_toJson]

/-- The fields of reactions, those left out included. -/
def Reactions.fields (reactions : Reactions) : List (String × Option Json) := [
  ("Id", if reactions.id == "" then none else some (Wire.toJson reactions.id)),
  ("EmojiFeedbacks",
    if reactions.tallies.isEmpty then none else some (Wire.toJson reactions.tallies))]

theorem Reactions.toJson_eq (reactions : Reactions) :
    Wire.toJson reactions = record (kept reactions.fields) := by
  have none : kept [] = [] := rfl
  rw [fields, kept_unless, kept_unless, none, List.append_nil]
  rfl

instance : LawfulWire Reactions where
  plain reactions := by
    rw [reactions.toJson_eq]
    refine plain_kept ?_
    simp only [Reactions.fields, List.forall_mem_cons]
    exact ⟨plain_unless _ _, plain_unless _ _, nofun⟩
  present _ := nofun
  ofJson?_toJson reactions := by
    have distinct : (reactions.fields.map Prod.fst).Nodup := by
      change ["Id", "EmojiFeedbacks"].Nodup
      decide
    refine (bind_slots?_kept reactions.toJson_eq distinct _).trans ?_
    simp only [Reactions.fields, List.map_cons, List.map_nil, Option.bind_eq_bind,
      Option.bind_some, Slot.orElse_unless eq_of_beq,
      Slot.orElse_unless NameMap.eq_empty_of_isEmpty, Option.pure_def]

instance : LawfulWire Accepted where
  plain _ := trivial
  present _ := nofun
  ofJson?_toJson _ := rfl

instance : LawfulWire Drawn where
  plain drawn := plain_record (by simp [PlainWire.plain])
  present _ := nofun
  ofJson?_toJson drawn := by
    have slots : slots? ["Id"] (Wire.toJson drawn) = some [.given (Wire.toJson drawn.id)] :=
      rfl
    change slots? ["Id"] (Wire.toJson drawn) >>= _ = _
    rw [slots]
    simp [LawfulWire.ofJson?_toJson]

instance : LawfulWire Metadata where
  plain metadata := plain_record (by simp [PlainWire.plain])
  present _ := nofun
  ofJson?_toJson metadata := by
    have slots : slots? ["Action", "Version"] (Wire.toJson metadata) =
        some [.given (Wire.toJson metadata.action), .given (Wire.toJson metadata.version)] :=
      rfl
    change slots? ["Action", "Version"] (Wire.toJson metadata) >>= _ = _
    rw [slots]
    simp [LawfulWire.ofJson?_toJson]

/-- The fields of an error, those left out included. -/
def ErrorBody.fields (error : ErrorBody) : List (String × Option Json) := [
  ("Code", some (Wire.toJson error.code)),
  ("Message", some (Wire.toJson error.message)),
  ("Data", if error.data.isEmpty then none else some (Wire.toJson error.data))]

theorem ErrorBody.toJson_eq (error : ErrorBody) :
    Wire.toJson error = record (kept error.fields) := by
  have none : kept [] = [] := rfl
  rw [fields, kept_cons, kept_cons, kept_unless, none, List.append_nil]
  rfl

instance : LawfulWire ErrorBody where
  plain error := by
    rw [error.toJson_eq]
    refine plain_kept ?_
    simp only [ErrorBody.fields, List.forall_mem_cons]
    exact ⟨fun _ given => Option.some.inj given ▸ PlainWire.plain error.code,
      fun _ given => Option.some.inj given ▸ PlainWire.plain error.message,
      plain_unless _ _, nofun⟩
  present _ := nofun
  ofJson?_toJson error := by
    have distinct : (error.fields.map Prod.fst).Nodup := by
      change ["Code", "Message", "Data"].Nodup
      decide
    refine (bind_slots?_kept error.toJson_eq distinct _).trans ?_
    simp only [ErrorBody.fields, List.map_cons, List.map_nil, Slot.ofOption_some,
      Option.bind_eq_bind, Option.bind_some, Slot.required_given, Slot.orElse_given,
      LawfulWire.ofJson?_toJson, Slot.orElse_unless NameMap.eq_empty_of_isEmpty,
      Option.pure_def]

namespace Envelope

variable {α : Type} [Wire α]

/-- The fields of an envelope, those left out included. -/
def fields (envelope : Envelope α) : List (String × Option Json) := [
  ("ResponseMetadata", some (Wire.toJson envelope.metadata)),
  ("Result", envelope.result.map Wire.toJson),
  ("Error", envelope.error.map Wire.toJson)]

theorem toJson_eq (envelope : Envelope α) :
    Wire.toJson envelope = record (kept envelope.fields) := by
  obtain ⟨metadata, result, error⟩ := envelope
  cases result with
  | none =>
      cases error with
      | none =>
          rfl
      | some error =>
          rfl
  | some result =>
      cases error with
      | none =>
          rfl
      | some error =>
          rfl

variable {envelope : Envelope α}

theorem plain_toJson (plain : ∀ result ∈ envelope.result, (Wire.toJson result).Plain) :
    (Wire.toJson envelope).Plain := by
  rw [envelope.toJson_eq]
  refine plain_kept ?_
  simp only [fields, List.forall_mem_cons]
  exact ⟨fun _ given => Option.some.inj given ▸ PlainWire.plain envelope.metadata,
    plain_option plain, plain_option fun error _ => PlainWire.plain error, nofun⟩

/-- An envelope is read back if its result is. -/
theorem ofJson?_toJson (present : ∀ result ∈ envelope.result, Wire.toJson result ≠ .null)
    (read : ∀ result ∈ envelope.result,
      Wire.ofJson? (Wire.toJson result) = some result) :
    Wire.ofJson? (Wire.toJson envelope) = some envelope := by
  have distinct : (envelope.fields.map Prod.fst).Nodup := by
    change ["ResponseMetadata", "Result", "Error"].Nodup
    decide
  refine (bind_slots?_kept envelope.toJson_eq distinct _).trans ?_
  simp only [fields, List.map_cons, List.map_nil, Option.bind_eq_bind, Option.bind_some,
    Slot.ofOption_some, Slot.orElse_given, LawfulWire.ofJson?_toJson,
    (Slot.read_option present read).2, Slot.orElse_option, Option.pure_def]

instance [PlainWire α] : PlainWire (Envelope α) where
  plain _ := plain_toJson fun result _ => PlainWire.plain result
  present _ := nofun

instance [LawfulWire α] : LawfulWire (Envelope α) where
  ofJson?_toJson _ := ofJson?_toJson (fun result _ => PlainWire.present result)
    fun result _ => LawfulWire.ofJson?_toJson result

/-- An envelope with any plain JSON but null is read back from its text. -/
theorem ofText?_print_json {envelope : Envelope Json}
    (plain : ∀ json ∈ envelope.result, json.Plain)
    (present : ∀ json ∈ envelope.result, json ≠ .null) :
    Wire.ofText? (Wire.print envelope) = some envelope := by
  have read := Json.ofText?_print (plain_toJson plain)
  rw [Wire.ofText?, Wire.print, read]
  exact ofJson?_toJson present fun _ _ => rfl

end Envelope

/-! ### Findings -/

instance : LawfulWire Severity where
  plain severity := by
    cases severity with
    | warning =>
        trivial
    | error =>
        trivial
  present severity := by
    cases severity with
    | warning =>
        nofun
    | error =>
        nofun
  ofJson?_toJson severity := by
    cases severity with
    | warning =>
        rfl
    | error =>
        rfl

instance : LawfulWire Finding where
  plain finding := plain_record (by simp [PlainWire.plain])
  present _ := nofun
  ofJson?_toJson finding := by
    have slots : slots? ["level", "message"] (Wire.toJson finding) =
        some [.given (Wire.toJson finding.severity), .given (Wire.toJson finding.message)] :=
      rfl
    change slots? ["level", "message"] (Wire.toJson finding) >>= _ = _
    rw [slots]
    simp [LawfulWire.ofJson?_toJson]

/-! ## Coming back

Every message comes back from its text, but a leap second that ends no minute comes back as
the second after it. -/

namespace Wire

/-- The values of a type are read back from the texts that they are written as. -/
def ComesBack (α : Type) [Wire α] : Prop := ∀ value : α, ReadAs value value

theorem readAs_asWritten (box : MessageBox) : ReadAs box box.asWritten :=
  readAs_iff.2 box.ofJson?_toJson

theorem readAs_self_iff {box : MessageBox} : ReadAs box box ↔ box.LeapsEndMinutes := by
  rw [readAs_iff, box.ofJson?_toJson, Option.some.injEq, MessageBox.asWritten_eq_self_iff]

/-- Whatever may be in a message, reading undoes writing, unless a box has a leap second
that ends no minute. -/
theorem messages_come_back :
    (∀ box : MessageBox,
      (ReadAs box box ↔ box.LeapsEndMinutes) ∧ ReadAs box box.asWritten) ∧
      ComesBack Item ∧ ComesBack BoxDraft ∧ ComesBack Reactions ∧
      ComesBack Accepted ∧ ComesBack Drawn ∧ ComesBack ErrorBody ∧ ComesBack Metadata ∧
      ComesBack Finding ∧ ComesBack (Envelope Drawn) ∧ ComesBack (Envelope Accepted) :=
  ⟨fun box => ⟨readAs_self_iff, readAs_asWritten box⟩, readAs_self, readAs_self, readAs_self,
    readAs_self, readAs_self, readAs_self, readAs_self, readAs_self, readAs_self, readAs_self⟩

/-- A third of a leap second after 23:56:04 is written and read as a third of a second after
23:56:05. -/
theorem leap_second_inside_minute_moves :
    let leap : Moment := ⟨86164, 1333333333, by decide, by decide⟩
    let next : Moment := ⟨86165, 333333333, by decide, by decide⟩
    leap.print = "1970-01-01T23:56:05.333333333Z" ∧
    ReadAs (MessageBox.create "a" "" leap) (MessageBox.create "a" "" next) ∧
    ¬ ReadAs (MessageBox.create "a" "" leap) (MessageBox.create "a" "" leap) := by
  intro leap next
  have written : leap.print = "1970-01-01T23:56:05.333333333Z" := by
    decide
  have moved : (MessageBox.create "a" "" leap).asWritten = MessageBox.create "a" "" next := by
    decide
  have stray : ¬ leap.LeapEndsMinute := by
    decide
  refine ⟨written, moved ▸ readAs_asWritten _, fun same => stray ?_⟩
  exact (readAs_self_iff.1 same).1 leap rfl

end Wire

end StalestFirst
