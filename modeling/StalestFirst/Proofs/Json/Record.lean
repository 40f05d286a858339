import Mathlib
import StalestFirst.Json.Record
import StalestFirst.Proofs.Json.Tokens
import StalestFirst.Wire.Basic

namespace StalestFirst

/-! ## Records with fields left out

Of a record that was written without some of its fields, every field is read back as
what it was, or as one that nothing was said of. -/

/-- What a record says of a field that it may leave out. -/
def Slot.ofOption {β : Type} : Option β → Slot β
  | none => .unnamed
  | some value => .given value

namespace Json

/-- The fields that are not left out. -/
def kept (fields : List (String × Option Json)) : List (String × Json) :=
  fields.flatMap fun field => (field.2.map fun value => (field.1, value)).toList

/-- What the fields that are not left out have for a name. -/
def keptValues (name : String) (fields : List (String × Option Json)) : List Json :=
  Slot.valuesOf name ((kept fields).map fun field => (some field.1, field.2))

variable {name : String} {fields : List (String × Option Json)}

theorem keptValues_cons (field : String × Option Json) :
    keptValues name (field :: fields) =
      (if field.1 = name then field.2.toList else []) ++ keptValues name fields := by
  obtain ⟨other, value⟩ := field
  cases value with
  | none =>
      simp [keptValues, kept]
  | some value =>
      by_cases same : other = name
      · simp [keptValues, kept, Slot.valuesOf, same]
      · simp [keptValues, kept, Slot.valuesOf, same]

theorem keptValues_of_notMem (absent : name ∉ fields.map Prod.fst) :
    keptValues name fields = [] := by
  induction fields with
  | nil =>
      rfl
  | cons field others inductionHypothesis =>
      rw [List.map_cons, List.mem_cons, not_or] at absent
      rw [keptValues_cons, if_neg (Ne.symm absent.1), inductionHypothesis absent.2,
        List.nil_append]

theorem keptValues_of_mem (distinct : (fields.map Prod.fst).Nodup)
    {field : String × Option Json} (member : field ∈ fields) :
    keptValues field.1 fields = field.2.toList := by
  induction fields with
  | nil =>
      cases member
  | cons first others inductionHypothesis =>
      rw [List.map_cons, List.nodup_cons] at distinct
      rw [keptValues_cons]
      rcases List.mem_cons.1 member with rfl | later
      · rw [if_pos rfl, keptValues_of_notMem distinct.1, List.append_nil]
      · have another : first.1 ≠ field.1 := by
          intro same
          rw [same] at distinct
          exact distinct.1 (List.mem_map_of_mem later)
        rw [if_neg another, List.nil_append, inductionHypothesis distinct.2 later]

theorem slots?_kept (distinct : (fields.map Prod.fst).Nodup) :
    slots? (fields.map Prod.fst) (record (kept fields)) =
      some (fields.map fun field => Slot.ofOption field.2) := by
  have told (field : String × Option Json) (member : field ∈ fields) :
      Slot.ofFields? ((kept fields).map fun field => (some field.1, field.2)) field.1 =
        some (Slot.ofOption field.2) := by
    have values := keptValues_of_mem distinct member
    rw [keptValues] at values
    rw [Slot.ofFields?, values]
    cases field.2 with
    | none =>
        rfl
    | some value =>
        rfl
  have named : ((kept fields).map fun field => (some field.1, field.2)).all
      (fun field => field.1.isSome) = true := by
    simp
  have read : ∀ row : List (String × Option Json), row ⊆ fields →
      (row.map Prod.fst).mapM
          (Slot.ofFields? ((kept fields).map fun field => (some field.1, field.2))) =
        some (row.map fun field => Slot.ofOption field.2) := by
    intro row part
    induction row with
    | nil =>
        rfl
    | cons field others inductionHypothesis =>
        rw [List.map_cons, List.mapM_cons, told field (part List.mem_cons_self),
          inductionHypothesis fun other member => part (List.mem_cons_of_mem _ member)]
        rfl
  rw [record, slots?, if_pos named]
  exact read fields fun _ => id

/-- Reading a record goes on with what it says of its fields. -/
theorem bind_slots?_kept {α : Type} {json : Json} (written : json = record (kept fields))
    (distinct : (fields.map Prod.fst).Nodup) (read : List (Slot Json) → Option α) :
    (slots? (fields.map Prod.fst) json >>= read) =
      read (fields.map fun field => Slot.ofOption field.2) := by
  rw [written, slots?_kept distinct]
  rfl

theorem kept_cons (field : String × Option Json) (fields : List (String × Option Json)) :
    kept (field :: fields) =
      (field.2.map fun value => (field.1, value)).toList ++ kept fields :=
  List.flatMap_cons ..

theorem kept_unless (omitted : Bool) (name : String) (value : Json)
    (fields : List (String × Option Json)) :
    kept ((name, if omitted then none else some value) :: fields) =
      fieldUnless omitted name value ++ kept fields := by
  cases omitted with
  | true =>
      rfl
  | false =>
      rfl

theorem plain_record {fields : List (String × Json)}
    (plain : ∀ field ∈ fields, field.2.Plain) : (record fields).Plain := by
  unfold record Plain
  induction fields with
  | nil =>
      trivial
  | cons field others inductionHypothesis =>
      exact ⟨rfl, plain field List.mem_cons_self, inductionHypothesis fun other member =>
        plain other (List.mem_cons_of_mem field member)⟩

/-- A record is plain if all its fields are that are not left out. -/
theorem plain_kept (plain : ∀ field ∈ fields, ∀ value ∈ field.2, value.Plain) :
    (record (kept fields)).Plain := by
  refine plain_record fun field member => ?_
  obtain ⟨source, inFields, here⟩ := List.mem_flatMap.1 member
  obtain ⟨value, given, rfl⟩ := Option.map_eq_some_iff.1 (Option.mem_toList.1 here)
  exact plain source inFields value given

end Json

end StalestFirst
