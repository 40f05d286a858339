import Mathlib
import StalestFirst.Proofs.Settings.Overlay
import StalestFirst.Proofs.Text.Digits
import StalestFirst.Settings.File
import StalestFirst.Wire.Settings

namespace StalestFirst.Settings

open StalestFirst.Yaml

/-! ## Entries of documents -/

/-- The named parts of a JSON object. -/
def jsonEntries? : Json → Option (List (Option String × Json))
  | .object fields => some fields
  | _ => none

/-- The form of JSON documents. -/
def jsonForm : Form Json := ⟨Json.slots?, Json.natBelow?⟩

/-- The named parts of a mapping. An empty plain scalar has none. A key that is no scalar
is no name. -/
def yamlEntries? (document : Document) (node : Node) :
    Option (List (Option String × Node)) :=
  match document.resolve node with
  | .mapping _ entries =>
      some (entries.map fun entry => (nameOf? document entry.1, entry.2))
  | .scalar _ _ style text => if style = .plain ∧ text = "" then some [] else none
  | _ => none

theorem natBelow?_eq_some_iff {limit number : Nat} {json : Json} :
    Json.natBelow? limit json = some number ↔ json = .integer number ∧ number < limit := by
  cases json with
  | integer value =>
      simp only [Json.natBelow?, Json.integer?, Option.bind_some, Json.integer.injEq,
        Option.ite_none_right_eq_some, Option.some.injEq]
      constructor
      · rintro ⟨⟨natural, below⟩, rfl⟩
        omega
      · rintro ⟨rfl, below⟩
        omega
  | _ =>
      simp [Json.natBelow?, Json.integer?]

theorem reads_json : jsonForm.Reads jsonEntries? where
  slots {part entries} shown names := by
    cases part with
    | object fields =>
        cases shown
        rfl
    | _ =>
        cases shown
  below read := (natBelow?_eq_some_iff.1 read).2

theorem slots?_of_no_entries (json : Json) (names : List String)
    (none : jsonEntries? json = none) (notArray : ∀ items, json ≠ .array items) :
    jsonForm.slots? names json = .none := by
  cases json with
  | object fields =>
      cases none
  | array items =>
      exact absurd rfl (notArray items)
  | _ =>
      rfl

theorem mapM_named {β γ : Type} (name? : β → Option String) (entries : List (β × γ)) :
    (entries.mapM fun entry => (name? entry.1).map fun name => (some name, entry.2)) =
      if (entries.map fun entry => (name? entry.1, entry.2)).all fun entry => entry.1.isSome
      then some (entries.map fun entry => (name? entry.1, entry.2)) else none := by
  induction entries with
  | nil =>
      rfl
  | cons entry rest inductionHypothesis =>
      rw [List.mapM_cons, inductionHypothesis, List.map_cons, List.all_cons]
      cases name? entry.1 with
      | none =>
          rfl
      | some name =>
          simp only [Option.isSome_some, Bool.true_and]
          split
          · rfl
          · rfl

theorem nodeNumber?_eq_some_iff {document : Document} {limit number : Nat} {node : Node} :
    nodeNumber? document limit node = some number ↔
      spelledNumber? (document.resolve node) = some number ∧ number < limit := by
  simp only [nodeNumber?, Option.bind_eq_bind, Option.bind_eq_some_iff,
    Option.ite_none_right_eq_some, Option.some.injEq]
  constructor
  · rintro ⟨_, spelled, below, rfl⟩
    exact ⟨spelled, below⟩
  · rintro ⟨spelled, below⟩
    exact ⟨number, spelled, below, rfl⟩

/-- What a part says of names is what its entries say, if it has any. -/
theorem slots?_yamlForm (document : Document) (names : List String) (node : Node) :
    (yamlForm document).slots? names node =
      (yamlEntries? document node).bind fun entries =>
        if entries.all fun entry => entry.1.isSome then names.mapM (Slot.ofFields? entries)
        else none := by
  change nodeSlots? document names node = _
  unfold nodeSlots? yamlEntries?
  cases document.resolve node with
  | mapping place entries =>
      simp only [Option.bind_eq_bind, mapM_named, Option.bind_some]
      split
      · rfl
      · rfl
  | scalar place tag style text =>
      by_cases empty : style = .plain ∧ text = ""
      · obtain ⟨rfl, rfl⟩ := empty
        rfl
      · simp only [if_neg empty, Option.bind_none]
        split
        · contradiction
        · rename_i same
          cases same
          exact absurd ⟨rfl, rfl⟩ empty
        · rfl
  | _ =>
      rfl

theorem reads_yaml (document : Document) :
    (yamlForm document).Reads (yamlEntries? document) where
  slots {part entries} shown names := by
    rw [slots?_yamlForm, shown, Option.bind_some]
  below read := (nodeNumber?_eq_some_iff.1 read).2

theorem nodeSlots?_of_no_entries (document : Document) (node : Node) (names : List String)
    (none : yamlEntries? document node = none) :
    (yamlForm document).slots? names node = .none := by
  rw [slots?_yamlForm, none, Option.bind_none]

/-! ## Numbers in documents -/

theorem mayBeNumber_iff {place : Place} {tag : Option String} {style : Style} {text : String} :
    mayBeNumber (.scalar place tag style text) = true ↔
      style = .plain ∨ (style = .literal ∧ tag = some "tag:yaml.org,2002:int") := by
  unfold mayBeNumber
  split
  · rename_i same
    cases same
    simp
  · rename_i same
    cases same
    simp
  · rename_i notPlain notLiteral
    refine iff_of_false (by simp) ?_
    rintro (rfl | ⟨rfl, rfl⟩)
    · exact notPlain _ _ _ rfl
    · exact notLiteral _ _ rfl

/-- A scalar gives a number if it is plain, whatever its tag, or literal with the tag of
integers, and spells a natural number. -/
theorem number?_scalar_iff {document : Document} {limit number : Nat} {place : Place}
    {tag : Option String} {style : Style} {text : String} :
    (yamlForm document).number? limit (.scalar place tag style text) = some number ↔
      (style = .plain ∨ (style = .literal ∧ tag = some "tag:yaml.org,2002:int")) ∧
        natural? text.toList = some number ∧ number < limit := by
  refine nodeNumber?_eq_some_iff.trans ?_
  change spelledNumber? (.scalar place tag style text) = _ ∧ _ ↔ _
  rw [spelledNumber?, Option.ite_none_right_eq_some, mayBeNumber_iff, and_assoc]

/-- What a part of a document is taken for. A plain scalar is taken for what it spells,
whatever its tag, and so is a literal one with the tag of integers. -/
def takenFor (node : Node) : Value :=
  match node with
  | .scalar _ _ _ text => if mayBeNumber node then .ofPlain text else .text text
  | _ => .ofNode node

theorem natural?_minus (rest : List Char) : natural? ('-' :: rest) = none := by
  have sign : digitValue? 10 '-' = none := by decide
  simp [natural?, magnitude?, hasLeadingZero, numberOfBase?, sign]

theorem ofPlain_of_natural? {text : String} {number : Nat}
    (spelled : natural? text.toList = some number) :
    Value.ofPlain text = .integer number := by
  have noWord {words : List String} (others : ∀ word ∈ words, natural? word.toList = none) :
      words.contains text = false := by
    rw [← Bool.not_eq_true, List.contains_iff_mem]
    intro member
    rw [others text member] at spelled
    cases spelled
  have integer : integer? text.toList = some (number : Int) := by
    unfold integer?
    split
    · rename_i rest minus
      rw [minus, natural?_minus] at spelled
      cases spelled
    · rw [spelled]
      rfl
  simp only [Value.ofPlain, integer]
  rw [noWord (by decide), noWord (by decide), noWord (by decide)]
  rfl

theorem takenFor_of_spelledNumber? {node : Node} {number : Nat}
    (spelled : spelledNumber? node = some number) : takenFor node = .integer number := by
  cases node with
  | scalar place tag style text =>
      simp only [spelledNumber?, Option.ite_none_right_eq_some] at spelled
      rw [takenFor, if_pos spelled.1]
      exact ofPlain_of_natural? spelled.2
  | _ =>
      cases spelled

theorem digitValue?_of_isDigit {c : Char} (digit : Text.isDigit c = true) :
    digitValue? 10 c = some (c.toNat - '0'.toNat) := by
  simp only [Text.isDigit, Bool.and_eq_true, decide_eq_true_eq] at digit
  have last : c.toNat ≤ 57 := digit.2
  have small : c.toNat - 48 < 10 := by omega
  rw [digitValue?, hexValue?, if_pos digit]
  simp [Option.filter, small]

theorem foldlM_digits {digits : List Char} (allDigits : ∀ c ∈ digits, Text.isDigit c = true)
    (start : Nat) :
    digits.foldlM (fun number c => (digitValue? 10 c).map (10 * number + ·)) start =
      some (Nat.ofDigitChars 10 digits start) := by
  induction digits generalizing start with
  | nil =>
      rfl
  | cons c rest inductionHypothesis =>
      rw [List.forall_mem_cons] at allDigits
      rw [List.foldlM_cons, digitValue?_of_isDigit allDigits.1]
      exact inductionHypothesis allDigits.2 _

theorem natural?_of_first {c : Char} {rest : List Char} (notPlus : c ≠ '+')
    (notZero : c ≠ '0') : natural? (c :: rest) = numberOfBase? 10 (c :: rest) := by
  have noPadding : hasLeadingZero (c :: rest) = false := by
    simp [hasLeadingZero, notZero]
  simp [natural?, magnitude?, notPlus, notZero, noPadding]

/-- A number is spelled by its digits. -/
theorem natural?_decimal (number : Nat) : natural? (Text.decimal number) = some number := by
  rcases Nat.eq_zero_or_pos number with rfl | positive
  · rfl
  · obtain ⟨first, small, notZero, others, digits⟩ := Text.decimal_eq_cons positive
    have value := Text.valueOfDigits_decimal number
    have allDigits : ∀ c ∈ Text.decimal number, Text.isDigit c = true := fun c =>
      Text.isDigit_of_mem_decimal
    have spelled : numberOfBase? 10 (Text.decimal number) = some number := by
      rw [numberOfBase?, digits, if_neg (by simp), ← digits, foldlM_digits allDigits]
      exact congrArg some value
    rw [digits] at spelled ⊢
    -- What starts with neither a sign nor a zero is read with base ten.
    have plain : first.digitChar ≠ '+' ∧ first.digitChar ≠ '0' := by
      interval_cases first
      all_goals decide
    rw [natural?_of_first plain.1 plain.2]
    exact spelled

/-- The number that settings have for a quantity is read where its digits stand. -/
theorem number?_digits (document : Document) (settings : Settings) (quantity : Quantity)
    (place : Place) (tag : Option String) :
    (yamlForm document).number? quantity.limit
        (.scalar place tag .plain (Text.number (quantity.of settings))) =
      some (quantity.of settings) := by
  refine number?_scalar_iff.2 ⟨Or.inl rfl, ?_, quantity.of_lt settings⟩
  rw [Text.number, String.toList_ofList, natural?_decimal]

/-! ## Settings in texts -/

theorem ofYaml_of_blank {text : String} (blank : text.toList.all Text.isBlank = true) :
    ofYaml text = .ok .standard :=
  if_pos blank

theorem ofYaml_of_settings? {text : String} {settings : Settings}
    (written : text.toList.all Text.isBlank = false)
    (alone : (Document.ofText text).ending = .alone)
    (read : (yamlForm (Document.ofText text)).settings? (Document.ofText text).root =
      some settings) : ofYaml text = .ok settings := by
  rw [ofYaml, if_neg (ne_true_of_eq_false written)]
  simp only [ofDocument?, if_pos alone, read]

theorem ofYaml_of_settings?_none {text : String}
    (written : text.toList.all Text.isBlank = false)
    (unread : (yamlForm (Document.ofText text)).settings? (Document.ofText text).root =
      none) : ∃ reason, ofYaml text = .error (.yaml reason) := by
  have nothing : ofDocument? (Document.ofText text) = none := by
    rw [ofDocument?, unread, ite_self]
  rw [ofYaml, if_neg (ne_true_of_eq_false written)]
  simp only [nothing]
  exact ⟨_, rfl⟩

/-- Settings are read alike from YAML texts, from files and from JSON texts. Of a document
that names any areas and in them any quantities, each at most once, in any order and among
other names, those quantities that it names have the numbers given there, and all others the
standard ones. A document that names an area or a quantity twice, gives a quantity anything
but a number below its limit, or has a key that is no name where it names areas or
quantities, gives no settings. A number of JSON is a natural number written as one. One of
YAML is a scalar that spells a natural number, as its digits do, and is plain, whatever its
tag, or literal with the tag of integers. A blank YAML text gives the standard settings. -/
theorem partial_documents_overlay :
    (∀ text : String, text.toList.all Text.isBlank = false →
      let document := Document.ofText text
      let entries? := yamlEntries? document
      (∀ settings, document.ending = .alone →
        Overlays entries? document.root (yamlForm document) settings →
        ofYaml text = .ok (overlay settings (names entries? document.root))) ∧
      (Faulty entries? document.root (yamlForm document) →
        ∃ reason, ofYaml text = .error (.yaml reason))) ∧
    (∀ path bytes text, Text.Utf8.decode? bytes = some text →
      ofFile path (.ok bytes) = ofYaml (String.ofList text)) ∧
    (∀ text json, Json.ofText? text = some json →
      (∀ settings, Overlays jsonEntries? json jsonForm settings →
        Wire.ofText? text = some (overlay settings (names jsonEntries? json))) ∧
      (Faulty jsonEntries? json jsonForm → (Wire.ofText? text : Option Settings) = none)) ∧
    (∀ text : String, text.toList.all Text.isBlank = true → ofYaml text = .ok .standard) ∧
    ((∀ settings named quantity, Quantity.of (overlay settings named) quantity =
        if named quantity then quantity.of settings else quantity.of .standard) ∧
      ∀ left right : Settings,
        (∀ quantity, Quantity.of left quantity = Quantity.of right quantity) →
          left = right) ∧
    ((∀ limit json number, jsonForm.number? limit json = some number ↔
        json = .integer number ∧ number < limit) ∧
      ∀ json names, jsonEntries? json = none → (∀ items, json ≠ .array items) →
        jsonForm.slots? names json = none) ∧
    ∀ document : Document,
      (∀ node names, yamlEntries? document node = none →
        (yamlForm document).slots? names node = none) ∧
      (∀ limit node number, (yamlForm document).number? limit node = some number →
        takenFor (document.resolve node) = .integer number ∧ number < limit) ∧
      (∀ limit place tag style text number,
        (yamlForm document).number? limit (.scalar place tag style text) = some number ↔
          (style = .plain ∨ (style = .literal ∧ tag = some "tag:yaml.org,2002:int")) ∧
            natural? text.toList = some number ∧ number < limit) ∧
      ∀ settings (quantity : Quantity) place tag, (yamlForm document).number? quantity.limit
        (.scalar place tag .plain (Text.number (quantity.of settings))) =
          some (quantity.of settings) := by
  refine ⟨fun text written => ⟨fun settings alone overlays => ?_, fun faulty => ?_⟩, ?_, ?_,
    fun text => ofYaml_of_blank, ⟨of_overlay, fun _ _ => ext_of⟩,
    ⟨fun limit json number => natBelow?_eq_some_iff, slots?_of_no_entries⟩,
    fun document => ⟨nodeSlots?_of_no_entries document, fun limit node number read => ?_,
      fun _ _ _ _ _ _ => number?_scalar_iff, number?_digits document⟩⟩
  · exact ofYaml_of_settings? written alone (overlays.settings?_eq (reads_yaml _))
  · exact ofYaml_of_settings?_none written (faulty.settings?_eq_none (reads_yaml _))
  · intro path bytes text decoded
    simp only [ofFile, Except.bind, decoded]
  · intro text json read
    have opened : (Wire.ofText? text : Option Settings) = jsonForm.settings? json := by
      rw [Wire.ofText?, read]
      rfl
    rw [opened]
    exact ⟨fun settings overlays => overlays.settings?_eq reads_json,
      fun faulty => faulty.settings?_eq_none reads_json⟩
  · obtain ⟨spelled, below⟩ := nodeNumber?_eq_some_iff.1 read
    exact ⟨takenFor_of_spelledNumber? spelled, below⟩

/-- Quantities named in no particular order, among other names. -/
def reorderedText : String :=
  "store: {max_connections: 9}\nx: [1]\nqueue: {y: 1, retry_interval_secs: 0x2}"

def reordered : Document := Document.ofText reorderedText

/-- The same quantities in JSON. -/
def reorderedJsonText : String :=
  "\x7b\"store\": \x7b\"max_connections\": 9\x7d, \"x\": [1], " ++
    "\"queue\": \x7b\"y\": null, \"retry_interval_secs\": 2\x7d\x7d"

def reorderedJson : Json :=
  .object [
    (some "store", .object [(some "max_connections", .integer 9)]),
    (some "x", .array [.integer 1]),
    (some "queue", .object [(some "y", .null), (some "retry_interval_secs", .integer 2)])]

/-- Settings that agree with them. -/
def agreeing : Settings := ⟨⟨0, 2, 0, 0⟩, ⟨0, 0, 0⟩, ⟨9, 0⟩⟩

/-- An area named twice. -/
def repeatedText : String := "queue: {selection_window: 3}\nqueue: {}"

def repeated : Document := Document.ofText repeatedText

/-- A quantity beyond the words of 32 bits. -/
def tooGreatText : String :=
  "\x7b\"store\": \x7b\"max_connections\": 4294967296\x7d\x7d"

def tooGreat : Json :=
  .object [(some "store", .object [(some "max_connections", .integer 4294967296)])]

theorem overlays_reordered :
    Overlays (yamlEntries? reordered) reordered.root (yamlForm reordered) agreeing := by
  decide +kernel

theorem overlays_reorderedJson : Overlays jsonEntries? reorderedJson jsonForm agreeing := by
  decide +kernel

theorem ofText?_reorderedJsonText : Json.ofText? reorderedJsonText = some reorderedJson := by
  rfl

theorem ofText?_tooGreatText : Json.ofText? tooGreatText = some tooGreat := by
  rfl

theorem faulty_repeated :
    Faulty (yamlEntries? repeated) repeated.root (yamlForm repeated) :=
  .area .queue (by decide +kernel)

theorem faulty_tooGreat : Faulty jsonEntries? tooGreat jsonForm := by
  have given : valuesOf jsonEntries? tooGreat .maxConnections = [.integer 4294967296] := rfl
  exact .value .maxConnections (given ▸ List.mem_singleton_self _) (by decide)

theorem partial_documents_overlay_reordered :
    (reorderedText.toList.all Text.isBlank = false ∧ reordered.ending = .alone ∧
      Overlays (yamlEntries? reordered) reordered.root (yamlForm reordered) agreeing ∧
      ofYaml reorderedText = .ok ⟨⟨900, 2, 1000, 5⟩, .standard, ⟨9, 5⟩⟩) ∧
    (repeatedText.toList.all Text.isBlank = false ∧
      Faulty (yamlEntries? repeated) repeated.root (yamlForm repeated) ∧
      ∃ reason, ofYaml repeatedText = .error (.yaml reason)) ∧
    (Json.ofText? reorderedJsonText = some reorderedJson ∧
      Overlays jsonEntries? reorderedJson jsonForm agreeing ∧
      Wire.ofText? reorderedJsonText = some (⟨⟨900, 2, 1000, 5⟩, .standard, ⟨9, 5⟩⟩ : Settings)) ∧
    Json.ofText? tooGreatText = some tooGreat ∧ Faulty jsonEntries? tooGreat jsonForm ∧
      (Wire.ofText? tooGreatText : Option Settings) = none := by
  have written : reorderedText.toList.all Text.isBlank = false ∧
      repeatedText.toList.all Text.isBlank = false := by
    decide +kernel
  have alone : reordered.ending = .alone := by
    decide +kernel
  have laid : overlay agreeing (names (yamlEntries? reordered) reordered.root) =
      ⟨⟨900, 2, 1000, 5⟩, .standard, ⟨9, 5⟩⟩ := by
    decide +kernel
  have laidJson : overlay agreeing (names jsonEntries? reorderedJson) =
      ⟨⟨900, 2, 1000, 5⟩, .standard, ⟨9, 5⟩⟩ := by
    decide +kernel
  have read := ofText?_reorderedJsonText
  have readTooGreat := ofText?_tooGreatText
  obtain ⟨yaml, _, json, _⟩ := partial_documents_overlay
  refine ⟨⟨written.1, alone, overlays_reordered, ?_⟩,
    ⟨written.2, faulty_repeated, (yaml _ written.2).2 faulty_repeated⟩,
    ⟨read, overlays_reorderedJson, ?_⟩, readTooGreat, faulty_tooGreat,
    (json _ tooGreat readTooGreat).2 faulty_tooGreat⟩
  · rw [← laid]
    exact (yaml _ written.1).1 agreeing alone overlays_reordered
  · rw [← laidJson]
    exact (json _ reorderedJson read).1 agreeing overlays_reorderedJson

/-- The tag of a scalar. -/
def tagOf? : Node → Option String
  | .scalar _ tag _ _ => tag
  | _ => none

/-- A document that has a sequence for a key beside one quantity, given a number below its
limit, gives no settings. Digits with the tag of texts are taken for a number, and quoted
ones with the tag of integers are not. -/
theorem nameless_key_refused_and_tag_ignored :
    (let text := "[1]: 2\nqueue: {selection_window: 3}"
      let document := Document.ofText text
      let entries? := yamlEntries? document
      document.ending = .alone ∧
      (entries? document.root).map (fun entries => entries.map Prod.fst) =
        some [none, some "queue"] ∧
      (∀ quantity, (valuesOf entries? document.root quantity).map
        ((yamlForm document).number? quantity.limit) =
          if quantity = .selectionWindow then [some 3] else []) ∧
      (ofYaml text).toOption = none) ∧
    (let text := "queue:\n  selection_window: !!str 3\n"
      let document := Document.ofText text
      (valuesOf (yamlEntries? document) document.root .selectionWindow).map tagOf? =
        [some "tag:yaml.org,2002:str"] ∧
      ofYaml text = .ok ⟨⟨900, 10, 1000, 3⟩, .standard, .standard⟩) ∧
    (let text := "queue:\n  selection_window: !!int \"3\"\n"
      let document := Document.ofText text
      document.ending = .alone ∧
      (valuesOf (yamlEntries? document) document.root .selectionWindow).map tagOf? =
        [some "tag:yaml.org,2002:int"] ∧
      (ofYaml text).toOption = none) := by
  exact ⟨⟨by decide +kernel, by decide +kernel, by decide +kernel, by decide +kernel⟩,
    ⟨by decide +kernel, by decide +kernel⟩,
    by decide +kernel, by decide +kernel, by decide +kernel⟩

end StalestFirst.Settings
