import Mathlib
import StalestFirst.Json.Reader
import StalestFirst.Proofs.Json.Tokens
import StalestFirst.Proofs.Text.Utf8

namespace StalestFirst.Json

/-! ## Reading what was written

The reader of tokens is followed with the arrays and objects that have begun, so that a
value is looked at wherever it stands. -/

theorem tokens_eq_cons (json : Json) :
    ∃ first others, json.tokens = first :: others ∧ first ≠ .closeArray := by
  cases json with
  | array items =>
      exact ⟨_, _, rfl, nofun⟩
  | object fields =>
      exact ⟨_, _, rfl, nofun⟩
  | _ =>
      exact ⟨_, _, rfl, nofun⟩

/-- Where an array has begun, an item is read like any value inside it. -/
theorem run_firstItem (item : Json) (enclosing : List Enclosing) (rest : List Token) :
    Progress.run ⟨.firstItem, enclosing⟩ (item.tokens ++ rest) =
      Progress.run ⟨.value, .array [] :: enclosing⟩ (item.tokens ++ rest) := by
  obtain ⟨first, others, split, notClosed⟩ := item.tokens_eq_cons
  rw [split, List.cons_append]
  cases first with
  | closeArray =>
      exact absurd rfl notClosed
  | _ =>
      rfl

mutual

/-- A plain value is read from its tokens. -/
theorem run_tokens (json : Json) (plain : json.Plain) (enclosing : List Enclosing)
    (rest : List Token) :
    Progress.run ⟨.value, enclosing⟩ (json.tokens ++ rest) =
      Progress.run ⟨.follow json, enclosing⟩ rest := by
  match json with
  | .null =>
      rfl
  | .bool value =>
      rfl
  | .integer value =>
      rfl
  | .text value =>
      rfl
  | .array items =>
      have inner := run_itemTokens items plain [] enclosing rest
      rw [tokens, List.cons_append, List.append_assoc, List.singleton_append]
      cases items with
      | nil =>
          rfl
      | cons item others =>
          have entered := run_firstItem item enclosing
          have opened := inner (List.cons_ne_nil item others)
          cases others with
          | nil =>
              rw [itemTokens] at opened ⊢
              exact (entered _).trans opened
          | cons next later =>
              rw [itemTokens, List.append_assoc] at opened ⊢
              exact (entered _).trans opened
  | .object fields =>
      have inner := run_fieldTokens fields plain [] enclosing rest
      rw [tokens, List.cons_append, List.append_assoc, List.singleton_append]
      cases fields with
      | nil =>
          rfl
      | cons field others =>
          have opened := inner (List.cons_ne_nil field others)
          cases others with
          | nil =>
              exact opened
          | cons next later =>
              exact opened

theorem run_itemTokens (items : List Json) (plain : PlainItems items) (done : List Json)
    (enclosing : List Enclosing) (rest : List Token) (present : items ≠ []) :
    Progress.run ⟨.value, .array done :: enclosing⟩
        (itemTokens items ++ .closeArray :: rest) =
      Progress.run ⟨.follow (.array (done.reverse ++ items)), enclosing⟩ rest := by
  match items with
  | [] =>
      exact absurd rfl present
  | [item] =>
      rw [itemTokens, run_tokens item plain.1]
      simp only [Progress.run, Progress.next, List.reverse_cons]
  | item :: next :: later =>
      have onward := run_itemTokens (next :: later) plain.2 (item :: done) enclosing rest
        (List.cons_ne_nil next later)
      rw [List.reverse_cons, List.append_assoc, List.singleton_append] at onward
      rw [itemTokens, List.append_assoc, run_tokens item plain.1, List.cons_append]
      exact onward

theorem run_fieldTokens (fields : List (Option String × Json)) (plain : PlainFields fields)
    (done : List (Option String × Json)) (enclosing : List Enclosing)
    (rest : List Token) (present : fields ≠ []) :
    Progress.run ⟨.name done, enclosing⟩ (fieldTokens fields ++ .closeObject :: rest) =
      Progress.run ⟨.follow (.object (done.reverse ++ fields)), enclosing⟩ rest := by
  match fields with
  | [] =>
      exact absurd rfl present
  | (none, value) :: later =>
      cases plain.1
  | [(some name, value)] =>
      have last := run_tokens value plain.2.1 (.object done (some name) :: enclosing)
        (.closeObject :: rest)
      rw [fieldTokens]
      refine Eq.trans last ?_
      simp only [Progress.run, Progress.next, List.reverse_cons]
  | (some name, value) :: next :: later =>
      have first := run_tokens value plain.2.1 (.object done (some name) :: enclosing)
        (.comma :: (fieldTokens (next :: later) ++ .closeObject :: rest))
      have onward := run_fieldTokens (next :: later) plain.2.2 ((some name, value) :: done)
        enclosing rest (List.cons_ne_nil next later)
      rw [List.reverse_cons, List.append_assoc, List.singleton_append] at onward
      rw [fieldTokens, List.cons_append, List.cons_append, List.append_assoc]
      exact first.trans onward

end

theorem ofTokens?_tokens {json : Json} (plain : json.Plain) :
    ofTokens? json.tokens = some json := by
  have whole := run_tokens json plain [] []
  rw [List.append_nil] at whole
  rw [ofTokens?, whole]
  rfl

theorem ofText?_print {json : Json} (plain : json.Plain) :
    ofText? json.print = some json := by
  rw [ofText?, print, String.toList_ofList, ofPlaces?, tokens?_written plain]
  exact ofTokens?_tokens plain

/-- A plain value comes through bytes. -/
theorem ofBytes?_encode_print {json : Json} (plain : json.Plain) :
    ofBytes? (Text.Utf8.encode json.print.toList) = some json := by
  rw [ofBytes?, Text.Utf8.decode_encode]
  exact ofText?_print plain

end StalestFirst.Json
