import Mathlib.Data.List.Forall2
import PbrTelemetry.Path.Text
import PbrTelemetry.Proofs.Text.Cut

/-!
# The segments of a path text

A path text is read segment by segment.  `mapM_eq_ok_iff` and `mapM_eq_error_iff` say what a reader
makes of a list, `PathElem.parse_opened` what it makes of a segment with an opening bracket, and
`PathElem.parse_keyed` when there is a key in the segment.
-/

namespace PbrTelemetry

/-! ## Readers that run over a list -/

section

variable {α β ε : Type} {read : α → Except ε β}

theorem mapM_eq_ok_iff {items : List α} {results : List β} :
    items.mapM read = .ok results ↔ List.Forall₂ (fun item result => read item = .ok result) items
      results := by
  induction items generalizing results with
  | nil =>
    rw [List.mapM_nil, List.forall₂_nil_left_iff]
    constructor
    · intro done
      cases done
      rfl
    · rintro rfl
      rfl
  | cons item rest ih =>
    rw [List.mapM_cons, List.forall₂_cons_left_iff]
    constructor
    · intro done
      cases first : read item with
      | error error =>
        rw [first] at done
        cases done
      | ok result =>
        cases others : rest.mapM read with
        | error error =>
          rw [first, others] at done
          cases done
        | ok found =>
          rw [first, others] at done
          cases done
          exact ⟨result, found, rfl, ih.mp others, rfl⟩
    · rintro ⟨result, found, first, others, rfl⟩
      rw [first, ih.mpr others]
      rfl

theorem mapM_cons_eq_error_iff {item : α} {rest : List α} {error : ε} :
    (item :: rest).mapM read = .error error ↔
      read item = .error error ∨
        (∃ result, read item = .ok result) ∧ rest.mapM read = .error error := by
  rw [List.mapM_cons]
  cases first : read item with
  | error earlier => simp [bind, Except.bind]
  | ok result => cases rest.mapM read <;> simp [bind, Except.bind, pure, Except.pure]

/-- A reader over a list reports what is wrong with the first item that it cannot read. -/
theorem mapM_eq_error_iff {items : List α} {error : ε} :
    items.mapM read = .error error ↔ ∃ before bad after, items = before ++ bad :: after ∧
      (∀ item ∈ before, ∃ result, read item = .ok result) ∧ read bad = .error error := by
  induction items with
  | nil =>
    rw [List.mapM_nil]
    constructor
    · intro failed
      cases failed
    · rintro ⟨before, bad, after, same, -⟩
      simp at same
  | cons item rest ih =>
    rw [mapM_cons_eq_error_iff, ih]
    constructor
    · rintro (failed | ⟨first, before, bad, after, rfl, readable, failed⟩)
      · exact ⟨[], item, rest, rfl, by simp, failed⟩
      · exact ⟨item :: before, bad, after, rfl, List.forall_mem_cons.mpr ⟨first, readable⟩, failed⟩
    · rintro ⟨before, bad, after, same, readable, failed⟩
      cases before with
      | nil =>
        cases same
        exact .inl failed
      | cons head before =>
        cases same
        obtain ⟨first, readable⟩ := List.forall_mem_cons.mp readable
        exact .inr ⟨first, before, bad, after, rfl, readable, failed⟩

end

/-! ## Segments with a key -/

/-- A name and a key that a segment can begin with. -/
structure PathElem.Heads (name key : List Char) : Prop where
  name_ne_nil : name ≠ []
  name_no_open : '[' ∉ name
  name_no_close : ']' ∉ name
  key_ne_nil : key ≠ []
  key_no_equals : '=' ∉ key
  key_no_close : ']' ∉ key

def PathElem.keyedSegment (name key value : List Char) : List Char :=
  name ++ '[' :: (key ++ '=' :: (value ++ [']']))

namespace PathElem

variable {name key value : List Char}

/-- A segment with an opening bracket, from that bracket on. -/
theorem parse_opened (first : '[' ∉ name) (rest : List Char) :
    PathElem.parse (name ++ '[' :: rest) =
      if ']' ∈ name then .error .missingClosingBracket
      else
        match Text.cut ']' rest with
        | none => .error .missingClosingBracket
        | some (pair, after) =>
          if after ≠ [] then .error .textAfterKey
          else if name = [] then .error .emptyName
          else parseKey name pair := by
  cases found : Text.cut ']' rest with
  | none => simp [PathElem.parse, Text.cut_append first, found]
  | some parts => simp [PathElem.parse, Text.cut_append first, found]

theorem parse_keyed (heads : Heads name key) (filled : value ≠ []) (safe : ']' ∉ value) :
    PathElem.parse (keyedSegment name key value) = .ok
      { name := String.ofList name
        keys := TextMap.empty.insert (String.ofList key) (String.ofList value) } := by
  have whole : Text.cut ']' (key ++ '=' :: (value ++ [']'])) = some (key ++ '=' :: value, []) := by
    have absent : ']' ∉ key ++ '=' :: value := by
      simp [heads.key_no_close, safe]
    simpa using Text.cut_append absent []
  have pair : Text.cut '=' (key ++ '=' :: value) = some (key, value) :=
    Text.cut_append heads.key_no_equals value
  rw [keyedSegment, parse_opened heads.name_no_open, if_neg heads.name_no_close, whole]
  simp [parseKey, pair, heads.name_ne_nil, heads.key_ne_nil, filled]

end PathElem

end PbrTelemetry
