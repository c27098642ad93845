import PbrTelemetry.Text.Cut

/-!
# Where a text is cut

What `cut` and `pieces` make of a text, in terms of how the text is put together around the mark:
the first occurrence is where `cut` divides, and every occurrence is where `pieces` does.  `pieces`
is the standard library's `List.splitOn`.
-/

namespace PbrTelemetry.Text

variable {mark : Char} {before after text : List Char}

/-! ## The first occurrence -/

theorem cut_append (absent : mark ∉ before) (after : List Char) :
    cut mark (before ++ mark :: after) = some (before, after) := by
  induction before with
  | nil => simp [cut]
  | cons c rest ih =>
    simp only [List.mem_cons, not_or] at absent
    simp [cut, Ne.symm absent.1, ih absent.2]

theorem cut_eq_none_iff : cut mark text = none ↔ mark ∉ text := by
  induction text with
  | nil => simp [cut]
  | cons c rest ih =>
    by_cases same : c = mark
    · simp [cut, same]
    · simp [cut, same, ih, Ne.symm same]

/-! ## All occurrences -/

theorem pieces_eq_splitOn (text : List Char) : pieces mark text = text.splitOn mark := by
  induction text with
  | nil => rfl
  | cons c rest ih =>
    rw [pieces, List.splitOn_cons_eq_if_modifyHead, ih]
    by_cases same : c = mark
    · simp [same]
    · cases found : rest.splitOn mark with
      | nil => exact absurd found (List.splitOn_ne_nil mark rest)
      | cons piece others => simp [same]

theorem pieces_ne_nil (text : List Char) : pieces mark text ≠ [] := by
  rw [pieces_eq_splitOn]
  exact List.splitOn_ne_nil mark text

theorem pieces_append (before after : List Char) :
    pieces mark (before ++ mark :: after) = pieces mark before ++ pieces mark after := by
  simp only [pieces_eq_splitOn, List.splitOn_append_cons_self]

theorem not_mem_of_mem_pieces {piece : List Char} (member : piece ∈ pieces mark text) :
    mark ∉ piece := by
  induction text generalizing piece with
  | nil =>
    rw [pieces, List.mem_singleton] at member
    simp [member]
  | cons c rest ih =>
    rw [pieces] at member
    by_cases same : c = mark
    · rw [if_pos same] at member
      rcases List.mem_cons.mp member with rfl | later
      · exact List.not_mem_nil
      · exact ih later
    · rw [if_neg same] at member
      -- The first piece of the rest grows by a character that is not the mark
      cases found : pieces mark rest with
      | nil => exact absurd found (pieces_ne_nil rest)
      | cons first others =>
        rw [found] at member
        rcases List.mem_cons.mp member with rfl | later
        · have absent : mark ∉ first := ih (by simp [found])
          simp [absent, Ne.symm same]
        · exact ih (by simp [found, later])

/-- The pieces are the one way to divide a text into parts without the mark. -/
theorem pieces_eq_iff {segments : List (List Char)} :
    pieces mark text = segments ↔
      segments ≠ [] ∧ (∀ segment ∈ segments, mark ∉ segment) ∧
        [mark].intercalate segments = text := by
  constructor
  · rintro rfl
    refine ⟨pieces_ne_nil text, fun segment => not_mem_of_mem_pieces, ?_⟩
    rw [pieces_eq_splitOn, List.intercalate_splitOn]
  · rintro ⟨nonempty, whole, rfl⟩
    rw [pieces_eq_splitOn, List.splitOn_intercalate mark whole nonempty]

theorem flatMap_mark {segments : List (List Char)} (filled : segments ≠ []) :
    segments.flatMap (mark :: ·) = mark :: [mark].intercalate segments := by
  obtain ⟨first, rest, rfl⟩ := List.exists_cons_of_ne_nil filled
  induction rest generalizing first with
  | nil => simp
  | cons next rest ih =>
    rw [List.flatMap_cons, ih next (List.cons_ne_nil next rest)]
    simp [List.intercalate_cons_cons]

theorem pieces_flatMap_mark {segments : List (List Char)}
    (whole : ∀ segment ∈ segments, mark ∉ segment) :
    pieces mark (segments.flatMap (mark :: ·)) = [] :: segments := by
  by_cases empty : segments = []
  · rw [empty]
    rfl
  · rw [flatMap_mark empty, pieces, if_pos rfl, pieces_eq_iff.mpr ⟨empty, whole, rfl⟩]

/-! ## The ends -/

theorem dropLeading_eq_iff {body : List Char} :
    dropLeading mark text = body ↔ text = mark :: body ∨ text = body ∧ body.head? ≠ some mark := by
  cases text with
  | nil => grind [dropLeading]
  | cons c rest => grind [dropLeading]

theorem dropTrailing_eq_iff {body : List Char} :
    dropTrailing mark text = body ↔
      text = body ++ [mark] ∨ text = body ∧ body.getLast? ≠ some mark := by
  rw [dropTrailing, List.reverse_eq_iff, dropLeading_eq_iff, List.head?_reverse]
  simp [List.reverse_eq_iff]

/-- A mark at an end of a text leaves an empty piece there. -/
theorem ends_of_pieces (filled : [] ∉ pieces mark text) :
    text ≠ [] ∧ text.head? ≠ some mark ∧ text.getLast? ≠ some mark := by
  refine ⟨?_, ?_, ?_⟩
  · rintro rfl
    exact filled List.mem_cons_self
  · intro first
    obtain ⟨rest, rfl⟩ := List.head?_eq_some_iff.mp first
    exact filled (by simp [pieces])
  · intro last
    obtain ⟨front, rfl⟩ := List.getLast?_eq_some_iff.mp last
    exact filled (by simp [pieces_append, pieces])

/-! ## Any occurrence -/

theorem occursIn_iff {part : List Char} : occursIn part text = true ↔ part <:+: text := by
  induction text with
  | nil => simp [occursIn]
  | cons c rest ih =>
    rw [occursIn, Bool.or_eq_true, List.isPrefixOf_iff_prefix, ih, List.infix_cons_iff]

end PbrTelemetry.Text
