import PbrTelemetry.Proofs.Path.Canonical

/-!
# Texts of one path

A path has more than one text, for the slashes at both ends may be there or not, and these slashes
are all that its texts differ in.  `Path.normalForm` is the text with the first slash and without
the last one.  It is what the path is written as, so that paths can be compared by the normal forms
of their texts (`Path.render_of_parse`).

Elements hold no slash and are never empty, which is why no slash at an end belongs to an element.
-/

namespace PbrTelemetry

namespace Path

/-- The text with a slash at its start and without the slash at its end. -/
def normalForm (text : String) : String :=
  let rooted := if text.toList.head? = some '/' then text.toList else '/' :: text.toList
  String.ofList (if rooted.getLast? = some '/' then rooted.dropLast else rooted)

variable {text : String} {path : Path} {leading joined trailing : List Char}

theorem normalForm_of_blank (blank : Text.IsOptionalSlash text.toList) : normalForm text = "" := by
  rcases blank with empty | root
  · simp [normalForm, empty]
  · simp [normalForm, root]

theorem normalForm_of_joined (same : text.toList = leading ++ joined ++ trailing)
    (first : Text.IsOptionalSlash leading) (last : Text.IsOptionalSlash trailing)
    (filled : joined ≠ []) (front : joined.head? ≠ some '/') (back : joined.getLast? ≠ some '/') :
    normalForm text = String.ofList ('/' :: joined) := by
  have rooted : (if text.toList.head? = some '/' then text.toList else '/' :: text.toList)
      = '/' :: joined ++ trailing := by
    rw [same]
    rcases first with rfl | rfl
    · rw [List.nil_append, List.head?_append_of_ne_nil _ filled, if_neg front, List.cons_append]
    · simp
  have ends : ('/' :: joined).getLast? = joined.getLast? := by
    obtain ⟨c, rest, rfl⟩ := List.exists_cons_of_ne_nil filled
    exact List.getLast?_cons_cons
  simp only [normalForm, rooted]
  rcases last with rfl | rfl
  · rw [List.append_nil, ends, if_neg back]
  · rw [List.getLast?_concat, if_pos rfl, List.dropLast_concat]

theorem Spells.render_eq (spells : Spells text.toList path.elems) :
    path.render = normalForm text := by
  generalize source : text.toList = chars at spells
  generalize found : path.elems = elems at spells
  cases spells with
  | none blank => rw [normalForm_of_blank (source ▸ blank), render, found, List.flatMap_nil]
  | @segments leading trailing segments _ first last nonempty each =>
    obtain ⟨filled, front, back⟩ := ends_of_each nonempty each
    obtain ⟨-, rfl⟩ := each_iff.mp each
    cases elems with
    | nil => exact absurd rfl nonempty
    | cons elem rest =>
      rw [normalForm_of_joined source first last filled front back, render, found, render_elems]

/-- A path that was read is written as the normal form of its text.  This form is read as the same
path, and two texts are read as one path if and only if they have one normal form. -/
theorem render_of_parse (parsed : Path.parse text = .ok path) :
    path.render = normalForm text ∧ Path.parse (normalForm text) = .ok path ∧
    ∀ other second, Path.parse other = .ok second →
      (path = second ↔ normalForm text = normalForm other) := by
  have written : ∀ source found, Path.parse source = .ok found → found.render = normalForm source :=
    fun source found read => (parse_eq_ok_iff_spells.mp read).2.2.render_eq
  have back : ∀ source found, Path.parse source = .ok found →
      Path.parse (normalForm source) = .ok found := by
    intro source found read
    rw [← written source found read]
    exact parse_render (isCanonical_of_parse read)
  refine ⟨written text path parsed, back text path parsed, fun other second read => ?_⟩
  constructor
  · rintro rfl
    rw [← written text path parsed, written other path read]
  · intro same
    have once := back text path parsed
    rw [same, back other second read] at once
    cases once
    rfl

theorem render_of_parse_marks :
    ∃ path, Path.parse "a=]/b[k==[]/" = .ok path ∧ path.render = "/a=]/b[k==[]" ∧
      Path.parse "/a=]/b[k==[]" = .ok path ∧
      ∀ other, Path.parse "/a=]/b" = .ok other → path ≠ other := by
  have parsed : Path.parse "a=]/b[k==[]/" = .ok { elems :=
      [{ name := "a=]" }, { name := "b", keys := TextMap.empty.insert "k" "=[" }] } := by
    decide +kernel
  have normal : normalForm "a=]/b[k==[]/" = "/a=]/b[k==[]" := by decide +kernel
  have apart : normalForm "a=]/b[k==[]/" ≠ normalForm "/a=]/b" := by decide +kernel
  obtain ⟨written, back, unique⟩ := render_of_parse parsed
  rw [normal] at written back
  exact ⟨_, parsed, written, back, fun other read same => apart ((unique _ other read).mp same)⟩

end Path

end PbrTelemetry
