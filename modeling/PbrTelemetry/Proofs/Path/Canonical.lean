import PbrTelemetry.Proofs.Path.Grammar

/-!
# Paths that come back

The text of a path is read back as the same path only if the path is canonical: no key or one to an
element, and names, keys and values without the marks of the grammar.  These are the paths that can
be read at all, so reading and writing again changes no more than the slashes at the ends.

The grammar has one segment for a canonical element and none for another (`PathElem.spells_iff`),
which is why a path that is not canonical does not come back by coincidence.
-/

namespace PbrTelemetry

namespace PathElem

/-- A name alone or with one key, without the marks that would end them early. -/
def CanonicalWith (name : String) : List (String × String) → Prop
  | [] => Text.Plain ['/', '['] name.toList
  | [(key, value)] =>
    Text.Plain ['/', '[', ']'] name.toList ∧ Text.Plain ['/', '=', ']'] key.toList ∧
      Text.Plain ['/', ']'] value.toList
  | _ :: _ :: _ => False

instance (name : String) : (keys : List (String × String)) → Decidable (CanonicalWith name keys)
  | [] => inferInstanceAs (Decidable (Text.Plain _ _))
  | [_] => inferInstanceAs (Decidable (_ ∧ _ ∧ _))
  | _ :: _ :: _ => .isFalse id

/-- The element has at most one key, and no mark of the grammar in the wrong place. -/
def IsCanonical (elem : PathElem) : Prop := CanonicalWith elem.name elem.keys.entries

instance (elem : PathElem) : Decidable elem.IsCanonical :=
  inferInstanceAs (Decidable (CanonicalWith _ _))

def segment (elem : PathElem) : List Char :=
  elem.name.toList ++ elem.keys.entries.flatMap renderKey

end PathElem

/-- All of the path can be seen in its text. -/
structure Path.IsCanonical (path : Path) : Prop where
  origin : path.origin = ""
  target : path.target = ""
  elems : ∀ elem ∈ path.elems, elem.IsCanonical

variable {path : Path} {text : List Char} {elem : PathElem}

namespace PathElem

theorem spells_iff : Spells text elem ↔ elem.IsCanonical ∧ text = elem.segment := by
  constructor
  · intro spells
    cases spells with
    | bare named =>
      refine ⟨?_, ?_⟩
      · simpa [IsCanonical, TextMap.empty, CanonicalWith] using named
      · simp [segment, TextMap.empty]
    | keyed named keyed valued =>
      refine ⟨?_, ?_⟩
      · simpa [IsCanonical, TextMap.empty, TextMap.insert, insertEntry, CanonicalWith] using
          ⟨named, keyed, valued⟩
      · simp [segment, TextMap.empty, TextMap.insert, insertEntry, renderKey, keyedSegment]
  · rintro ⟨canonical, rfl⟩
    obtain ⟨name, ⟨entries, ascending⟩⟩ := elem
    cases entries with
    | nil =>
      have spells := Spells.bare canonical
      simpa [segment, TextMap.empty] using spells
    | cons entry rest =>
      obtain ⟨key, value⟩ := entry
      cases rest with
      | nil =>
        obtain ⟨named, keyed, valued⟩ := canonical
        have spells := Spells.keyed named keyed valued
        -- A map with one entry is the map that the entry was written to
        have written : TextMap.empty.insert key value = ⟨[(key, value)], ascending⟩ := rfl
        simpa [segment, renderKey, keyedSegment, written] using spells
      | cons _ _ => exact canonical.elim

end PathElem

namespace Path

variable {segments : List (List Char)} {elems : List PathElem}

theorem each_iff :
    List.Forall₂ PathElem.Spells segments elems ↔
      (∀ elem ∈ elems, elem.IsCanonical) ∧ segments = elems.map PathElem.segment := by
  induction elems generalizing segments with
  | nil => simp
  | cons elem rest ih =>
    rw [List.forall₂_cons_right_iff, List.forall_mem_cons, List.map_cons]
    constructor
    · rintro ⟨segment, others, spells, each, rfl⟩
      obtain ⟨canonical, rfl⟩ := PathElem.spells_iff.mp spells
      obtain ⟨canonicals, rfl⟩ := ih.mp each
      exact ⟨⟨canonical, canonicals⟩, rfl⟩
    · rintro ⟨⟨canonical, canonicals⟩, rfl⟩
      exact ⟨_, _, PathElem.spells_iff.mpr ⟨canonical, rfl⟩, ih.mpr ⟨canonicals, rfl⟩, rfl⟩

theorem render_elems (elem : PathElem) (rest : List PathElem) :
    (elem :: rest).flatMap PathElem.render =
      '/' :: ['/'].intercalate ((elem :: rest).map PathElem.segment) := by
  rw [← Text.flatMap_mark (by simp), List.flatMap_map]
  rfl

theorem Spells.canonical (spells : Spells text elems) : ∀ elem ∈ elems, elem.IsCanonical := by
  cases spells with
  | none _ => exact List.forall_mem_nil _
  | segments _ _ _ each => exact (each_iff.mp each).1

theorem isCanonical_of_parse {source : String} (parsed : Path.parse source = .ok path) :
    path.IsCanonical := by
  obtain ⟨origin, target, spells⟩ := parse_eq_ok_iff_spells.mp parsed
  exact ⟨origin, target, spells.canonical⟩

theorem parse_render (canonical : path.IsCanonical) : Path.parse path.render = .ok path := by
  obtain ⟨origin, elems, target⟩ := path
  refine parse_eq_ok_iff_spells.mpr ⟨canonical.origin, canonical.target, ?_⟩
  rw [render, String.toList_ofList]
  cases elems with
  | nil => exact .none (.inl rfl)
  | cons elem rest =>
    have each := each_iff.mpr ⟨canonical.elems, rfl⟩
    have spells := Spells.segments (.inr rfl) (.inl rfl) (List.cons_ne_nil _ _) each
    rw [render_elems]
    simpa using spells

end Path

/-- A path comes back from its text if and only if it is canonical, and no other path is ever
read. -/
theorem Path.parse_render_iff (path : Path) :
    (Path.parse path.render = .ok path ↔ path.IsCanonical) ∧
    ((∃ text, Path.parse text = .ok path) ↔ path.IsCanonical) := by
  refine ⟨⟨isCanonical_of_parse, parse_render⟩, ?_, ?_⟩
  · rintro ⟨text, parsed⟩
    exact isCanonical_of_parse parsed
  · intro canonical
    exact ⟨path.render, parse_render canonical⟩

end PbrTelemetry
