import PbrTelemetry.Path.Text

/-!
# Paths that can be told from their texts

A path text has no escapes, and an element with two keys is written as a text that cannot be read at
all, so that different paths have different texts does not follow from reading them back.  It
follows from where a text divides: a name ends at the first slash or opening bracket, a key at the
first equals sign, and a value at the first closing bracket.  In a delimited path
(`Path.IsDelimited`) none of the parts holds the mark that ends it, and then the elements are
settled by the text (`Path.elems_eq_of_render_eq`), whatever the number of keys.
-/

namespace PbrTelemetry

/-! ## Where a part ends -/

/-- A part of a text ends where the first character stands that it cannot have. -/
theorem Text.part_unique (inside : Char → Bool) {part other rest rest' : List Char}
    (within : ∀ c ∈ part, inside c = true) (within' : ∀ c ∈ other, inside c = true)
    (ends : ∀ c ∈ rest.head?, inside c = false) (ends' : ∀ c ∈ rest'.head?, inside c = false)
    (same : part ++ rest = other ++ rest') : part = other ∧ rest = rest' := by
  have taken : ∀ first behind : List Char, (∀ c ∈ first, inside c = true) →
      (∀ c ∈ behind.head?, inside c = false) → (first ++ behind).takeWhile inside = first := by
    intro first behind all stop
    rw [List.takeWhile_append_of_pos all]
    cases behind with
    | nil => simp
    | cons c others => simp [stop c rfl]
  have parts : part = other := by
    rw [← taken part rest within ends, same, taken other rest' within' ends']
  subst parts
  exact ⟨rfl, List.append_cancel_left same⟩

namespace PathElem

def IsDelimitedKey (entry : String × String) : Prop :=
  '=' ∉ entry.1.toList ∧ ']' ∉ entry.2.toList

instance (entry : String × String) : Decidable (IsDelimitedKey entry) :=
  inferInstanceAs (Decidable (_ ∧ _))

/-- No part of the element holds the mark that ends it in a text. -/
def IsDelimited (elem : PathElem) : Prop :=
  ('/' ∉ elem.name.toList ∧ '[' ∉ elem.name.toList) ∧
    ∀ entry ∈ elem.keys.entries, IsDelimitedKey entry

instance (elem : PathElem) : Decidable elem.IsDelimited :=
  inferInstanceAs (Decidable ((_ ∧ _) ∧ ∀ entry ∈ elem.keys.entries, IsDelimitedKey entry))

variable {entries others : List (String × String)} {rest rest' : List Char}

theorem renderKey_unique {entry other : String × String}
    (delimited : IsDelimitedKey entry) (delimited' : IsDelimitedKey other)
    (same : renderKey entry ++ rest = renderKey other ++ rest') : entry = other ∧ rest = rest' := by
  have apart : ∀ (mark : Char) (text : List Char), mark ∉ text →
      ∀ c ∈ text, (c != mark) = true := by
    intro mark text absent c member
    rw [bne_iff_ne]
    rintro rfl
    exact absent member
  simp only [renderKey, List.cons_append, List.append_assoc, List.nil_append, List.cons.injEq,
    true_and] at same
  obtain ⟨keys, behind⟩ := Text.part_unique (· != '=') (apart '=' _ delimited.1)
    (apart '=' _ delimited'.1) (by simp) (by simp) same
  obtain ⟨values, tails⟩ := Text.part_unique (· != ']') (apart ']' _ delimited.2)
    (apart ']' _ delimited'.2) (by simp) (by simp) (List.cons.inj behind).2
  exact ⟨Prod.ext (String.toList_inj.mp keys) (String.toList_inj.mp values),
    (List.cons.inj tails).2⟩

/-- The keys of an element are followed by something that is no key. -/
theorem renderKeys_unique (delimited : ∀ entry ∈ entries, IsDelimitedKey entry)
    (delimited' : ∀ entry ∈ others, IsDelimitedKey entry)
    (ends : '[' ∉ rest.head?) (ends' : '[' ∉ rest'.head?)
    (same : entries.flatMap renderKey ++ rest = others.flatMap renderKey ++ rest') :
    entries = others ∧ rest = rest' := by
  induction entries generalizing others with
  | nil =>
    cases others with
    | nil => exact ⟨rfl, same⟩
    | cons other later =>
      subst same
      exact absurd rfl ends
  | cons entry later ih =>
    cases others with
    | nil =>
      rw [List.flatMap_nil, List.nil_append] at same
      subst same
      exact absurd rfl ends'
    | cons other later' =>
      obtain ⟨first, safe⟩ := List.forall_mem_cons.mp delimited
      obtain ⟨first', safe'⟩ := List.forall_mem_cons.mp delimited'
      rw [List.flatMap_cons, List.flatMap_cons, List.append_assoc, List.append_assoc] at same
      obtain ⟨rfl, behind⟩ := renderKey_unique first first' same
      obtain ⟨rfl, tails⟩ := ih safe safe' behind
      exact ⟨rfl, tails⟩

theorem render_unique {elem other : PathElem} (delimited : elem.IsDelimited)
    (delimited' : other.IsDelimited) (ends : ∀ c ∈ rest.head?, c = '/')
    (ends' : ∀ c ∈ rest'.head?, c = '/') (same : elem.render ++ rest = other.render ++ rest') :
    elem = other ∧ rest = rest' := by
  have named : ∀ found : PathElem, found.IsDelimited →
      ∀ c ∈ found.name.toList, (c != '/' && c != '[') = true := by
    intro found safe c member
    rw [Bool.and_eq_true, bne_iff_ne, bne_iff_ne]
    constructor
    · rintro rfl
      exact safe.1.1 member
    · rintro rfl
      exact safe.1.2 member
  -- Behind a name there is a key, or whatever is behind the element
  have behind : ∀ (keys : List (String × String)) (tail : List Char), (∀ c ∈ tail.head?, c = '/') →
      ∀ c ∈ (keys.flatMap renderKey ++ tail).head?, (c != '/' && c != '[') = false := by
    intro keys tail stop c first
    cases keys with
    | nil => simp [stop c first]
    | cons key later =>
      cases first
      rfl
  have noKey : ∀ tail : List Char, (∀ c ∈ tail.head?, c = '/') → '[' ∉ tail.head? := by
    intro tail stop bracket
    cases stop '[' bracket
  simp only [PathElem.render, List.cons_append, List.append_assoc, List.cons.injEq,
    true_and] at same
  obtain ⟨names, same⟩ := Text.part_unique _ (named elem delimited) (named other delimited')
    (behind _ rest ends) (behind _ rest' ends') same
  obtain ⟨keys, tails⟩ := renderKeys_unique delimited.2 delimited'.2 (noKey rest ends)
    (noKey rest' ends') same
  obtain ⟨name, ⟨entries, ascending⟩⟩ := elem
  obtain ⟨name', ⟨entries', ascending'⟩⟩ := other
  cases String.toList_inj.mp names
  cases keys
  exact ⟨rfl, tails⟩

theorem head?_flatMap_render (elems : List PathElem) :
    ∀ c ∈ (elems.flatMap render).head?, c = '/' := by
  intro c first
  cases elems with
  | nil => cases first
  | cons elem later =>
    cases first
    rfl

end PathElem

namespace Path

def IsDelimited (path : Path) : Prop := ∀ elem ∈ path.elems, elem.IsDelimited

instance (path : Path) : Decidable path.IsDelimited :=
  inferInstanceAs (Decidable (∀ elem ∈ path.elems, elem.IsDelimited))

theorem elems_unique {elems others : List PathElem} (delimited : ∀ elem ∈ elems, elem.IsDelimited)
    (delimited' : ∀ elem ∈ others, elem.IsDelimited)
    (same : elems.flatMap PathElem.render = others.flatMap PathElem.render) : elems = others := by
  induction elems generalizing others with
  | nil =>
    cases others with
    | nil => rfl
    | cons other later => cases same
  | cons elem rest ih =>
    cases others with
    | nil => cases same
    | cons other later =>
      obtain ⟨first, safe⟩ := List.forall_mem_cons.mp delimited
      obtain ⟨first', safe'⟩ := List.forall_mem_cons.mp delimited'
      rw [List.flatMap_cons, List.flatMap_cons] at same
      obtain ⟨rfl, tails⟩ := PathElem.render_unique first first'
        (PathElem.head?_flatMap_render rest) (PathElem.head?_flatMap_render later) same
      rw [ih safe safe' tails]

/-- Delimited paths with the same text have the same elements. -/
theorem elems_eq_of_render_eq {first second : Path} (delimited : first.IsDelimited)
    (delimited' : second.IsDelimited) (same : first.render = second.render) :
    first.elems = second.elems :=
  elems_unique delimited delimited' (String.ofList_injective same)

end Path

end PbrTelemetry
