import PbrTelemetry.Proofs.Json.Number

/-!
# Trees that were read are in order

A tree that was read from text has the members of its objects in strictly increasing order of their
names (`canonical_of_parse?`), in whatever order and however often the text has them.
-/

namespace PbrTelemetry.Json

open Text (Reader)

variable {text rest : List Char} {tree : Json}

/-! ## Lists of trees in order -/

theorem canonicalItems_iff {items : List Json} :
    CanonicalItems items ↔ ∀ item ∈ items, item.Canonical := by
  induction items with
  | nil => simp [CanonicalItems]
  | cons item rest ih => rw [CanonicalItems, ih, List.forall_mem_cons]

theorem canonicalMembers_iff {members : List (String × Json)} :
    CanonicalMembers members ↔ ∀ m ∈ members, m.2.Canonical := by
  induction members with
  | nil => simp [CanonicalMembers]
  | cons m rest ih => rw [CanonicalMembers, ih, List.forall_mem_cons]

theorem canonical_foldl_insertEntry {found members : List (String × Json)}
    (ordered : Canonical (.object found)) (each : ∀ m ∈ members, m.2.Canonical) :
    Canonical (.object (members.foldl (fun found m => insertEntry m.1 m.2 found) found)) := by
  induction members generalizing found with
  | nil => exact ordered
  | cons m rest ih =>
    obtain ⟨first, others⟩ := List.forall_mem_cons.mp each
    obtain ⟨ascending, below⟩ := ordered
    refine ih ⟨ascending_insertEntry m.1 m.2 ascending, ?_⟩ others
    rw [canonicalMembers_iff] at below ⊢
    intro entry member
    rcases mem_insertEntry member with rfl | there
    · exact first
    · exact below entry there

theorem canonical_ofMembers {members : List (String × Json)}
    (each : ∀ m ∈ members, m.2.Canonical) : (ofMembers members).Canonical :=
  canonical_foldl_insertEntry ⟨ascending_nil, trivial⟩ each

/-! ## What is read -/

section

variable {α : Type} {entry : Reader α} {close : Char} {found : List α} {P : α → Prop}

theorem forall_mem_entries (each : ∀ text first rest, entry text = some (first, rest) → P first)
    {fuel : Nat} (read : entries entry close fuel text = some (found, rest)) :
    ∀ a ∈ found, P a := by
  induction fuel generalizing text found with
  | zero => cases read
  | succ fuel ih =>
    simp only [entries, Option.bind_eq_bind, Option.bind_eq_some_iff] at read
    obtain ⟨⟨first, behind⟩, atFirst, read⟩ := read
    have holds : P first := each _ _ _ atFirst
    split at read
    · split at read
      · cases read
        exact List.forall_mem_singleton.mpr holds
      · split at read
        · obtain ⟨⟨others, last⟩, more, read⟩ := Option.bind_eq_some_iff.mp read
          cases read
          exact List.forall_mem_cons.mpr ⟨holds, ih more⟩
        · cases read
    · cases read

theorem forall_mem_sequence (each : ∀ text first rest, entry text = some (first, rest) → P first)
    (read : sequence entry close text = some (found, rest)) : ∀ a ∈ found, P a := by
  rw [sequence] at read
  split at read
  · split at read
    · cases read
      exact List.forall_mem_nil _
    · exact forall_mem_entries each read
  · cases read

end

theorem canonical_of_member {value : Reader Json} {m : String × Json}
    (each : ∀ text tree rest, value text = some (tree, rest) → tree.Canonical)
    (read : member value text = some (m, rest)) : m.2.Canonical := by
  rw [member.eq_def] at read
  split at read
  · next text =>
    simp only [Option.bind_eq_bind, Option.bind_eq_some_iff] at read
    obtain ⟨⟨name, behind⟩, -, read⟩ := read
    split at read
    · next after _ =>
      obtain ⟨⟨tree, last⟩, below, read⟩ := Option.bind_eq_some_iff.mp read
      cases read
      exact each _ _ _ below
    · cases read
  · cases read

theorem canonical_of_number (read : number text = some (tree, rest)) : tree.Canonical := by
  rcases exists_of_number read with ⟨n, rfl⟩ | ⟨x, rfl⟩
  · trivial
  · trivial

/-- Arrays and objects are read from what nests one level less. -/
theorem cases_of_value {depth : Nat} (read : value depth text = some (tree, rest)) :
    (tree = .null ∨ (∃ value, tree = .bool value) ∨ ∃ text, tree = .string text) ∨
    number text = some (tree, rest) ∨
    (∃ level items behind, depth = level + 1 ∧ tree = .array items ∧
      sequence (value level) ']' behind = some (items, rest)) ∨
    (∃ level members behind, depth = level + 1 ∧ tree = ofMembers members ∧
      sequence (member (value level)) '\x7d' behind = some (members, rest)) := by
  rw [value.eq_def] at read
  split at read
  · cases read
    exact .inl (.inl rfl)
  · cases read
    exact .inl (.inr (.inl ⟨true, rfl⟩))
  · cases read
    exact .inl (.inr (.inl ⟨false, rfl⟩))
  · obtain ⟨⟨text, behind⟩, -, same⟩ := Option.map_eq_some_iff.mp read
    cases same
    exact .inl (.inr (.inr ⟨text, rfl⟩))
  · next level behind =>
    obtain ⟨⟨items, after⟩, found, same⟩ := Option.map_eq_some_iff.mp read
    cases same
    exact .inr (.inr (.inl ⟨level, items, behind, rfl, rfl, found⟩))
  · next level behind =>
    obtain ⟨⟨members, after⟩, found, same⟩ := Option.map_eq_some_iff.mp read
    cases same
    exact .inr (.inr (.inr ⟨level, members, behind, rfl, rfl, found⟩))
  · exact .inr (.inl read)

theorem canonical_of_value {depth : Nat} (read : value depth text = some (tree, rest)) :
    tree.Canonical := by
  induction depth using Nat.strongRecOn generalizing text tree rest with
  | ind depth ih =>
    rcases cases_of_value read with (rfl | ⟨value, rfl⟩ | ⟨text, rfl⟩) | number |
      ⟨level, items, behind, rfl, rfl, found⟩ | ⟨level, members, behind, rfl, rfl, found⟩
    · trivial
    · trivial
    · trivial
    · exact canonical_of_number number
    · exact canonicalItems_iff.mpr
        (forall_mem_sequence (fun _ _ _ inner => ih level (Nat.lt_succ_self level) inner) found)
    · apply canonical_ofMembers
      exact forall_mem_sequence (fun _ _ _ inner => canonical_of_member
        (fun _ _ _ below => ih level (Nat.lt_succ_self level) below) inner) found

/-- The members of every object in a tree that was read are in order. -/
theorem canonical_of_parse? (read : parse? text = some tree) : tree.Canonical := by
  rw [parse?, Option.bind_eq_bind, Option.bind_eq_some_iff] at read
  obtain ⟨⟨found, behind⟩, value, ends⟩ := read
  dsimp only at ends
  split at ends
  · cases ends
    exact canonical_of_value value
  · cases ends

theorem canonical_of_parseBytes? {bytes : List UInt8} (read : parseBytes? bytes = some tree) :
    tree.Canonical := by
  rw [parseBytes?, Option.bind_eq_bind, Option.bind_eq_some_iff] at read
  obtain ⟨text, -, parsed⟩ := read
  exact canonical_of_parse? parsed

end PbrTelemetry.Json
