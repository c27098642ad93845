import PbrTelemetry.Proofs.TextMap.Lookup
import PbrTelemetry.Proofs.Wire.Kinds
import PbrTelemetry.Wire.Decode

/-!
# Paths are read back

The keys of an element are entries of a map, each one a message of its own.  They are written in
ascending order and inserted one after the other, which gives the same map.
-/

namespace PbrTelemetry

open Wire

/-- The levels that a path element takes below itself. -/
def PathElem.nesting (elem : PathElem) : Nat := levels (elem.keys.entries.map fun _ => 0)

def Path.nesting (path : Path) : Nat := levels (path.elems.map PathElem.nesting)

/-! ## Keys -/

theorem PathElem.keyShape_faithful :
    Shape.Faithful keyShape keyFields (fun _ => 0) ("", "") where
  known depth key := by
    simp only [keyFields, List.forall_mem_append, forall_mem_textField, Shape.knows_bytes]
    simp [keyShape]
  rebuild depth key small _ := by
    have name : (textField 1 key.1).foldlM (keyShape depth).absorb ("", "") = some (key.1, "") :=
      foldlM_textField (by simp [keyShape]) (by simp [keyShape])
    have value : (textField 2 key.2).foldlM (keyShape depth).absorb (key.1, "") = some key :=
      foldlM_textField (by simp [keyShape]) (by simp [keyShape])
    rw [keyFields, List.foldlM_append, name]
    exact value
  keeps depth _ _ _ _ _ := Nat.zero_le depth
  flat := rfl

/-! ## Elements -/

theorem PathElem.nesting_le_iff {elem : PathElem} {depth : Nat} :
    elem.nesting ≤ depth ↔ ∀ key ∈ elem.keys.entries, 0 < depth := by
  rw [nesting, levels_le_iff, List.forall_mem_map]

theorem PathElem.shape_faithful :
    Shape.Faithful PathElem.shape PathElem.fields PathElem.nesting { name := "" } where
  known depth elem := by
    simp only [PathElem.fields, List.forall_mem_append, List.forall_mem_map, forall_mem_textField,
      Shape.knows_bytes, Shape.knows_messageField]
    simp [PathElem.shape]
  rebuild depth elem small shallow := by
    simp only [PathElem.fields, List.forall_mem_append, List.forall_mem_map,
      Field.isSmall_messageField] at small
    rw [nesting_le_iff] at shallow
    have name : (textField 1 elem.name).foldlM (shape depth).absorb { name := "" }
        = some { name := elem.name } :=
      foldlM_textField (by simp [shape]) (by simp [shape])
    have keys : (elem.keys.entries.map fun key => messageField 2 (keyFields key)).foldlM
        (shape depth).absorb { name := elem.name }
        = some { name := elem.name, keys := .ofList elem.keys.entries } := by
      apply keyShape_faithful.foldlM_repeated
        (fun keys => ({ name := elem.name, keys := .ofList keys } : PathElem)) _ small.2 shallow
      intro before content
      simp only [shape, TextMap.ofList_concat]
    rw [TextMap.ofList_entries] at keys
    rw [PathElem.fields, List.foldlM_append, name]
    exact keys
  keeps depth elem field result shallow absorbed := by
    simp only [shape] at absorbed
    split at absorbed
    · obtain ⟨name, -, rfl⟩ := Option.map_eq_some_iff.mp absorbed
      exact shallow
    · obtain ⟨key, merged, rfl⟩ := Option.map_eq_some_iff.mp absorbed
      have room : 0 < depth := keyShape_faithful.mergeNested_lt merged (Nat.zero_le _)
      exact nesting_le_iff.mpr fun _ _ => room
    · cases absorbed
  flat := rfl

/-! ## Paths -/

theorem Path.nesting_le_iff {path : Path} {depth : Nat} :
    path.nesting ≤ depth ↔ ∀ elem ∈ path.elems, elem.nesting < depth := by
  rw [nesting, levels_le_iff, List.forall_mem_map]

theorem Path.shape_faithful : Shape.Faithful Path.shape Path.fields Path.nesting {} where
  known depth path := by
    simp only [Path.fields, List.forall_mem_append, List.forall_mem_map, forall_mem_textField,
      Shape.knows_bytes, Shape.knows_messageField]
    simp [Path.shape]
  rebuild depth path small shallow := by
    simp only [Path.fields, List.forall_mem_append, List.forall_mem_map,
      Field.isSmall_messageField] at small
    rw [nesting_le_iff] at shallow
    have origin : (textField 2 path.origin).foldlM (shape depth).absorb {}
        = some { origin := path.origin } :=
      foldlM_textField (by simp [shape]) (by simp [shape])
    have elems : (path.elems.map fun elem => messageField 3 elem.fields).foldlM
        (shape depth).absorb { origin := path.origin }
        = some { origin := path.origin, elems := path.elems } :=
      PathElem.shape_faithful.foldlM_repeated
        (fun elems => ({ origin := path.origin, elems } : Path)) (fun _ _ => rfl) small.1.2 shallow
    have target : (textField 4 path.target).foldlM (shape depth).absorb
        { origin := path.origin, elems := path.elems } = some path :=
      foldlM_textField (by simp [shape]) (by simp [shape])
    rw [Path.fields, List.foldlM_append, List.foldlM_append, origin]
    simp only [Option.bind_eq_bind, Option.bind_some, elems, target]
  keeps depth path field result shallow absorbed := by
    simp only [shape] at absorbed
    split at absorbed
    · obtain ⟨origin, -, rfl⟩ := Option.map_eq_some_iff.mp absorbed
      exact shallow
    · obtain ⟨elem, merged, rfl⟩ := Option.map_eq_some_iff.mp absorbed
      have room := PathElem.shape_faithful.mergeNested_lt merged (Nat.zero_le _)
      have before := nesting_le_iff.mp shallow
      rw [nesting_le_iff]
      exact List.forall_mem_append.mpr ⟨before, List.forall_mem_singleton.mpr room⟩
    · obtain ⟨target, -, rfl⟩ := Option.map_eq_some_iff.mp absorbed
      exact shallow
    · cases absorbed
  flat := rfl

end PbrTelemetry
