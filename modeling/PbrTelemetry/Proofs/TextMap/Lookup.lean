import Mathlib.Data.List.Pairwise
import PbrTelemetry.TextMap

/-!
# Lookups in maps that were written entry by entry

Of the entries of one key the last one counts.  `get?_insertAll` says so for a list of entries, and
`get?_merge` for a map that is written over another one.  Where all entries of a key agree, their
order does not matter (`get?_ofList_of_agree`), and neither does the order of groups of entries that
have no key in common (`insertAll_flatten_perm`).
-/

namespace PbrTelemetry

variable {α : Type} {key : String} {value : α} {entries : List (String × α)}

/-! ## Entry lists -/

theorem mem_of_findEntry (found : findEntry key entries = some value) : (key, value) ∈ entries := by
  induction entries with
  | nil => cases found
  | cons entry rest ih =>
    obtain ⟨k, v⟩ := entry
    simp only [findEntry] at found
    split at found
    · next same =>
      cases found
      rw [same]
      exact List.mem_cons_self
    · exact List.mem_cons_of_mem _ (ih found)

theorem findEntry_isSome_of_mem (member : (key, value) ∈ entries) :
    (findEntry key entries).isSome := by
  induction entries with
  | nil => cases member
  | cons entry rest ih =>
    obtain ⟨k, v⟩ := entry
    simp only [findEntry]
    split
    · rfl
    · next different =>
      rcases List.mem_cons.mp member with same | member
      · cases same
        exact absurd rfl different
      · exact ih member

theorem findEntry_append (first second : List (String × α)) :
    findEntry key (first ++ second) = (findEntry key first).or (findEntry key second) := by
  induction first with
  | nil => simp [findEntry]
  | cons entry rest ih =>
    obtain ⟨k, v⟩ := entry
    simp only [List.cons_append, findEntry]
    split
    · simp
    · exact ih

theorem findEntry_eq_none_iff :
    findEntry key entries = none ↔ ∀ entry ∈ entries, entry.1 ≠ key := by
  induction entries with
  | nil => simp [findEntry]
  | cons entry rest ih =>
    by_cases same : entry.1 = key
    · simp [findEntry, same]
    · simp [findEntry, same, ih]

theorem findEntry_map {β : Type} (f : α → β) (entries : List (String × α)) :
    findEntry key (entries.map fun entry => (entry.1, f entry.2))
      = (findEntry key entries).map f := by
  induction entries with
  | nil => rfl
  | cons entry rest ih =>
    simp only [List.map_cons, findEntry, ih]
    split
    · rfl
    · rfl

def IsLastEntry (key : String) (value : α) (entries : List (String × α)) : Prop :=
  ∃ before after, entries = before ++ (key, value) :: after ∧ ∀ entry ∈ after, entry.1 ≠ key

theorem findEntry_reverse_eq_none_iff :
    findEntry key entries.reverse = none ↔ ∀ entry ∈ entries, entry.1 ≠ key := by
  rw [findEntry_eq_none_iff]
  simp only [List.mem_reverse]

theorem findEntry_reverse_eq_some_iff :
    findEntry key entries.reverse = some value ↔ IsLastEntry key value entries := by
  constructor
  · intro found
    induction entries with
    | nil => cases found
    | cons entry rest ih =>
      rw [List.reverse_cons, findEntry_append] at found
      cases later : findEntry key rest.reverse with
      | some other =>
        rw [later] at found
        cases found
        obtain ⟨before, after, rfl, last⟩ := ih later
        exact ⟨entry :: before, after, rfl, last⟩
      | none =>
        rw [later, Option.none_or] at found
        cases List.mem_singleton.mp (mem_of_findEntry found)
        exact ⟨[], rest, rfl, findEntry_reverse_eq_none_iff.mp later⟩
  · rintro ⟨before, after, rfl, last⟩
    have none : findEntry key after.reverse = none := findEntry_reverse_eq_none_iff.mpr last
    simp [List.reverse_append, findEntry_append, findEntry, none]

theorem Ascending.value_unique {other : α} (ascending : Ascending entries)
    (first : (key, value) ∈ entries) (second : (key, other) ∈ entries) : value = other := by
  induction entries with
  | nil => cases first
  | cons entry rest ih =>
    obtain ⟨above, below⟩ := List.pairwise_cons.mp ascending
    rcases List.mem_cons.mp first with atHead | inRest
    · rcases List.mem_cons.mp second with same | inRest
      · cases atHead.trans same.symm
        rfl
      · have ahead : entry.1 < key := above (key, other) inRest
        rw [← atHead] at ahead
        exact absurd ahead (String.lt_irrefl key)
    · rcases List.mem_cons.mp second with atHead | second
      · have ahead : entry.1 < key := above (key, value) inRest
        rw [← atHead] at ahead
        exact absurd ahead (String.lt_irrefl key)
      · exact ih below inRest second

theorem Ascending.findEntry_eq_some_iff (ascending : Ascending entries) :
    findEntry key entries = some value ↔ (key, value) ∈ entries := by
  constructor
  · exact mem_of_findEntry
  · intro member
    obtain ⟨other, found⟩ := Option.isSome_iff_exists.mp (findEntry_isSome_of_mem member)
    rw [found, ascending.value_unique (mem_of_findEntry found) member]

/-- In an ascending list it does not matter which entry of a key comes first, for there is one. -/
theorem Ascending.findEntry_reverse (ascending : Ascending entries) :
    findEntry key entries.reverse = findEntry key entries := by
  cases found : findEntry key entries with
  | some value =>
    have member := List.mem_reverse.mpr (mem_of_findEntry found)
    obtain ⟨other, there⟩ := Option.isSome_iff_exists.mp (findEntry_isSome_of_mem member)
    have back := List.mem_reverse.mp (mem_of_findEntry there)
    rw [there, ascending.value_unique back (mem_of_findEntry found)]
  | none =>
    cases there : findEntry key entries.reverse with
    | none => rfl
    | some value =>
      have back := List.mem_reverse.mp (mem_of_findEntry there)
      rw [ascending.findEntry_eq_some_iff.mpr back] at found
      cases found

/-! ## Maps -/

namespace TextMap

theorem get?_insertAll (map : TextMap α) (entries : List (String × α)) (key : String) :
    (map.insertAll entries).get? key = (findEntry key entries.reverse).or (map.get? key) := by
  induction entries generalizing map with
  | nil => rfl
  | cons entry rest ih =>
    rw [insertAll_cons, ih, get?_insert, List.reverse_cons, findEntry_append, Option.or_assoc]
    congr 1
    simp only [findEntry]
    split <;> simp

theorem get?_ofList (entries : List (String × α)) (key : String) :
    (ofList entries).get? key = findEntry key entries.reverse := by
  rw [ofList, get?_insertAll, get?_empty, Option.or_none]

theorem get?_merge (map other : TextMap α) (key : String) :
    (map.merge other).get? key = (other.get? key).or (map.get? key) := by
  rw [merge, get?_insertAll, other.ascending.findEntry_reverse]
  rfl

/-- To merge a map is to write the entries that it was made of. -/
theorem merge_ofList (map : TextMap α) (entries : List (String × α)) :
    map.merge (ofList entries) = map.insertAll entries := by
  apply ext_get?
  intro key
  rw [get?_merge, get?_ofList, get?_insertAll]

theorem ofList_entries (map : TextMap α) : ofList map.entries = map := by
  apply ext_get?
  intro key
  rw [get?_ofList, map.ascending.findEntry_reverse]
  rfl

def Interchange (first second : List (String × α)) : Prop :=
  ∀ map : TextMap α,
    (map.insertAll first).insertAll second = (map.insertAll second).insertAll first

instance : Std.Symm (@Interchange α) := ⟨fun _ _ interchange map => (interchange map).symm⟩

theorem interchange_of_apart {first second : List (String × α)}
    (apart : ∀ entry ∈ first, ∀ other ∈ second, entry.1 ≠ other.1) :
    Interchange first second := by
  intro map
  apply ext_get?
  intro key
  simp only [get?_insertAll]
  cases inFirst : findEntry key first.reverse with
  | none => rw [Option.none_or, Option.none_or]
  | some value =>
    have member := List.mem_reverse.mp (mem_of_findEntry inFirst)
    have absent : findEntry key second.reverse = none :=
      findEntry_reverse_eq_none_iff.mpr fun other there => (apart _ member other there).symm
    rw [absent, Option.none_or, Option.none_or]

/-- Groups of entries may be written in any order, if no two of them have a key in common. -/
theorem insertAll_flatten_perm {groups others : List (List (String × α))}
    (perm : groups.Perm others)
    (apart : groups.Pairwise fun group other =>
      ∀ entry ∈ group, ∀ second ∈ other, entry.1 ≠ second.1) (map : TextMap α) :
    map.insertAll groups.flatten = map.insertAll others.flatten := by
  have interchange := (apart.imp interchange_of_apart).forall_of_forall fun _ _ _ => rfl
  rw [insertAll, insertAll, List.foldl_flatten, List.foldl_flatten]
  exact perm.foldl_eq' (fun _ member _ there map => interchange member there map) map

theorem ofList_concat (entries : List (String × α)) (entry : String × α) :
    ofList (entries ++ [entry]) = (ofList entries).insert entry.1 entry.2 := by
  rw [ofList, insertAll_append]
  rfl

theorem get?_ofList_of_agree (member : (key, value) ∈ entries)
    (agree : ∀ other, (key, other) ∈ entries → other = value) :
    (ofList entries).get? key = some value := by
  obtain ⟨found, get⟩ :=
    Option.isSome_iff_exists.mp (findEntry_isSome_of_mem (List.mem_reverse.mpr member))
  have there := List.mem_reverse.mp (mem_of_findEntry get)
  rw [get?_ofList, get, agree found there]

end TextMap

end PbrTelemetry
