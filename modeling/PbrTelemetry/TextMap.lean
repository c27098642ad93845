/-!
# Finite maps keyed by text

`TextMap α` is a finite map from strings to `α`, held as the list of its entries in strictly
increasing key order.  Strings are ordered by code point, which is also the order of their UTF-8
bytes.

The order is part of the type, so a map has one representation: two maps with the same lookups
are equal (`TextMap.ext_get?`), and the order of insertions shows only where one key is written
twice (`TextMap.get?_insert`).
-/

namespace PbrTelemetry

/-! ## Entry lists

The operations on bare entry lists.  `insertEntry` makes one pass and replaces on a hit, so the
two lookup lemmas hold without any assumption on the order of the list. -/

/-- Put an entry before the first larger key, replacing the entry of an equal key. -/
def insertEntry {α : Type} (key : String) (value : α) :
    List (String × α) → List (String × α)
  | [] => [(key, value)]
  | (k, v) :: rest =>
    if key < k then (key, value) :: (k, v) :: rest
    else if key = k then (key, value) :: rest
    else (k, v) :: insertEntry key value rest

def findEntry {α : Type} (key : String) : List (String × α) → Option α
  | [] => none
  | (k, v) :: rest => if k = key then some v else findEntry key rest

theorem findEntry_insertEntry_self {α : Type} (key : String) (value : α)
    (entries : List (String × α)) :
    findEntry key (insertEntry key value entries) = some value := by
  induction entries with
  | nil => simp [insertEntry, findEntry]
  | cons entry rest ih =>
    obtain ⟨k, v⟩ := entry
    rw [insertEntry]
    split
    · simp [findEntry]
    · split
      · simp [findEntry]
      · rename_i hne
        simp [findEntry, Ne.symm hne, ih]

theorem findEntry_insertEntry_ne {α : Type} {key other : String} (h : key ≠ other) (value : α)
    (entries : List (String × α)) :
    findEntry other (insertEntry key value entries) = findEntry other entries := by
  induction entries with
  | nil => simp [insertEntry, findEntry, h]
  | cons entry rest ih =>
    obtain ⟨k, v⟩ := entry
    rw [insertEntry]
    split
    · simp [findEntry, h]
    · split
      · rename_i heq
        subst heq
        simp [findEntry, h]
      · by_cases hk : k = other <;> simp [findEntry, hk, ih]

theorem mem_insertEntry {α : Type} {key : String} {value : α} {entry : String × α}
    {entries : List (String × α)} (h : entry ∈ insertEntry key value entries) :
    entry = (key, value) ∨ entry ∈ entries := by
  induction entries with
  | nil => simpa [insertEntry] using h
  | cons head rest ih =>
    obtain ⟨k, v⟩ := head
    rw [insertEntry] at h
    split at h
    · simpa using h
    · split at h
      · rcases List.mem_cons.mp h with h | h
        · exact .inl h
        · exact .inr (List.mem_cons_of_mem _ h)
      · rcases List.mem_cons.mp h with h | h
        · exact .inr (h ▸ List.mem_cons_self)
        · rcases ih h with h | h
          · exact .inl h
          · exact .inr (List.mem_cons_of_mem _ h)

def Ascending {α : Type} (entries : List (String × α)) : Prop :=
  entries.Pairwise fun a b => a.1 < b.1

theorem ascending_nil {α : Type} : Ascending ([] : List (String × α)) := List.Pairwise.nil

theorem ascending_insertEntry {α : Type} (key : String) (value : α)
    {entries : List (String × α)} (h : Ascending entries) :
    Ascending (insertEntry key value entries) := by
  induction entries with
  | nil => simp [insertEntry, Ascending]
  | cons entry rest ih =>
    obtain ⟨k, v⟩ := entry
    obtain ⟨hhead, hrest⟩ := List.pairwise_cons.mp h
    rw [insertEntry]
    split
    · rename_i hlt
      refine List.pairwise_cons.mpr ⟨fun a ha => ?_, h⟩
      rcases List.mem_cons.mp ha with rfl | ha
      · exact hlt
      · exact String.lt_trans hlt (hhead a ha)
    · split
      · rename_i heq
        subst heq
        exact List.pairwise_cons.mpr ⟨hhead, hrest⟩
      · rename_i hnlt hne
        refine List.pairwise_cons.mpr ⟨fun a ha => ?_, ih hrest⟩
        rcases mem_insertEntry ha with rfl | ha
        · exact Std.lt_of_le_of_ne (String.not_lt.mp hnlt) (Ne.symm hne)
        · exact hhead a ha

theorem text_trichotomy (a b : String) : a < b ∨ a = b ∨ b < a := by
  by_cases hab : a < b
  · exact .inl hab
  · by_cases hba : b < a
    · exact .inr (.inr hba)
    · exact .inr (.inl (String.le_antisymm (String.not_lt.mp hba) (String.not_lt.mp hab)))

theorem findEntry_eq_none {α : Type} {key : String} {entries : List (String × α)}
    (h : ∀ e ∈ entries, key < e.1) : findEntry key entries = none := by
  induction entries with
  | nil => rfl
  | cons entry rest ih =>
    have hne : entry.1 ≠ key := fun e => String.lt_irrefl key (by
      have := h entry List.mem_cons_self
      rwa [e] at this)
    simp [findEntry, hne, ih fun e he => h e (List.mem_cons_of_mem _ he)]

theorem Ascending.eq_of_findEntry_eq {α : Type} :
    ∀ {first second : List (String × α)}, Ascending first → Ascending second →
      (∀ key, findEntry key first = findEntry key second) → first = second
  | [], [], _, _, _ => rfl
  | [], (k, v) :: rest, _, _, h => by simpa [findEntry] using h k
  | (k, v) :: rest, [], _, _, h => by simpa [findEntry] using h k
  | (k, v) :: rest, (k', v') :: rest', h₁, h₂, h => by
    obtain ⟨hhead₁, hrest₁⟩ := List.pairwise_cons.mp h₁
    obtain ⟨hhead₂, hrest₂⟩ := List.pairwise_cons.mp h₂
    have hk : k = k' := by
      rcases text_trichotomy k k' with hlt | heq | hgt
      · have hnone : findEntry k ((k', v') :: rest') = none :=
          findEntry_eq_none fun e he => by
            rcases List.mem_cons.mp he with rfl | he
            · exact hlt
            · exact String.lt_trans hlt (hhead₂ e he)
        have := h k
        rw [hnone] at this
        simp [findEntry] at this
      · exact heq
      · have hnone : findEntry k' ((k, v) :: rest) = none :=
          findEntry_eq_none fun e he => by
            rcases List.mem_cons.mp he with rfl | he
            · exact hgt
            · exact String.lt_trans hgt (hhead₁ e he)
        have := h k'
        rw [hnone] at this
        simp [findEntry] at this
    subst hk
    have hv : v = v' := by simpa [findEntry] using h k
    subst hv
    have htail : rest = rest' := Ascending.eq_of_findEntry_eq hrest₁ hrest₂ fun key => by
      by_cases hkey : k = key
      · subst hkey
        rw [findEntry_eq_none hhead₁, findEntry_eq_none hhead₂]
      · simpa [findEntry, hkey] using h key
    rw [htail]

/-! ## The map -/

/-- A finite map from strings, its entries in strictly increasing key order. -/
structure TextMap (α : Type) where
  entries : List (String × α)
  ascending : Ascending entries

namespace TextMap

variable {α : Type}

def empty : TextMap α := ⟨[], ascending_nil⟩

instance : Inhabited (TextMap α) := ⟨empty⟩

instance [DecidableEq α] : DecidableEq (TextMap α) := fun a b =>
  if h : a.entries = b.entries then
    isTrue (by cases a; cases b; cases h; rfl)
  else isFalse fun e => h (congrArg entries e)

instance [Repr α] : Repr (TextMap α) := ⟨fun m n => reprPrec m.entries n⟩

def insert (map : TextMap α) (key : String) (value : α) : TextMap α :=
  ⟨insertEntry key value map.entries, ascending_insertEntry key value map.ascending⟩

def get? (map : TextMap α) (key : String) : Option α := findEntry key map.entries

/-- Write the entries of a list one after the other, so the last entry of a key stays. -/
def insertAll (map : TextMap α) (entries : List (String × α)) : TextMap α :=
  entries.foldl (fun m e => m.insert e.1 e.2) map

def ofList (entries : List (String × α)) : TextMap α := empty.insertAll entries

/-- Write all entries of `other` over those of `map`. -/
def merge (map other : TextMap α) : TextMap α := map.insertAll other.entries

def isEmpty (map : TextMap α) : Bool := map.entries.isEmpty

@[simp] theorem get?_empty (key : String) : (empty : TextMap α).get? key = none := rfl

theorem get?_insert (map : TextMap α) (key other : String) (value : α) :
    (map.insert key value).get? other = if key = other then some value else map.get? other := by
  by_cases h : key = other
  · subst h
    simp [insert, get?, findEntry_insertEntry_self]
  · simp [insert, get?, findEntry_insertEntry_ne h, h]

theorem ext_get? {map other : TextMap α} (h : ∀ key, map.get? key = other.get? key) :
    map = other := by
  obtain ⟨entries, ascending⟩ := map
  obtain ⟨entries', ascending'⟩ := other
  have : entries = entries' := ascending.eq_of_findEntry_eq ascending' h
  subst this
  rfl

@[simp] theorem insertAll_nil (map : TextMap α) : map.insertAll [] = map := rfl

@[simp] theorem insertAll_cons (map : TextMap α) (entry : String × α)
    (entries : List (String × α)) :
    map.insertAll (entry :: entries) = (map.insert entry.1 entry.2).insertAll entries := rfl

theorem insertAll_append (map : TextMap α) (first second : List (String × α)) :
    map.insertAll (first ++ second) = (map.insertAll first).insertAll second := by
  simp [insertAll, List.foldl_append]

end TextMap

end PbrTelemetry
