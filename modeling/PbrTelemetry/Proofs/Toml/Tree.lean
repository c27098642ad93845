import PbrTelemetry.Toml.Parser

/-!
# The tree of plain lines

Lines whose keys have no dots add up to what they say: pairs to a table of these entries in their
order (`assignAll_undotted`), a header with pairs to one more entry (`addTo_table`), and headers of
one list to that list (`foldlM_addTo_elements`).  All of this takes names that do not occur twice.
-/

namespace PbrTelemetry.Toml

variable {name : String} {root entries rest : Entries} {change : Option Node → Option Node}

def names (entries : Entries) : List String := entries.map Prod.fst

def undotted (entries : Entries) : List (Key × Node) :=
  entries.map fun (name, value) => (⟨[], name⟩, value)

/-! ## Pairs -/

theorem alter_append (fresh : name ∉ names root) :
    alter name change (root ++ rest) = (alter name change rest).map (root ++ ·) := by
  induction root with
  | nil => simp
  | cons entry root ih =>
    obtain ⟨key, value⟩ := entry
    obtain ⟨other, freshRest⟩ := not_or.mp (mt List.mem_cons.mpr fresh)
    rw [List.cons_append, alter, if_neg (Ne.symm other), ih freshRest]
    cases alter name change rest <;> rfl

theorem alter_fresh (fresh : name ∉ names root) :
    alter name change root = (change none).map fun value => root ++ [(name, value)] := by
  have extended : alter name change (root ++ []) = (alter name change []).map (root ++ ·) :=
    alter_append fresh
  rw [List.append_nil] at extended
  rw [extended, alter]
  cases change none <;> rfl

theorem alter_last {value : Node} (fresh : name ∉ names root) :
    alter name change (root ++ [(name, value)])
      = (change (some value)).map fun value => root ++ [(name, value)] := by
  rw [alter_append fresh, alter, if_pos rfl]
  cases change (some value) <;> rfl

theorem assignAll_undotted (distinct : (names (root ++ entries)).Nodup) :
    assignAll (undotted entries) root = some (root ++ entries) := by
  induction entries generalizing root with
  | nil => simp [assignAll, undotted]
  | cons entry entries ih =>
    obtain ⟨name, value⟩ := entry
    have fresh : name ∉ names root := by
      rw [names, List.map_append, List.nodup_append] at distinct
      exact fun member => distinct.2.2 name member name List.mem_cons_self rfl
    have first : assign name value [] root = some (root ++ [(name, value)]) := alter_fresh fresh
    have others : assignAll (undotted entries) (root ++ [(name, value)])
        = some (root ++ [(name, value)] ++ entries) := ih (by simpa using distinct)
    have step : assignAll (undotted ((name, value) :: entries)) root
        = (assign name value [] root).bind (assignAll (undotted entries)) := rfl
    rw [step, first, Option.bind_some, others, List.append_assoc, List.singleton_append]

/-! ## Headers -/

theorem addTo_table (fresh : name ∉ names root) (distinct : (names entries).Nodup) :
    Block.addTo ⟨.table ⟨[], name⟩, undotted entries⟩ root
      = some (root ++ [(name, .table .header entries)]) := by
  have all : assignAll (undotted entries) [] = some entries := assignAll_undotted distinct
  rw [Block.addTo]
  simp only [descend]
  rw [alter_fresh fresh, all]
  rfl

def elementBlock (name : String) (entries : Entries) : Block :=
  ⟨.element ⟨[], name⟩, undotted entries⟩

variable {elements : List Entries}

/-- The first table starts the list, and every other one goes to its end. -/
theorem addTo_element (fresh : name ∉ names root) (distinct : (names entries).Nodup)
    (before : List Entries) :
    (elementBlock name entries).addTo
        (root ++ if before = [] then [] else [(name, .tables before)])
      = some (root ++ [(name, .tables (before ++ [entries]))]) := by
  have all : assignAll (undotted entries) [] = some entries := assignAll_undotted distinct
  rw [elementBlock, Block.addTo]
  simp only [descend]
  by_cases start : before = []
  · rw [start, if_pos rfl, List.append_nil, alter_fresh fresh, all]
    rfl
  · rw [if_neg start, alter_last fresh, all]
    rfl

theorem foldlM_addTo_elements (fresh : elements ≠ [] → name ∉ names root)
    (distinct : ∀ entries ∈ elements, (names entries).Nodup) (before : List Entries) :
    (elements.map (elementBlock name)).foldlM (fun root block => block.addTo root)
        (root ++ if before = [] then [] else [(name, .tables before)])
      = some (root ++ if before ++ elements = [] then []
          else [(name, .tables (before ++ elements))]) := by
  induction elements generalizing before with
  | nil => simp
  | cons entries elements ih =>
    have absent := fresh (List.cons_ne_nil _ _)
    obtain ⟨first, others⟩ := List.forall_mem_cons.mp distinct
    have behind := ih (fun _ => absent) others (before ++ [entries])
    rw [List.map_cons, List.foldlM_cons, addTo_element absent first]
    simpa using behind

/-! ## Lines -/

def pairLines (entries : Entries) : List Line :=
  entries.map fun (name, value) => .pair ⟨[], name⟩ value

def tableLines (name : String) (entries : Entries) : List Line :=
  .header (.table ⟨[], name⟩) :: pairLines entries

def elementLines (name : String) (elements : List Entries) : List Line :=
  elements.flatMap fun entries => .header (.element ⟨[], name⟩) :: pairLines entries

variable {lines : List Line}

theorem blocks_pairLines :
    blocks (pairLines entries ++ lines)
      = (undotted entries ++ (blocks lines).1, (blocks lines).2) := by
  induction entries with
  | nil => rfl
  | cons entry entries ih =>
    obtain ⟨name, value⟩ := entry
    rw [pairLines, List.map_cons, List.cons_append, blocks]
    rw [pairLines] at ih
    rw [ih]
    rfl

/-- Lines that start with a header, or no lines. -/
theorem blocks_tableLines (apart : (blocks lines).1 = []) :
    blocks (tableLines name entries ++ lines)
      = ([], ⟨.table ⟨[], name⟩, undotted entries⟩ :: (blocks lines).2) := by
  rw [tableLines, List.cons_append, blocks, blocks_pairLines, apart, List.append_nil]

theorem blocks_elementLines :
    blocks (elementLines name elements) = ([], elements.map (elementBlock name)) := by
  induction elements with
  | nil => rfl
  | cons entries elements ih =>
    rw [elementLines, List.flatMap_cons, List.cons_append, blocks, blocks_pairLines]
    rw [elementLines] at ih
    rw [ih]
    simp [elementBlock]

end PbrTelemetry.Toml
