import PbrTelemetry.Decode.Flatten

/-!
# Pointers into a tree

`Json.pointers` lists the leaves of a tree with the whole way that leads to each: all member names
and all indices.  `leaves_eq_pointers` says that the keys of a flat map are these ways with some
indices left out, so that what is to be shown of keys can be shown of ways first.

A part of a tree (`Json.Part`) has some of its members.  What it has below them it has in the same
places as the tree, apart from objects and arrays of which nothing is left (`Part.mem_pointers`).
-/

namespace PbrTelemetry

namespace Json

inductive PointerToken where
  | member (name : String)
  | index (place : Nat)
  deriving DecidableEq, Repr

def PointerToken.text : PointerToken → List Char
  | member name => escapeToken name.toList
  | index place => indexToken place

mutual

/-- The leaves of a tree with the ways to them, in the order in which they stand. -/
def pointers : Json → List (List PointerToken × Json)
  | .array (item :: rest) => itemPointers 0 (item :: rest)
  | .object (m :: rest) => memberPointers (m :: rest)
  | leaf => [([], leaf)]

def itemPointers (place : Nat) : List Json → List (List PointerToken × Json)
  | [] => []
  | item :: rest =>
    (pointers item).map (fun p => (.index place :: p.1, p.2)) ++ itemPointers (place + 1) rest

def memberPointers : List (String × Json) → List (List PointerToken × Json)
  | [] => []
  | (name, value) :: rest =>
    (pointers value).map (fun p => (.member name :: p.1, p.2)) ++ memberPointers rest

end

/-- The steps that a key shows: not the first item of an array if something comes below it. -/
def shownTokens : List PointerToken → List PointerToken
  | [] => []
  | .index 0 :: next :: rest => shownTokens (next :: rest)
  | token :: rest => token :: shownTokens rest

def pointerKey (way : List PointerToken) : List Char :=
  (shownTokens way).flatMap fun token => '/' :: token.text

/-! ## The ways into a tree -/

theorem pointers_object {members : List (String × Json)} (filled : members ≠ []) :
    pointers (.object members) = memberPointers members := by
  cases members with
  | nil => exact absurd rfl filled
  | cons m rest => simp only [pointers]

theorem pointers_array {items : List Json} (filled : items ≠ []) :
    pointers (.array items) = itemPointers 0 items := by
  cases items with
  | nil => exact absurd rfl filled
  | cons item rest => simp only [pointers]

theorem pointers_of_not_container {tree : Json} (leaf : tree.isContainer = false) :
    pointers tree = [([], tree)] := by
  cases tree with
  | array items =>
    cases items with
    | nil => simp only [pointers]
    | cons item rest => cases leaf
  | object members =>
    cases members with
    | nil => simp only [pointers]
    | cons m rest => cases leaf
  | null | bool _ | integer _ | double _ | string _ => simp only [pointers]

theorem mem_memberPointers {members : List (String × Json)} {p : List PointerToken × Json} :
    p ∈ memberPointers members ↔
      ∃ m ∈ members, ∃ q ∈ pointers m.2, p = (.member m.1 :: q.1, q.2) := by
  induction members with
  | nil => simp [memberPointers]
  | cons m rest ih =>
    obtain ⟨name, value⟩ := m
    simp only [memberPointers, List.mem_append, List.mem_map, ih, List.mem_cons]
    constructor
    · rintro (⟨q, inside, rfl⟩ | ⟨m, member, q, inside, rfl⟩)
      · exact ⟨(name, value), .inl rfl, q, inside, rfl⟩
      · exact ⟨m, .inr member, q, inside, rfl⟩
    · rintro ⟨m, rfl | member, q, inside, rfl⟩
      · exact .inl ⟨q, inside, rfl⟩
      · exact .inr ⟨m, member, q, inside, rfl⟩

theorem mem_itemPointers {items : List Json} {start : Nat} {p : List PointerToken × Json} :
    p ∈ itemPointers start items ↔ ∃ (place : Nat) (item : Json), items[place]? = some item ∧
      ∃ q ∈ pointers item, p = (.index (start + place) :: q.1, q.2) := by
  induction items generalizing start with
  | nil => simp [itemPointers]
  | cons item rest ih =>
    simp only [itemPointers, List.mem_append, List.mem_map, ih]
    constructor
    · rintro (⟨q, inside, rfl⟩ | ⟨place, item, get, q, inside, rfl⟩)
      · exact ⟨0, item, rfl, q, inside, rfl⟩
      · refine ⟨place + 1, item, get, q, inside, ?_⟩
        rw [Nat.add_right_comm, Nat.add_assoc]
    · rintro ⟨place, found, get, q, inside, rfl⟩
      cases place with
      | zero =>
        cases get
        exact .inl ⟨q, inside, rfl⟩
      | succ place =>
        refine .inr ⟨place, found, get, q, inside, ?_⟩
        rw [Nat.add_right_comm, Nat.add_assoc]

/-- The leaves of a container lie below its members or items. -/
theorem way_ne_nil {tree : Json} (container : tree.isContainer = true) :
    ∀ p ∈ pointers tree, p.1 ≠ [] := by
  intro p member
  cases tree with
  | array items =>
    rw [pointers_array (by simpa [isContainer] using container), mem_itemPointers] at member
    obtain ⟨place, item, -, q, -, rfl⟩ := member
    simp
  | object members =>
    rw [pointers_object (by simpa [isContainer] using container), mem_memberPointers] at member
    obtain ⟨m, -, q, -, rfl⟩ := member
    simp
  | null | bool _ | integer _ | double _ | string _ => cases container

/-! ## Keys are ways -/

@[simp] theorem pointerKey_nil : pointerKey [] = [] := rfl

theorem pointerKey_member (name : String) (way : List PointerToken) :
    pointerKey (.member name :: way) = '/' :: escapeToken name.toList ++ pointerKey way := rfl

theorem pointerKey_index_succ (place : Nat) (way : List PointerToken) :
    pointerKey (.index (place + 1) :: way) = '/' :: indexToken (place + 1) ++ pointerKey way := rfl

theorem pointerKey_first {way : List PointerToken} (deeper : way ≠ []) :
    pointerKey (.index 0 :: way) = pointerKey way := by
  cases way with
  | nil => exact absurd rfl deeper
  | cons token rest => rfl

mutual

/-- The keys below `key` are the ways into the tree. -/
theorem leaves_eq_pointers (key : List Char) (tree : Json) :
    leaves key tree = (pointers tree).map fun p => (key ++ pointerKey p.1, leafText p.2) := by
  match tree with
  | .array (item :: rest) =>
    simp only [leaves, pointers, itemPointers, List.map_append, List.map_map]
    congr 1
    · rw [leaves_eq_pointers]
      apply List.map_congr_left
      intro p member
      -- The first index is left out for a container, whose leaves all lie deeper
      cases container : item.isContainer with
      | true =>
        have deeper := way_ne_nil container p member
        simp [pointerKey_first deeper]
      | false =>
        rw [pointers_of_not_container container, List.mem_singleton] at member
        subst member
        simp [pointerKey, shownTokens, PointerToken.text]
    · exact itemLeaves_eq key 0 rest
  | .object (m :: rest) =>
    simp only [leaves, pointers]
    exact memberLeaves_eq key (m :: rest)
  | .array [] | .object [] | .null | .bool _ | .integer _ | .double _ | .string _ =>
    simp [leaves, pointers]

theorem itemLeaves_eq (key : List Char) (place : Nat) (items : List Json) :
    itemLeaves key (place + 1) items
      = (itemPointers (place + 1) items).map fun p => (key ++ pointerKey p.1, leafText p.2) := by
  match items with
  | [] => rfl
  | item :: rest =>
    simp only [itemLeaves, itemPointers, List.map_append, List.map_map]
    congr 1
    · rw [leaves_eq_pointers]
      apply List.map_congr_left
      intro p _
      simp [pointerKey_index_succ]
    · exact itemLeaves_eq key (place + 1) rest

theorem memberLeaves_eq (key : List Char) (members : List (String × Json)) :
    memberLeaves key members
      = (memberPointers members).map fun p => (key ++ pointerKey p.1, leafText p.2) := by
  match members with
  | [] => rfl
  | (name, value) :: rest =>
    simp only [memberLeaves, memberPointers, List.map_append, List.map_map]
    congr 1
    · rw [leaves_eq_pointers]
      apply List.map_congr_left
      intro p _
      simp [pointerKey_member]
    · exact memberLeaves_eq key rest

end

def leafEntries (tree : Json) : List (String × String) :=
  (pointers tree).map fun p => (String.ofList (pointerKey p.1), leafText p.2)

theorem flatten_eq_ofList (tree : Json) : tree.flatten = TextMap.ofList tree.leafEntries := by
  rw [flatten, leaves_eq_pointers, leafEntries, List.map_map]
  rfl

/-! ## Parts of a tree -/

/-- A part of a tree: of its objects some members, of its arrays some items from the first on. -/
inductive Part : Json → Json → Prop where
  | whole (tree : Json) : Part tree tree
  | members {full part : List (String × Json)} (source : String × Json → Json)
      (found : ∀ m ∈ part, (m.1, source m) ∈ full) (parts : ∀ m ∈ part, Part (source m) m.2) :
      Part (.object full) (.object part)
  | items {full part : List Json} (source : Nat → Json)
      (found : ∀ (place : Nat) (item : Json), part[place]? = some item →
        full[place]? = some (source place))
      (parts : ∀ (place : Nat) (item : Json), part[place]? = some item →
        Part (source place) item) :
      Part (.array full) (.array part)

/-- Every tree has a leaf. -/
theorem exists_mem_pointers (tree : Json) : ∃ p, p ∈ pointers tree := by
  match tree with
  | .array (item :: rest) =>
    obtain ⟨p, inside⟩ := exists_mem_pointers item
    refine ⟨(.index 0 :: p.1, p.2), ?_⟩
    rw [pointers, mem_itemPointers]
    exact ⟨0, item, rfl, p, inside, rfl⟩
  | .object ((name, value) :: rest) =>
    obtain ⟨p, inside⟩ := exists_mem_pointers value
    refine ⟨(.member name :: p.1, p.2), ?_⟩
    rw [pointers, mem_memberPointers]
    exact ⟨(name, value), List.mem_cons_self, p, inside, rfl⟩
  | .array [] | .object [] | .null | .bool _ | .integer _ | .double _ | .string _ =>
    rw [pointers_of_not_container rfl]
    exact ⟨_, List.mem_singleton_self _⟩

def LeadsOn (tree : Json) (way : List PointerToken) : Prop :=
  ∃ rest leaf, rest ≠ [] ∧ (way ++ rest, leaf) ∈ pointers tree

theorem leadsOn_nil {tree : Json} (container : tree.isContainer = true) : LeadsOn tree [] := by
  obtain ⟨p, inside⟩ := exists_mem_pointers tree
  exact ⟨p.1, p.2, way_ne_nil container p inside, inside⟩

/-- A leaf of a part is a leaf of the tree, or it is an object or array from which everything was
left out. -/
theorem Part.mem_pointers {full part : Json} (taken : Part full part) :
    ∀ p ∈ pointers part, p ∈ pointers full ∨ LeadsOn full p.1 := by
  induction taken with
  | whole tree => exact fun p inside => .inl inside
  | @members full part source found parts ih =>
    intro p inside
    cases part with
    | nil =>
      rw [pointers_of_not_container rfl, List.mem_singleton] at inside
      subst inside
      cases full with
      | nil => exact .inl (by simp [pointers])
      | cons m rest => exact .inr (leadsOn_nil rfl)
    | cons first others =>
      rw [pointers_object (by simp), mem_memberPointers] at inside
      obtain ⟨m, member, q, below, rfl⟩ := inside
      have there := found m member
      have filled : full ≠ [] := List.ne_nil_of_mem there
      rcases ih m member q below with same | ⟨rest, leaf, deeper, same⟩
      · refine .inl ?_
        rw [pointers_object filled, mem_memberPointers]
        exact ⟨_, there, q, same, rfl⟩
      · refine .inr ⟨rest, leaf, deeper, ?_⟩
        rw [pointers_object filled, mem_memberPointers]
        exact ⟨_, there, _, same, rfl⟩
  | @items full part source found parts ih =>
    intro p inside
    cases part with
    | nil =>
      rw [pointers_of_not_container rfl, List.mem_singleton] at inside
      subst inside
      cases full with
      | nil => exact .inl (by simp [pointers])
      | cons item rest => exact .inr (leadsOn_nil rfl)
    | cons first others =>
      rw [pointers_array (by simp), mem_itemPointers] at inside
      obtain ⟨place, item, get, q, below, rfl⟩ := inside
      have there := found place item get
      have filled : full ≠ [] := by
        rintro rfl
        cases there
      rcases ih place item get q below with same | ⟨rest, leaf, deeper, same⟩
      · refine .inl ?_
        rw [pointers_array filled, mem_itemPointers]
        exact ⟨place, _, there, q, same, rfl⟩
      · refine .inr ⟨rest, leaf, deeper, ?_⟩
        rw [pointers_array filled, mem_itemPointers]
        exact ⟨place, _, there, _, same, rfl⟩

/-- Pieces of a tree in which every leaf of it is found. -/
structure DividedInto (tree : Json) (pieces : List Json) : Prop where
  parts : ∀ piece ∈ pieces, Part tree piece
  covers : ∀ p ∈ pointers tree, ∃ piece ∈ pieces, p ∈ pointers piece

theorem dividedInto_members {members : List (String × Json)} (filled : members ≠ []) :
    (object members).DividedInto (members.map fun m => object [m]) where
  parts piece there := by
    obtain ⟨m, member, rfl⟩ := List.mem_map.mp there
    apply Part.members Prod.snd
    · intro only same
      rw [List.mem_singleton] at same
      exact same ▸ member
    · exact fun only _ => .whole only.2
  covers p inside := by
    rw [pointers_object filled, mem_memberPointers] at inside
    obtain ⟨m, member, below⟩ := inside
    refine ⟨object [m], List.mem_map_of_mem member, ?_⟩
    rw [pointers_object (by simp), mem_memberPointers]
    exact ⟨m, List.mem_singleton_self m, below⟩

end Json

end PbrTelemetry
