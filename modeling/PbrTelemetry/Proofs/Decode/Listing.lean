import Mathlib.Data.List.Nodup
import PbrTelemetry.Json.Printer
import PbrTelemetry.Proofs.Decode.Pointer
import PbrTelemetry.Proofs.Json.Canonical
import PbrTelemetry.Proofs.TextMap.Lookup

/-!
# All leaves of a tree in their order

`Json.at?` follows a way into a tree.  The leaves of a tree are where a way ends that cannot go on,
and they have an order, by places in arrays and by names in objects (`Precedes`).  A list that has
all of them in this order is a listing of the tree (`Json.Lists`).

A flat map is made from the listing in two phases (`flatten_twoPhases`): write the ways as keys,
without the first index wherever something comes below it, and enter the leaves one after the
other.  That each tree has exactly one listing is where the order of the members is needed.
-/

namespace PbrTelemetry

namespace Json

/-! ## Following a way -/

def child? : Json → PointerToken → Option Json
  | .object members, .member name => findEntry name members
  | .array items, .index place => items[place]?
  | _, _ => none

def at? (tree : Json) : List PointerToken → Option Json
  | [] => some tree
  | token :: way => (tree.child? token).bind fun child => child.at? way

def HasLeaf (tree : Json) (way : List PointerToken) (leaf : Json) : Prop :=
  tree.at? way = some leaf ∧ leaf.isContainer = false

variable {tree child leaf : Json} {token : PointerToken} {way : List PointerToken}

theorem at?_cons_eq_some_iff :
    tree.at? (token :: way) = some leaf ↔
      ∃ child, tree.child? token = some child ∧ child.at? way = some leaf := by
  rw [at?, Option.bind_eq_some_iff]

theorem hasLeaf_nil_iff : tree.HasLeaf [] leaf ↔ leaf = tree ∧ tree.isContainer = false := by
  rw [HasLeaf, at?, Option.some.injEq]
  constructor
  · rintro ⟨rfl, plain⟩
    exact ⟨rfl, plain⟩
  · rintro ⟨rfl, plain⟩
    exact ⟨rfl, plain⟩

theorem hasLeaf_cons_iff :
    tree.HasLeaf (token :: way) leaf ↔
      ∃ child, tree.child? token = some child ∧ child.HasLeaf way leaf := by
  simp only [HasLeaf, at?_cons_eq_some_iff, ← exists_and_right, and_assoc]

theorem isContainer_of_child? (below : tree.child? token = some child) :
    tree.isContainer = true := by
  cases tree with
  | array items =>
    cases items with
    | nil => cases token <;> cases below
    | cons item rest => rfl
  | object members =>
    cases members with
    | nil => cases token <;> cases below
    | cons m rest => rfl
  | null | bool _ | integer _ | double _ | string _ => cases below

/-- Below a leaf there is nothing. -/
theorem way_eq_nil_of_hasLeaf (plain : tree.isContainer = false) (stands : tree.HasLeaf way leaf) :
    way = [] := by
  cases way with
  | nil => rfl
  | cons token rest =>
    obtain ⟨child, below, -⟩ := hasLeaf_cons_iff.mp stands
    rw [isContainer_of_child? below] at plain
    cases plain

theorem ne_nil_of_hasLeaf (container : tree.isContainer = true) (stands : tree.HasLeaf way leaf) :
    way ≠ [] := by
  rintro rfl
  obtain ⟨-, plain⟩ := hasLeaf_nil_iff.mp stands
  rw [container] at plain
  cases plain

/-! ## Trees that are in order -/

theorem Canonical.of_child? (canonical : tree.Canonical) (below : tree.child? token = some child) :
    child.Canonical := by
  cases tree with
  | array items =>
    cases token with
    | member name => cases below
    | index place => exact canonicalItems_iff.mp canonical child (List.mem_of_getElem? below)
  | object members =>
    cases token with
    | member name => exact canonicalMembers_iff.mp canonical.2 _ (mem_of_findEntry below)
    | index place => cases below
  | null | bool _ | integer _ | double _ | string _ => cases below

/-- The leaves of a tree are those below its members or items, or the tree itself. -/
theorem Canonical.mem_pointers_cons_iff (canonical : tree.Canonical) :
    (token :: way, leaf) ∈ pointers tree ↔
      ∃ child, tree.child? token = some child ∧ (way, leaf) ∈ pointers child := by
  cases tree with
  | array items =>
    cases items with
    | nil => cases token <;> simp [pointers, child?]
    | cons item rest =>
      rw [pointers_array (List.cons_ne_nil item rest), mem_itemPointers]
      cases token with
      | member name => simp [child?]
      | index place => simp [child?, and_assoc]
  | object members =>
    cases members with
    | nil => cases token <;> simp [pointers, child?, findEntry]
    | cons m rest =>
      rw [pointers_object (List.cons_ne_nil m rest), mem_memberPointers]
      cases token with
      | index place => simp [child?]
      | member name =>
        have found : ∀ value, findEntry name (m :: rest) = some value ↔ (name, value) ∈ m :: rest :=
          fun value => canonical.1.findEntry_eq_some_iff
        constructor
        · rintro ⟨⟨name, value⟩, member, ⟨way, leaf⟩, inside, same⟩
          cases same
          exact ⟨value, (found value).mpr member, inside⟩
        · rintro ⟨value, below, inside⟩
          exact ⟨(name, value), (found value).mp below, (way, leaf), inside, rfl⟩
  | null | bool _ | integer _ | double _ | string _ => simp [pointers, child?]

theorem mem_pointers_nil_iff : ([], leaf) ∈ pointers tree ↔ tree.HasLeaf [] leaf := by
  rw [hasLeaf_nil_iff]
  cases container : tree.isContainer with
  | true =>
    have deeper := way_ne_nil container
    constructor
    · intro inside
      exact absurd rfl (deeper _ inside)
    · rintro ⟨-, ⟨⟩⟩
  | false => simp [pointers_of_not_container container]

theorem Canonical.mem_pointers_iff (canonical : tree.Canonical) :
    (way, leaf) ∈ pointers tree ↔ tree.HasLeaf way leaf := by
  induction way generalizing tree with
  | nil => exact mem_pointers_nil_iff
  | cons token rest ih =>
    rw [canonical.mem_pointers_cons_iff, hasLeaf_cons_iff]
    refine exists_congr fun child => and_congr_right fun below => ?_
    exact ih (canonical.of_child? below)

/-! ## The order of the leaves -/

/-- One way leads to a place before the other: where they part, it takes the earlier item, or the
member whose name comes first. -/
def Precedes : List PointerToken → List PointerToken → Prop
  | .member first :: way, .member second :: other =>
    first < second ∨ first = second ∧ Precedes way other
  | .index first :: way, .index second :: other =>
    first < second ∨ first = second ∧ Precedes way other
  | _, _ => False

theorem Precedes.cons {other : List PointerToken} (token : PointerToken)
    (precedes : Precedes way other) : Precedes (token :: way) (token :: other) := by
  cases token with
  | member name => exact .inr ⟨rfl, precedes⟩
  | index place => exact .inr ⟨rfl, precedes⟩

theorem Precedes.asymm {other : List PointerToken} (before : Precedes way other)
    (after : Precedes other way) : False := by
  induction way generalizing other with
  | nil => cases before
  | cons token rest ih =>
    cases other with
    | nil => cases token <;> cases before
    | cons second others =>
      cases token with
      | member name =>
        cases second with
        | index place => cases before
        | member name' =>
          rcases before with less | ⟨rfl, before⟩
          · rcases after with greater | ⟨rfl, -⟩
            · exact String.lt_irrefl _ (String.lt_trans less greater)
            · exact String.lt_irrefl _ less
          · rcases after with greater | ⟨-, after⟩
            · exact String.lt_irrefl _ greater
            · exact ih before after
      | index place =>
        cases second with
        | member name => cases before
        | index place' =>
          rcases before with less | ⟨rfl, before⟩
          · rcases after with greater | ⟨rfl, -⟩
            · omega
            · omega
          · rcases after with greater | ⟨-, after⟩
            · omega
            · exact ih before after

mutual

theorem pairwise_pointers (tree : Json) (canonical : tree.Canonical) :
    (pointers tree).Pairwise fun p q => Precedes p.1 q.1 := by
  match tree with
  | .array (item :: rest) =>
    rw [pointers_array (List.cons_ne_nil item rest)]
    exact pairwise_itemPointers 0 (item :: rest) canonical
  | .object (m :: rest) =>
    rw [pointers_object (List.cons_ne_nil m rest)]
    exact pairwise_memberPointers (m :: rest) canonical.1 canonical.2
  | .array [] | .object [] | .null | .bool _ | .integer _ | .double _ | .string _ =>
    rw [pointers_of_not_container rfl]
    exact List.pairwise_singleton _ _

theorem pairwise_itemPointers (start : Nat) (items : List Json)
    (canonical : CanonicalItems items) :
    (itemPointers start items).Pairwise fun p q => Precedes p.1 q.1 := by
  match items with
  | [] => exact List.Pairwise.nil
  | item :: rest =>
    rw [itemPointers, List.pairwise_append, List.pairwise_map]
    refine ⟨?_, pairwise_itemPointers (start + 1) rest canonical.2, ?_⟩
    · exact (pairwise_pointers item canonical.1).imp fun precedes => precedes.cons _
    · intro p here q later
      obtain ⟨p, -, rfl⟩ := List.mem_map.mp here
      obtain ⟨place, -, -, q, -, rfl⟩ := mem_itemPointers.mp later
      exact .inl (by omega)

theorem pairwise_memberPointers (members : List (String × Json)) (ascending : Ascending members)
    (canonical : CanonicalMembers members) :
    (memberPointers members).Pairwise fun p q => Precedes p.1 q.1 := by
  match members with
  | [] => exact List.Pairwise.nil
  | (name, value) :: rest =>
    obtain ⟨above, below⟩ := List.pairwise_cons.mp ascending
    rw [memberPointers, List.pairwise_append, List.pairwise_map]
    refine ⟨?_, pairwise_memberPointers rest below canonical.2, ?_⟩
    · exact (pairwise_pointers value canonical.1).imp fun precedes => precedes.cons _
    · intro p here q later
      obtain ⟨p, -, rfl⟩ := List.mem_map.mp here
      obtain ⟨m, member, q, -, rfl⟩ := mem_memberPointers.mp later
      exact .inl (above m member)

end

/-- The list has all leaves of the tree, and has them in their order. -/
structure Lists (tree : Json) (listing : List (List PointerToken × Json)) : Prop where
  complete : ∀ way leaf, (way, leaf) ∈ listing ↔ tree.HasLeaf way leaf
  ordered : listing.Pairwise fun p q => Precedes p.1 q.1

theorem Canonical.lists_pointers (canonical : tree.Canonical) : tree.Lists (pointers tree) where
  complete _ _ := canonical.mem_pointers_iff
  ordered := pairwise_pointers tree canonical

theorem Lists.nodup {listing : List (List PointerToken × Json)} (lists : tree.Lists listing) :
    listing.Nodup := by
  refine lists.ordered.imp ?_
  rintro p q precedes rfl
  exact precedes.asymm precedes

theorem Lists.unique {first second : List (List PointerToken × Json)} (left : tree.Lists first)
    (right : tree.Lists second) : first = second := by
  have same : first.Perm second := by
    rw [List.perm_ext_iff_of_nodup left.nodup right.nodup]
    rintro ⟨way, leaf⟩
    rw [left.complete, right.complete]
  exact same.eq_of_pairwise (fun _ _ _ _ before after => (before.asymm after).elim) left.ordered
    right.ordered

/-! ## Two phases -/

/-- A leaf as it is written: text as it is, an empty object or array as null, and all else as
JSON. -/
def writtenLeaf : Json → String
  | .string text => text
  | .array _ | .object _ => render .null
  | scalar => render scalar

theorem leafText_eq_writtenLeaf : leafText = writtenLeaf := by
  funext leaf
  cases leaf with
  | bool value => cases value <;> rfl
  | null | integer _ | double _ | string _ | array _ | object _ => rfl

/-- A flat map has the leaves of the tree's one listing, entered in their order, each under its way
without the first indices above other steps.  Every tree that was read has its members in order. -/
theorem flatten_twoPhases (tree : Json) :
    tree.flatten = TextMap.ofList
      ((pointers tree).map fun p => (String.ofList (pointerKey p.1), writtenLeaf p.2)) ∧
    (tree.Canonical → ∀ listing, tree.Lists listing ↔ listing = pointers tree) ∧
    ∀ payload, parseBytes? payload = some tree → tree.Canonical := by
  refine ⟨?_, ?_, fun payload => canonical_of_parseBytes?⟩
  · rw [flatten_eq_ofList, leafEntries, leafText_eq_writtenLeaf]
  · intro canonical listing
    constructor
    · exact fun lists => lists.unique canonical.lists_pointers
    · rintro rfl
      exact canonical.lists_pointers

/-- A member named like an index, and an array in an array, where two leaves have one key. -/
def nestedTree : Json :=
  .object [("0", .object []), ("a", .array [.array [.integer 1, .integer 2], .integer 3])]

theorem flatten_twoPhases_nestedTree :
    nestedTree.flatten
      = TextMap.ofList [("/0", "null"), ("/a/0", "1"), ("/a/1", "2"), ("/a/1", "3")] ∧
    nestedTree.Lists
      [([.member "0"], .object []), ([.member "a", .index 0, .index 0], .integer 1),
       ([.member "a", .index 0, .index 1], .integer 2), ([.member "a", .index 1], .integer 3)] := by
  have canonical : nestedTree.Canonical := by
    simp only [nestedTree, Canonical, CanonicalItems, CanonicalMembers, Ascending]
    decide
  obtain ⟨flat, lists, -⟩ := flatten_twoPhases nestedTree
  exact ⟨flat, (lists canonical _).mpr rfl⟩

end Json

end PbrTelemetry
