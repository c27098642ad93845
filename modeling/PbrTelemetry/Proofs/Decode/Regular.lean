import PbrTelemetry.Decode.Update
import PbrTelemetry.Proofs.Decode.Listing
import PbrTelemetry.Proofs.Text.Cut

/-!
# Trees that keep all their leaves

The first item of an array does not count as a step if it has leaves of its own, so its leaves stand
among the keys of the later items and of the array's surroundings, and two leaves may have one key.
In a regular tree that does not happen (`Json.Regular`): an array that starts with a container
starts with an object, and no member of it is named like the index of a later item.  There the flat
map has every leaf (`flatten_regular`).

A key is a JSON pointer (`Json.resolve?`).  It leads to its leaf if no first item was left out.
-/

namespace PbrTelemetry

namespace Json

open Text (valueOfDigits)

/-! ## Pointers as text -/

/-- A reference token without its escapes: a tilde stands only in front of a zero or a one. -/
def unescapeToken : List Char → Option (List Char)
  | [] => some []
  | '~' :: '0' :: rest => (unescapeToken rest).map ('~' :: ·)
  | '~' :: '1' :: rest => (unescapeToken rest).map ('/' :: ·)
  | '~' :: _ => none
  | c :: rest => (unescapeToken rest).map (c :: ·)

/-- The index that a reference token writes, in digits without a zero in front. -/
def tokenIndex? (token : List Char) : Option Nat :=
  match wholePart token with
  | some (digits, []) => some (valueOfDigits digits)
  | _ => none

/-- The step that a reference token means: in an object a name, and in an array an index. -/
def tokenStep? (tree : Json) (token : List Char) : Option PointerToken :=
  match tree with
  | .object _ => (unescapeToken token).map fun name => .member (String.ofList name)
  | .array _ => (tokenIndex? token).map .index
  | _ => none

def follow? (tree : Json) : List (List Char) → Option (List PointerToken × Json)
  | [] => some ([], tree)
  | token :: rest => do
    let step ← tree.tokenStep? token
    let child ← tree.child? step
    let (way, found) ← child.follow? rest
    return (step :: way, found)

/-- The way that a JSON pointer leads, and what stands at its end.  A pointer is reference tokens
with a slash in front of each. -/
def resolve? (tree : Json) (pointer : String) : Option (List PointerToken × Json) :=
  match Text.pieces '/' pointer.toList with
  | [] :: tokens => tree.follow? tokens
  | _ => none

variable {tree child leaf found : Json} {token step : PointerToken}
  {way other : List PointerToken}

theorem unescapeToken_escapeToken (name : List Char) :
    unescapeToken (escapeToken name) = some name := by
  induction name with
  | nil => rfl
  | cons c rest ih =>
    rw [escapeToken, List.flatMap_cons, escapeTokenChar]
    change unescapeToken (_ ++ escapeToken rest) = _
    by_cases tilde : c = '~'
    · simp [tilde, unescapeToken, ih]
    · by_cases slash : c = '/'
      · simp [slash, unescapeToken, ih]
      · simp [tilde, slash, unescapeToken, ih]

theorem escapeToken_of_isDigit {text : List Char} (digits : ∀ c ∈ text, c.isDigit = true) :
    escapeToken text = text := by
  induction text with
  | nil => rfl
  | cons c rest ih =>
    obtain ⟨first, others⟩ := List.forall_mem_cons.mp digits
    have plain : escapeTokenChar c = [c] := by
      have noTilde : c ≠ '~' := by
        rintro rfl
        cases first
      have noSlash : c ≠ '/' := by
        rintro rfl
        cases first
      rw [escapeTokenChar, if_neg noTilde, if_neg noSlash]
    rw [escapeToken, List.flatMap_cons, plain]
    exact congrArg (c :: ·) (ih others)

namespace PointerToken

theorem text_member_inj {name second : String}
    (same : (member name).text = (member second).text) : name = second := by
  have back := congrArg unescapeToken same
  simp only [text, unescapeToken_escapeToken, Option.some.injEq] at back
  exact String.toList_inj.mp back

theorem text_index_inj {place second : Nat} (same : (index place).text = (index second).text) :
    place = second := by
  have back := congrArg valueOfDigits same
  simpa only [text, indexToken, Text.valueOfDigits_toDigits] using back

theorem eq_decimal_of_text_eq {name : String} {place : Nat}
    (same : (member name).text = (index place).text) : name = Text.decimal place := by
  apply text_member_inj
  rw [same, text, text, Text.decimal, String.toList_ofList]
  exact (escapeToken_of_isDigit (Text.isDigit_toDigits place)).symm

theorem slash_not_mem_text (token : PointerToken) : '/' ∉ token.text := by
  cases token with
  | member name =>
    rw [text, escapeToken, List.mem_flatMap]
    rintro ⟨c, -, written⟩
    rw [escapeTokenChar] at written
    split at written
    · simp at written
    · split at written
      · simp at written
      · next noSlash => exact noSlash (List.mem_singleton.mp written).symm
  | index place =>
    intro there
    have digit := Text.isDigit_toDigits place '/' there
    cases digit

end PointerToken

/-! ## Keys as tokens -/

def keyTokens (way : List PointerToken) : List (List Char) :=
  (shownTokens way).map PointerToken.text

theorem pieces_pointerKey (way : List PointerToken) :
    Text.pieces '/' (pointerKey way) = [] :: keyTokens way := by
  have whole : ∀ segment ∈ keyTokens way, '/' ∉ segment := by
    intro segment member
    obtain ⟨token, -, rfl⟩ := List.mem_map.mp member
    exact token.slash_not_mem_text
  have key : pointerKey way = (keyTokens way).flatMap ('/' :: ·) := by
    rw [keyTokens, List.flatMap_map]
    rfl
  rw [key, Text.pieces_flatMap_mark whole]

theorem keyTokens_eq_of_pointerKey_eq (same : pointerKey way = pointerKey other) :
    keyTokens way = keyTokens other := by
  have pieces := congrArg (Text.pieces '/') same
  rw [pieces_pointerKey, pieces_pointerKey] at pieces
  exact (List.cons.inj pieces).2

theorem keyTokens_member (name : String) (way : List PointerToken) :
    keyTokens (.member name :: way) = (PointerToken.member name).text :: keyTokens way := rfl

theorem keyTokens_index_succ (place : Nat) (way : List PointerToken) :
    keyTokens (.index (place + 1) :: way)
      = (PointerToken.index (place + 1)).text :: keyTokens way := rfl

theorem keyTokens_first (deeper : way ≠ []) : keyTokens (.index 0 :: way) = keyTokens way := by
  cases way with
  | nil => exact absurd rfl deeper
  | cons token rest => rfl

/-! ## Regular trees -/

def Everywhere (P : Json → Prop) (tree : Json) : Prop :=
  ∀ way below, tree.at? way = some below → P below

/-- An array that starts with a container starts with an object, none of whose members is named
like the index of a later item. -/
def StartsApart (tree : Json) : Prop :=
  ∀ first rest, tree = .array (first :: rest) → first.isContainer = true →
    ∃ members, first = .object members ∧
      ∀ m ∈ members, ∀ place, 1 ≤ place → place < (first :: rest).length → m.1 ≠ Text.decimal place

def StartsPlain (tree : Json) : Prop :=
  ∀ first rest, tree = .array (first :: rest) → first.isContainer = false

/-- All arrays that start with a container start apart from their later items. -/
def Regular (tree : Json) : Prop := tree.Everywhere StartsApart

section

variable {P : Json → Prop}

theorem Everywhere.here (everywhere : tree.Everywhere P) : P tree := everywhere [] tree rfl

theorem Everywhere.of_child? (everywhere : tree.Everywhere P)
    (below : tree.child? token = some child) : child.Everywhere P :=
  fun way deeper stands => everywhere (token :: way) deeper
    (at?_cons_eq_some_iff.mpr ⟨child, below, stands⟩)

theorem everywhere_of_child? (here : P tree)
    (each : ∀ token child, tree.child? token = some child → child.Everywhere P) :
    tree.Everywhere P := by
  intro way below stands
  cases way with
  | nil =>
    cases stands
    exact here
  | cons token others =>
    obtain ⟨child, there, stands⟩ := at?_cons_eq_some_iff.mp stands
    exact each token child there others below stands

theorem everywhere_leaf (here : P tree) (plain : tree.isContainer = false) :
    tree.Everywhere P := by
  refine everywhere_of_child? here fun token child below => ?_
  rw [isContainer_of_child? below] at plain
  cases plain

theorem everywhere_object {members : List (String × Json)} (here : P (.object members))
    (each : ∀ m ∈ members, m.2.Everywhere P) : (object members).Everywhere P := by
  refine everywhere_of_child? here fun token child below => ?_
  cases token with
  | member name => exact each (name, child) (mem_of_findEntry below)
  | index place => cases below

theorem everywhere_array {items : List Json} (here : P (.array items))
    (each : ∀ item ∈ items, item.Everywhere P) : (array items).Everywhere P := by
  refine everywhere_of_child? here fun token child below => ?_
  cases token with
  | member name => cases below
  | index place => exact each child (List.mem_of_getElem? below)

end

theorem startsPlain_leaf (leaf : tree.isContainer = false) : tree.StartsPlain := by
  rintro first rest rfl
  cases leaf

theorem StartsPlain.startsApart (plain : tree.StartsPlain) : tree.StartsApart := by
  intro first rest same container
  rw [plain first rest same] at container
  cases container

/-- The leaves of an array's first item are not among those of a later item. -/
theorem Regular.first_apart {items : List Json} {place : Nat} {tail : List (List Char)}
    (regular : (array items).Regular) (first : items[0]? = some child)
    (stands : child.HasLeaf way leaf) (later : place + 1 < items.length) :
    keyTokens (.index 0 :: way) ≠ (PointerToken.index (place + 1)).text :: tail := by
  intro same
  -- A leaf shows its own index, and a container shows the name of a member in its place
  cases container : child.isContainer with
  | false =>
    rw [way_eq_nil_of_hasLeaf container stands] at same
    have equal := PointerToken.text_index_inj (List.cons.inj same).1
    omega
  | true =>
    obtain ⟨rest, rfl⟩ :=
      List.head?_eq_some_iff.mp ((List.head?_eq_getElem? (l := items)).trans first)
    obtain ⟨members, rfl, apart⟩ := regular.here child rest rfl container
    rw [keyTokens_first (ne_nil_of_hasLeaf container stands)] at same
    cases way with
    | nil => exact ne_nil_of_hasLeaf container stands rfl
    | cons step others =>
      obtain ⟨next, below, -⟩ := hasLeaf_cons_iff.mp stands
      cases step with
      | index place => cases below
      | member name =>
        have named := PointerToken.eq_decimal_of_text_eq (List.cons.inj same).1
        exact apart (name, next) (mem_of_findEntry below) (place + 1) (by omega) later named

/-- Two leaves whose ways are written alike lie below the same member or item. -/
theorem Regular.step_unique (regular : tree.Regular)
    (first : tree.HasLeaf (token :: way) leaf) (second : tree.HasLeaf (step :: other) found)
    (same : keyTokens (token :: way) = keyTokens (step :: other)) :
    token = step ∧ keyTokens way = keyTokens other := by
  obtain ⟨child, below, stands⟩ := hasLeaf_cons_iff.mp first
  obtain ⟨child', below', stands'⟩ := hasLeaf_cons_iff.mp second
  cases tree with
  | null | bool _ | integer _ | double _ | string _ => cases below
  | object members =>
    cases token with
    | index place => cases below
    | member name =>
      cases step with
      | index place => cases below'
      | member name' =>
        rw [keyTokens_member, keyTokens_member] at same
        obtain ⟨heads, tails⟩ := List.cons.inj same
        exact ⟨congrArg _ (PointerToken.text_member_inj heads), tails⟩
  | array items =>
    cases token with
    | member name => cases below
    | index place =>
      cases step with
      | member name => cases below'
      | index place' =>
        match place, place' with
        | 0, 0 =>
          cases below.symm.trans below'
          refine ⟨rfl, ?_⟩
          -- The index is left out of both ways, or both ways end at it
          cases container : child.isContainer with
          | true =>
            rwa [keyTokens_first (ne_nil_of_hasLeaf container stands),
              keyTokens_first (ne_nil_of_hasLeaf container stands')] at same
          | false =>
            rw [way_eq_nil_of_hasLeaf container stands, way_eq_nil_of_hasLeaf container stands']
        | 0, later + 1 =>
          have inside := (List.getElem?_eq_some_iff.mp below').1
          exact absurd same (regular.first_apart below stands inside)
        | later + 1, 0 =>
          have inside := (List.getElem?_eq_some_iff.mp below).1
          exact absurd same.symm (regular.first_apart below' stands' inside)
        | place + 1, place' + 1 =>
          rw [keyTokens_index_succ, keyTokens_index_succ] at same
          obtain ⟨heads, tails⟩ := List.cons.inj same
          exact ⟨congrArg _ (PointerToken.text_index_inj heads), tails⟩

theorem Regular.way_unique (regular : tree.Regular) (first : tree.HasLeaf way leaf)
    (second : tree.HasLeaf other found) (same : keyTokens way = keyTokens other) :
    way = other := by
  induction way generalizing tree other with
  | nil =>
    obtain ⟨-, plain⟩ := hasLeaf_nil_iff.mp first
    exact (way_eq_nil_of_hasLeaf plain second).symm
  | cons token rest ih =>
    obtain ⟨child, below, stands⟩ := hasLeaf_cons_iff.mp first
    cases other with
    | nil => exact absurd rfl (ne_nil_of_hasLeaf (isContainer_of_child? below) second)
    | cons step others =>
      obtain ⟨rfl, tails⟩ := regular.step_unique first second same
      obtain ⟨child', below', stands'⟩ := hasLeaf_cons_iff.mp second
      cases below.symm.trans below'
      rw [ih (Everywhere.of_child? regular below) stands stands' tails]

theorem HasLeaf.unique (first : tree.HasLeaf way leaf) (second : tree.HasLeaf way found) :
    leaf = found :=
  Option.some.inj (first.1.symm.trans second.1)

theorem Regular.nodup_keys (canonical : tree.Canonical) (regular : tree.Regular) :
    ((leaves [] tree).map Prod.fst).Nodup := by
  rw [leaves_eq_pointers, List.map_map]
  apply List.Nodup.map_on _ canonical.lists_pointers.nodup
  rintro ⟨way, leaf⟩ first ⟨other, found⟩ second same
  rw [canonical.mem_pointers_iff] at first second
  cases regular.way_unique first second (keyTokens_eq_of_pointerKey_eq same)
  rw [first.unique second]

/-- The flat map of a regular tree has its leaves and nothing else. -/
theorem Regular.get?_flatten (canonical : tree.Canonical) (regular : tree.Regular)
    (key text : String) :
    tree.flatten.get? key = some text ↔ ∃ way leaf, tree.HasLeaf way leaf ∧
      key = String.ofList (pointerKey way) ∧ text = writtenLeaf leaf := by
  rw [flatten_eq_ofList]
  constructor
  · intro found
    rw [TextMap.get?_ofList] at found
    obtain ⟨⟨way, leaf⟩, inside, same⟩ :=
      List.mem_map.mp (List.mem_reverse.mp (mem_of_findEntry found))
    cases same
    exact ⟨way, leaf, canonical.mem_pointers_iff.mp inside, rfl,
      congrFun leafText_eq_writtenLeaf leaf⟩
  · rintro ⟨way, leaf, stands, rfl, rfl⟩
    rw [← leafText_eq_writtenLeaf]
    apply TextMap.get?_ofList_of_agree
    · exact List.mem_map_of_mem (canonical.mem_pointers_iff.mpr stands)
    · intro text member
      obtain ⟨⟨other, found⟩, inside, same⟩ := List.mem_map.mp member
      have there := canonical.mem_pointers_iff.mp inside
      obtain ⟨keys, rfl⟩ := Prod.mk.inj same
      have ways := regular.way_unique there stands
        (keyTokens_eq_of_pointerKey_eq (String.ofList_injective keys))
      cases ways
      rw [there.unique stands]

/-! ## Keys that are pointers -/

theorem tokenIndex?_indexToken (place : Nat) : tokenIndex? (indexToken place) = some place := by
  have whole : wholePart (indexToken place) = some (indexToken place, []) :=
    wholePart_eq_some_iff.mpr ⟨(List.append_nil _).symm, ⟨place, rfl⟩, by simp⟩
  rw [tokenIndex?, whole]
  exact congrArg some (Text.valueOfDigits_toDigits place)

theorem tokenStep?_text (below : tree.child? token = some child) :
    tree.tokenStep? token.text = some token := by
  cases tree with
  | null | bool _ | integer _ | double _ | string _ => cases below
  | object members =>
    cases token with
    | index place => cases below
    | member name =>
      rw [tokenStep?, PointerToken.text, unescapeToken_escapeToken, Option.map_some,
        String.ofList_toList]
  | array items =>
    cases token with
    | member name => cases below
    | index place => rw [tokenStep?, PointerToken.text, tokenIndex?_indexToken, Option.map_some]

theorem follow?_texts (stands : tree.at? way = some found) :
    tree.follow? (way.map PointerToken.text) = some (way, found) := by
  induction way generalizing tree with
  | nil =>
    cases stands
    rfl
  | cons token rest ih =>
    obtain ⟨child, below, stands⟩ := at?_cons_eq_some_iff.mp stands
    rw [List.map_cons, follow?, tokenStep?_text below]
    simp only [Option.bind_eq_bind, Option.bind_some, below, ih stands]
    rfl

/-- Where no array starts with a container, all steps are shown. -/
theorem shownTokens_of_startsPlain (plain : tree.Everywhere StartsPlain)
    (stands : tree.HasLeaf way leaf) :
    shownTokens way = way := by
  induction way generalizing tree with
  | nil => rfl
  | cons token rest ih =>
    obtain ⟨child, below, inner⟩ := hasLeaf_cons_iff.mp stands
    have others := ih (plain.of_child? below) inner
    cases token with
    | member name => exact congrArg (.member name :: ·) others
    | index place =>
      cases place with
      | succ place => exact congrArg (.index (place + 1) :: ·) others
      | zero =>
        cases tree with
        | null | bool _ | integer _ | double _ | string _ | object _ => cases below
        | array items =>
          obtain ⟨later, rfl⟩ :=
            List.head?_eq_some_iff.mp ((List.head?_eq_getElem? (l := items)).trans below)
          rw [way_eq_nil_of_hasLeaf (plain.here child later rfl) inner]
          rfl

theorem resolve?_pointerKey (plain : tree.Everywhere StartsPlain)
    (stands : tree.HasLeaf way leaf) :
    tree.resolve? (String.ofList (pointerKey way)) = some (way, leaf) := by
  rw [resolve?, String.toList_ofList, pieces_pointerKey]
  dsimp only
  rw [keyTokens, shownTokens_of_startsPlain plain stands]
  exact follow?_texts stands.1

/-- A regular tree loses no leaf: no two of its leaves have one key, and its flat map, which is what
its text is decoded to, has every leaf as it is written and nothing else.  If no array in it starts
with a container, the keys are pointers to the leaves. -/
theorem flatten_regular (tree : Json) (canonical : tree.Canonical) (regular : tree.Regular) :
    (∀ (update : Update) (payload : List UInt8), update.val = some (.jsonIetf payload) →
      parseBytes? payload = some tree → update.decodeJson = .ok tree.flatten) ∧
    ((leaves [] tree).map Prod.fst).Nodup ∧
    (∀ way other leaf found, tree.HasLeaf way leaf → tree.HasLeaf other found → way ≠ other →
      pointerKey way ≠ pointerKey other) ∧
    (∀ key text, tree.flatten.get? key = some text ↔ ∃ way leaf, tree.HasLeaf way leaf ∧
      key = String.ofList (pointerKey way) ∧ text = writtenLeaf leaf) ∧
    (tree.Everywhere StartsPlain → ∀ way leaf, tree.HasLeaf way leaf →
      tree.resolve? (String.ofList (pointerKey way)) = some (way, leaf)) := by
  refine ⟨?_, regular.nodup_keys canonical, ?_, regular.get?_flatten canonical, ?_⟩
  · intro update payload value parsed
    rw [Update.decodeJson, value]
    simp only [Option.bind_some, TypedValue.jsonIetf?, Option.getD_some, decodePayload, parsed]
  · intro way other leaf found first second apart same
    exact apart (regular.way_unique first second (keyTokens_eq_of_pointerKey_eq same))
  · exact fun plain way leaf stands => resolve?_pointerKey plain stands

def listedTree : Json :=
  .object [("list", .array [.object [("0", .integer 1), ("x~/", .array [])], .string "s"])]

def scalarsTree : Json := .object [("a/b", .array [.integer 1, .null])]

theorem regular_leaf (leaf : tree.isContainer = false) : tree.Regular :=
  everywhere_leaf (startsPlain_leaf leaf).startsApart leaf

/-- The first item of the list has members, and none of them is named like the second item. -/
theorem regular_listedTree : listedTree.Regular := by
  have first : (object [("0", .integer 1), ("x~/", .array [])]).Regular := by
    apply everywhere_object
    · rintro first rest ⟨⟩
    · simp only [List.forall_mem_cons]
      exact ⟨regular_leaf rfl, regular_leaf rfl, List.forall_mem_nil _⟩
  apply everywhere_object
  · rintro first rest ⟨⟩
  · rw [List.forall_mem_singleton]
    apply everywhere_array
    · rintro _ _ ⟨⟩ -
      refine ⟨_, rfl, ?_⟩
      intro m member place least greatest
      obtain rfl : place = 1 := by
        simp only [List.length_cons, List.length_nil] at greatest
        omega
      have names : m.1 ∈ ["0", "x~/"] := List.mem_map_of_mem (f := Prod.fst) member
      have apart : ∀ name ∈ ["0", "x~/"], name ≠ Text.decimal 1 := by decide
      exact apart m.1 names
    · simp only [List.forall_mem_cons]
      exact ⟨first, regular_leaf rfl, List.forall_mem_nil _⟩

theorem startsPlain_scalarsTree : scalarsTree.Everywhere StartsPlain := by
  apply everywhere_object
  · rintro first rest ⟨⟩
  · rw [List.forall_mem_singleton]
    apply everywhere_array
    · rintro _ _ ⟨⟩
      rfl
    · simp only [List.forall_mem_cons]
      exact ⟨everywhere_leaf (startsPlain_leaf rfl) rfl, everywhere_leaf (startsPlain_leaf rfl) rfl,
        List.forall_mem_nil _⟩

theorem flatten_regular_listedTree :
    (listedTree.Canonical ∧ listedTree.Regular ∧ ((leaves [] listedTree).map Prod.fst).Nodup ∧
      listedTree.flatten.get? "/list/x~0~1" = some "null") ∧
    (scalarsTree.Canonical ∧ scalarsTree.Everywhere StartsPlain ∧
      scalarsTree.resolve? "/a~1b/1" = some ([.member "a/b", .index 1], .null)) := by
  have listedOrder : listedTree.Canonical := by
    simp only [listedTree, Canonical, CanonicalItems, CanonicalMembers, Ascending]
    decide
  have scalarsOrder : scalarsTree.Canonical := by
    simp only [scalarsTree, Canonical, CanonicalItems, CanonicalMembers, Ascending]
    decide
  have scalarsRegular : scalarsTree.Regular := fun way below stands =>
    (startsPlain_scalarsTree way below stands).startsApart
  obtain ⟨-, nodup, -, get, -⟩ := flatten_regular listedTree listedOrder regular_listedTree
  obtain ⟨-, -, -, -, resolve⟩ := flatten_regular scalarsTree scalarsOrder scalarsRegular
  refine ⟨⟨listedOrder, regular_listedTree, nodup, ?_⟩, scalarsOrder, startsPlain_scalarsTree, ?_⟩
  · exact (get _ _).mpr ⟨[.member "list", .index 0, .member "x~/"], .array [], ⟨rfl, rfl⟩, rfl, rfl⟩
  · exact resolve startsPlain_scalarsTree [.member "a/b", .index 1] .null ⟨rfl, rfl⟩

end Json

end PbrTelemetry
