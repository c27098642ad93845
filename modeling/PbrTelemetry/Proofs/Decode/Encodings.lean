import Mathlib.Data.List.Nodup
import PbrTelemetry.Counter
import PbrTelemetry.Json.Printer
import PbrTelemetry.Proofs.Decode.Pointer
import PbrTelemetry.Proofs.Text.Cut
import PbrTelemetry.Proofs.Text.Number
import PbrTelemetry.Proofs.Text.Utf8
import PbrTelemetry.Proofs.TextMap.Lookup

/-!
# Two encodings of a record

A target reports a record leaf by leaf, or as pieces of a JSON tree.  Both are read as the same
record (`checkResponse_encodings`), in whatever order the updates come and however the tree is
divided among them.

Both ways lead through the list of all entries that the updates contribute.  A record is read from
any list in which its six leaves stand and in which nothing else stands under their keys (`Holds`).
For a divided tree the second half is the one that needs an argument: from a piece, members are left
out, and an object of which nothing is left becomes a leaf with a key of its own.  Its way stops
before a leaf of the tree, so its key is none of the six (`key_of_leadsOn`).
-/

namespace PbrTelemetry

open Json (PointerToken pointers pointerKey leafText LeadsOn Part)

/-! ## Records as leaves -/

namespace PbrStat

def leafKeys : List String :=
  [leaves.byteCount, leaves.nanoseconds, leaves.seconds, leaves.packetCount, leaves.pathGroup,
    leaves.action]

def scalarLeaves (s : PbrStat) : List (String × TypedValue) :=
  [(leaves.byteCount, .uint s.byteCount),
   (leaves.nanoseconds, .uint s.nanoseconds),
   (leaves.seconds, .uint s.seconds),
   (leaves.packetCount, .uint s.packetCount),
   (leaves.pathGroup, .string s.pathGroup),
   (leaves.action, .string s.action)]

def textLeaves (s : PbrStat) : List (String × String) :=
  [(leaves.byteCount, Text.decimal s.byteCount.toNat),
   (leaves.nanoseconds, Text.decimal s.nanoseconds.toNat),
   (leaves.seconds, Text.decimal s.seconds.toNat),
   (leaves.packetCount, Text.decimal s.packetCount.toNat),
   (leaves.pathGroup, s.pathGroup),
   (leaves.action, s.action)]

variable {s : PbrStat} {entries : List (String × String)} {leaf : String × String}

theorem map_scalarText (s : PbrStat) :
    (s.scalarLeaves.map fun leaf => (leaf.1, leaf.2.scalarText)) = s.textLeaves := rfl

theorem map_key (s : PbrStat) : s.textLeaves.map Prod.fst = leafKeys := rfl

theorem key_mem (own : leaf ∈ s.textLeaves) : leaf.1 ∈ leafKeys := by
  rw [← s.map_key]
  exact List.mem_map_of_mem own

theorem textLeaves_unique {key first second : String} (left : (key, first) ∈ s.textLeaves)
    (right : (key, second) ∈ s.textLeaves) : first = second := by
  have distinct : (s.textLeaves.map Prod.fst).Nodup := by
    rw [s.map_key]
    decide
  exact congrArg Prod.snd (List.inj_on_of_nodup_map distinct left right rfl)

/-- The entries hold the leaves of the record, and nothing else under the same keys. -/
structure Holds (s : PbrStat) (entries : List (String × String)) : Prop where
  all : ∀ leaf ∈ s.textLeaves, leaf ∈ entries
  only : ∀ entry ∈ entries, entry.1 ∈ leafKeys → entry ∈ s.textLeaves

theorem Holds.get? (holds : s.Holds entries) (own : leaf ∈ s.textLeaves) :
    (TextMap.ofList entries).get? leaf.1 = some leaf.2 := by
  apply TextMap.get?_ofList_of_agree (holds.all leaf own)
  intro other member
  have key : leaf.1 ∈ leafKeys := key_mem own
  exact textLeaves_unique (holds.only _ member key) own

theorem wordField_of_get? {map : FlatMap} {key : String} {word : UInt64}
    (get : map.get? key = some (Text.decimal word.toNat)) :
    FlatMap.wordField map key = .ok word := by
  have digits : (Text.decimal word.toNat).toList = Nat.toDigits 10 word.toNat :=
    String.toList_ofList
  simp only [FlatMap.wordField, get, digits, Text.word?_trim_toDigits]

/-- A record is read from its leaves and its names. -/
theorem ofMap_of_holds (holds : s.Holds entries) :
    ofMap (((TextMap.ofList entries).insert policyNameKey s.policyName).insert ruleNameKey
      s.ruleName) = .ok s := by
  generalize named : ((TextMap.ofList entries).insert policyNameKey s.policyName).insert
    ruleNameKey s.ruleName = map
  have apart : ∀ key ∈ leafKeys, ruleNameKey ≠ key ∧ policyNameKey ≠ key := by decide
  have get : ∀ leaf ∈ s.textLeaves, map.get? leaf.1 = some leaf.2 := by
    intro leaf own
    obtain ⟨noRule, noPolicy⟩ := apart leaf.1 (key_mem own)
    rw [← named, TextMap.get?_insert, if_neg noRule, TextMap.get?_insert, if_neg noPolicy,
      holds.get? own]
  have policy : map.get? policyNameKey = some s.policyName := by
    rw [← named, TextMap.get?_insert, if_neg (by decide), TextMap.get?_insert, if_pos rfl]
  have rule : map.get? ruleNameKey = some s.ruleName := by
    rw [← named, TextMap.get?_insert, if_pos rfl]
  simp only [textLeaves, List.forall_mem_cons] at get
  obtain ⟨byteCount, nanoseconds, seconds, packetCount, pathGroup, action, -⟩ := get
  simp only [ofMap, wordField_of_get? byteCount, wordField_of_get? packetCount,
    wordField_of_get? seconds, wordField_of_get? nanoseconds, FlatMap.textField, policy, rule,
    pathGroup, action, Option.getD_some]
  rfl

/-! ## Records as trees -/

/-- How the tree of a record is written: which numbers stand there as text, and whether the action
is the only item of an array. -/
structure TreeForm where
  byteCountQuoted : Bool := false
  packetCountQuoted : Bool := false
  secondsQuoted : Bool := false
  nanosecondsQuoted : Bool := false
  actionListed : Bool := false

/-- A number, as such or as the text of its digits. -/
def numberLeaf (quoted : Bool) (n : UInt64) : Json :=
  if quoted then .string (Text.decimal n.toNat) else .integer n.toNat

def tree (s : PbrStat) (form : TreeForm) : Json :=
  .object
    [("fib-stats", .object
      [("byte-count", numberLeaf form.byteCountQuoted s.byteCount),
       ("collection-timestamp", .object
         [("nano-seconds", numberLeaf form.nanosecondsQuoted s.nanoseconds),
          ("seconds", numberLeaf form.secondsQuoted s.seconds)]),
       ("packet-count", numberLeaf form.packetCountQuoted s.packetCount)]),
     ("paction", .object
      [("policy-rule-action", if form.actionListed then .array [action] else action)])]
where
  action := .object
    [("act-un", .object [("path-grp-name", .string s.pathGroup), ("type", .string s.action)])]

def treeWays (actionListed : Bool) : List (List PointerToken) :=
  [[.member "fib-stats", .member "byte-count"],
   [.member "fib-stats", .member "collection-timestamp", .member "nano-seconds"],
   [.member "fib-stats", .member "collection-timestamp", .member "seconds"],
   [.member "fib-stats", .member "packet-count"],
   action ++ [.member "act-un", .member "path-grp-name"],
   action ++ [.member "act-un", .member "type"]]
where
  action := [.member "paction", .member "policy-rule-action"]
    ++ if actionListed then [.index 0] else []

def treeValues (s : PbrStat) (form : TreeForm) : List Json :=
  [numberLeaf form.byteCountQuoted s.byteCount, numberLeaf form.nanosecondsQuoted s.nanoseconds,
    numberLeaf form.secondsQuoted s.seconds, numberLeaf form.packetCountQuoted s.packetCount,
    .string s.pathGroup, .string s.action]

theorem pointers_numberLeaf (quoted : Bool) (n : UInt64) :
    pointers (numberLeaf quoted n) = [([], numberLeaf quoted n)] := by
  cases quoted with
  | false => exact Json.pointers_of_not_container rfl
  | true => exact Json.pointers_of_not_container rfl

theorem leafText_numberLeaf (quoted : Bool) (n : UInt64) :
    leafText (numberLeaf quoted n) = Text.decimal n.toNat := by
  cases quoted with
  | false => rfl
  | true => rfl

theorem pointers_tree (s : PbrStat) (form : TreeForm) :
    pointers (s.tree form) = (treeWays form.actionListed).zip (s.treeValues form) := by
  cases listed : form.actionListed with
  | false =>
    simp [tree, tree.action, listed, pointers, Json.memberPointers, pointers_numberLeaf, treeWays,
      treeWays.action, treeValues]
  | true =>
    simp [tree, tree.action, listed, pointers, Json.memberPointers, Json.itemPointers,
      pointers_numberLeaf, treeWays, treeWays.action, treeValues]

theorem map_pointerKey (actionListed : Bool) :
    ((treeWays actionListed).map fun way => String.ofList (pointerKey way)) = leafKeys := by
  cases actionListed with
  | false => rfl
  | true => rfl

theorem map_leafText (s : PbrStat) (form : TreeForm) :
    (s.treeValues form).map leafText = s.textLeaves.map Prod.snd := by
  simp only [treeValues, textLeaves, List.map_cons, List.map_nil, leafText_numberLeaf]
  rfl

/-- The entries of the tree are the leaves of the record. -/
theorem leafEntries_tree (s : PbrStat) (form : TreeForm) :
    (s.tree form).leafEntries = s.textLeaves := by
  calc (s.tree form).leafEntries
    _ = ((treeWays form.actionListed).map fun way => String.ofList (pointerKey way)).zip
          ((s.treeValues form).map leafText) := by
      rw [Json.leafEntries, pointers_tree, List.zip_map]
      rfl
    _ = leafKeys.zip (s.textLeaves.map Prod.snd) := by rw [map_pointerKey, map_leafText]
    _ = s.textLeaves := rfl

/-- A way that stops before a leaf does not have the key of a leaf. -/
theorem key_of_leadsOn {form : TreeForm} {way : List PointerToken}
    (leadsOn : LeadsOn (s.tree form) way) : String.ofList (pointerKey way) ∉ leafKeys := by
  have stops : ∀ listed : Bool, ∀ full ∈ treeWays listed, ∀ n < full.length,
      ∀ other ∈ treeWays listed, pointerKey other ≠ pointerKey (full.take n) := by
    decide +kernel
  obtain ⟨rest, value, deeper, inside⟩ := leadsOn
  rw [pointers_tree] at inside
  have full : way ++ rest ∈ treeWays form.actionListed := (List.of_mem_zip inside).1
  have shorter : way.length < (way ++ rest).length := by
    rw [List.length_append]
    have filled := List.length_pos_of_ne_nil deeper
    omega
  have apart := stops form.actionListed (way ++ rest) full way.length shorter
  rw [List.take_left] at apart
  rw [← map_pointerKey form.actionListed, List.mem_map]
  rintro ⟨other, leads, same⟩
  exact apart other leads (String.ofList_injective same)

/-- The pieces of a divided tree hold the leaves of the record. -/
theorem holds_pieces {form : TreeForm} {pieces : List Json}
    (divided : (s.tree form).DividedInto pieces) :
    s.Holds (pieces.flatMap Json.leafEntries) where
  all leaf own := by
    rw [← leafEntries_tree s form] at own
    obtain ⟨p, inside, rfl⟩ := List.mem_map.mp own
    obtain ⟨piece, there, found⟩ := divided.covers p inside
    exact List.mem_flatMap.mpr ⟨piece, there, List.mem_map_of_mem found⟩
  only entry member own := by
    obtain ⟨piece, there, below⟩ := List.mem_flatMap.mp member
    obtain ⟨p, found, rfl⟩ := List.mem_map.mp below
    rcases (divided.parts piece there).mem_pointers p found with inside | leadsOn
    · rw [← leafEntries_tree s form]
      exact List.mem_map_of_mem inside
    · exact absurd own (key_of_leadsOn leadsOn)

end PbrStat

/-! ## Updates -/

/-- The names of a record stand on the path. -/
structure Path.Names (path : Path) (s : PbrStat) : Prop where
  policy : path.elemKey? "policy-map" "policy-name" = some s.policyName
  rule : path.elemKey? "rule-name" "rule-name" = some s.ruleName

/-- The update has the value of a leaf, under a path that is written as its key. -/
structure Update.IsLeaf (leaf : String × TypedValue) (update : Update) : Prop where
  path : ∃ path, update.path = some path ∧ path.render = leaf.1
  value : update.val = some leaf.2

/-- The update has a piece of a tree as its JSON payload, and the names of a record on its path. -/
structure Update.IsPiece (s : PbrStat) (piece : Json) (update : Update) : Prop where
  path : ∃ path, update.path = some path ∧ path.Names s
  value : ∃ payload, update.val = some (.jsonIetf payload) ∧ Json.parseBytes? payload = some piece

namespace Notification

variable {s : PbrStat} {collected : Collected} {update : Update}

theorem Collected.add_leaf {leaf : String × TypedValue} (isLeaf : update.IsLeaf leaf)
    (scalar : leaf.2.jsonIetf? = none) :
    collected.add update = .ok
      { leaves := collected.leaves.insert leaf.1 leaf.2.scalarText, jsonPath := none } := by
  obtain ⟨key, value⟩ := leaf
  obtain ⟨path, atPath, rendered⟩ := isLeaf.path
  simp only at rendered scalar
  rw [← rendered, Collected.add, atPath, isLeaf.value]
  cases value with
  | jsonIetf payload => cases scalar
  | _ => rfl

theorem Collected.add_piece (collected : Collected) {piece : Json}
    (isPiece : update.IsPiece s piece) :
    ∃ path, path.Names s ∧ collected.add update = .ok
      { leaves := collected.leaves.insertAll piece.leafEntries, jsonPath := some path } := by
  obtain ⟨path, atPath, names⟩ := isPiece.path
  obtain ⟨payload, value, parsed⟩ := isPiece.value
  refine ⟨path, names, ?_⟩
  rw [Collected.add, atPath, value]
  simp only [decodePayload, parsed, Json.flatten_eq_ofList, ← TextMap.merge_ofList]
  rfl

theorem foldlM_add_leaves (collected : Collected) {leaves : List (String × TypedValue)}
    {updates : List Update} (areLeaves : List.Forall₂ Update.IsLeaf leaves updates)
    (scalar : ∀ leaf ∈ leaves, leaf.2.jsonIetf? = none) (noJson : collected.jsonPath = none) :
    updates.foldlM Collected.add collected = .ok
      { leaves := collected.leaves.insertAll (leaves.map fun leaf => (leaf.1, leaf.2.scalarText))
        jsonPath := none } := by
  induction areLeaves generalizing collected with
  | nil =>
    obtain ⟨map, path⟩ := collected
    cases noJson
    rfl
  | @cons leaf update leaves updates isLeaf areLeaves ih =>
    obtain ⟨first, others⟩ := List.forall_mem_cons.mp scalar
    rw [List.foldlM_cons, Collected.add_leaf isLeaf first]
    exact ih _ others rfl

theorem foldlM_add_pieces (collected : Collected) {pieces : List Json} {updates : List Update}
    (arePieces : List.Forall₂ (Update.IsPiece s) pieces updates)
    (named : pieces = [] → ∃ path, collected.jsonPath = some path ∧ path.Names s) :
    ∃ path, path.Names s ∧ updates.foldlM Collected.add collected = .ok
      { leaves := collected.leaves.insertAll (pieces.flatMap Json.leafEntries)
        jsonPath := some path } := by
  induction arePieces generalizing collected with
  | nil =>
    obtain ⟨map, jsonPath⟩ := collected
    obtain ⟨path, rfl, names⟩ := named rfl
    exact ⟨path, names, rfl⟩
  | @cons piece update pieces updates isPiece arePieces ih =>
    obtain ⟨path, names, added⟩ := Collected.add_piece collected isPiece
    rw [List.foldlM_cons, added, List.flatMap_cons, TextMap.insertAll_append]
    exact ih _ fun _ => ⟨path, rfl, names⟩

end Notification

/-! ## Responses -/

namespace Counter

variable {counter : Counter} {s : PbrStat} {notification : Notification} {prefixPath : Path}

/-- A notification yields a record if its updates hold the leaves and the names stand where they
are looked for. -/
theorem checkResponse_of_collect {entries : List (String × String)} {jsonPath : Option Path}
    (prefixed : notification.prefixPath = some prefixPath)
    (filled : counter.origin ≠ "")
    (origin : counter.origin.toList <:+: prefixPath.origin.toList)
    (collected : Notification.collect notification.update
      = .ok { leaves := TextMap.ofList entries, jsonPath })
    (some_update : notification.update ≠ [])
    (policyFilled : s.policyName ≠ "") (ruleFilled : s.ruleName ≠ "")
    (names : (jsonPath.getD prefixPath).Names s) (holds : s.Holds entries) :
    counter.checkResponse (.update notification) = .ok s := by
  have written : prefixPath.origin ≠ "" := by
    intro empty
    rw [empty] at origin
    have nothing : counter.origin.toList = [] := List.infix_nil.mp origin
    exact filled (String.toList_eq_nil_iff.mp nothing)
  have checked : notification.checkedPrefix counter.origin = .ok prefixPath := by
    rw [Notification.checkedPrefix, prefixed]
    simp only [written, if_false, Text.occursIn_iff.mpr origin, if_true]
  have occupied : notification.update.isEmpty = false := List.isEmpty_eq_false_iff.mpr some_update
  have policy : (jsonPath.getD prefixPath).policyName? = some s.policyName := by
    simp [Path.policyName?, names.policy, policyFilled]
  have rule : (jsonPath.getD prefixPath).ruleName? = some s.ruleName := by
    simp [Path.ruleName?, names.rule, ruleFilled]
  have flat : notification.flatten counter.origin = .ok
      (((TextMap.ofList entries).insert policyNameKey s.policyName).insert ruleNameKey
        s.ruleName) := by
    rw [Notification.flatten, checked]
    simp only [occupied, collected, policy, rule, bind, Except.bind]
    rfl
  rw [checkResponse, flat]
  exact PbrStat.ofMap_of_holds holds

/-- A record comes out of a notification with its six leaves as scalars, in any order, and out of
one with its tree as JSON, however that is written and divided among the updates. -/
theorem checkResponse_encodings (counter : Counter) (s : PbrStat) (notification : Notification)
    (prefixPath : Path) (pbr : counter.origin = pbrOrigin)
    (policyFilled : s.policyName ≠ "") (ruleFilled : s.ruleName ≠ "")
    (prefixed : notification.prefixPath = some prefixPath)
    (origin : pbrOrigin.toList <:+: prefixPath.origin.toList) :
    (∀ leaves : List (String × TypedValue), leaves.Perm s.scalarLeaves → prefixPath.Names s →
      List.Forall₂ Update.IsLeaf leaves notification.update →
      counter.checkResponse (.update notification) = .ok s) ∧
    (∀ (form : PbrStat.TreeForm) (pieces : List Json), (s.tree form).DividedInto pieces →
      List.Forall₂ (Update.IsPiece s) pieces notification.update →
      counter.checkResponse (.update notification) = .ok s) := by
  have filled : counter.origin ≠ "" := by
    rw [pbr]
    decide
  rw [← pbr] at origin
  constructor
  · intro leaves order names areLeaves
    have scalar : ∀ leaf ∈ leaves, leaf.2.jsonIetf? = none := by
      intro leaf member
      have own := order.mem_iff.mp member
      simp only [PbrStat.scalarLeaves, List.mem_cons, List.not_mem_nil, or_false] at own
      rcases own with rfl | rfl | rfl | rfl | rfl | rfl <;> rfl
    have collected := Notification.foldlM_add_leaves {} areLeaves scalar rfl
    have texts := order.map fun leaf => (leaf.1, leaf.2.scalarText)
    rw [s.map_scalarText] at texts
    refine checkResponse_of_collect prefixed filled origin collected ?_ policyFilled ruleFilled
      names ⟨?_, ?_⟩
    · intro none
      rw [none] at areLeaves
      cases areLeaves
      simpa [PbrStat.scalarLeaves] using order.length_eq
    · exact fun leaf own => texts.mem_iff.mpr own
    · exact fun entry member _ => texts.mem_iff.mp member
  · intro form pieces divided arePieces
    have holds := PbrStat.holds_pieces divided
    have some_piece : pieces ≠ [] := by
      rintro rfl
      have nowhere := holds.all _ (List.mem_cons_self)
      cases nowhere
    obtain ⟨path, names, collected⟩ :=
      Notification.foldlM_add_pieces {} arePieces fun none => absurd none some_piece
    refine checkResponse_of_collect prefixed filled origin collected ?_ policyFilled ruleFilled
      names holds
    intro none
    rw [none] at arePieces
    cases arePieces
    exact some_piece rfl

def fullStat : PbrStat where
  policyName := "web"
  ruleName := "deny/all"
  byteCount := 18446744073709551615
  packetCount := 0
  seconds := 1700000000
  nanoseconds := 7
  pathGroup := "~/]["
  action := ""

def fullPath : Path where
  origin := "v2-" ++ pbrOrigin
  elems :=
    [{ name := "policy-map", keys := TextMap.empty.insert "policy-name" "web" },
     { name := "rule-name", keys := TextMap.empty.insert "rule-name" "deny/all" }]

def fullPieces : List Json :=
  [.object [("fib-stats", .object
      [("byte-count", .string "18446744073709551615"),
       ("collection-timestamp", .object
         [("nano-seconds", .integer 7), ("seconds", .integer 1700000000)]),
       ("packet-count", .integer 0)])],
   .object [("paction", .object [("policy-rule-action", .array [.object
      [("act-un", .object [("path-grp-name", .string "~/]["), ("type", .string "")])]])])]]

def leafUpdate (leaf : String × TypedValue) : Update :=
  { path := (Path.parse leaf.1).toOption, val := some leaf.2 }

def pieceUpdate (piece : Json) : Update :=
  { path := some fullPath, val := some (.jsonIetf piece.render.toUTF8.data.toList) }

theorem parse?_fullPieces : ∀ piece ∈ fullPieces, Json.parse? piece.render.toList = some piece := by
  simp only [fullPieces, List.forall_mem_cons]
  set_option maxRecDepth 100000 in
  exact ⟨rfl, rfl, List.forall_mem_nil _⟩

theorem checkResponse_encodings_fullStat :
    checkResponse {} (.update
      { prefixPath := some fullPath, update := fullStat.scalarLeaves.reverse.map leafUpdate })
      = .ok fullStat ∧
    checkResponse {} (.update
      { prefixPath := some { origin := pbrOrigin }, update := fullPieces.map pieceUpdate })
      = .ok fullStat := by
  have names : fullPath.Names fullStat := ⟨rfl, rfl⟩
  constructor
  · apply (checkResponse_encodings {} fullStat _ fullPath rfl (by decide) (by decide) rfl
      ⟨['v', '2', '-'], [], rfl⟩).1 _ fullStat.scalarLeaves.reverse_perm names
    rw [List.forall₂_map_right_iff, List.forall₂_same]
    intro leaf member
    have keyPaths : ∀ key ∈ PbrStat.leafKeys,
        ((Path.parse key).toOption.map Path.render) = some key := by
      simp only [PbrStat.leafKeys, List.forall_mem_cons]
      exact ⟨rfl, rfl, rfl, rfl, rfl, rfl, List.forall_mem_nil _⟩
    have own : leaf.1 ∈ fullStat.scalarLeaves.map Prod.fst :=
      List.mem_map_of_mem (List.mem_reverse.mp member)
    obtain ⟨path, parsed, rendered⟩ := Option.map_eq_some_iff.mp (keyPaths leaf.1 own)
    exact ⟨⟨path, parsed, rendered⟩, rfl⟩
  · apply (checkResponse_encodings {} fullStat _ { origin := pbrOrigin } rfl (by decide) (by decide)
      rfl (List.infix_refl _)).2 { byteCountQuoted := true, actionListed := true } fullPieces
    · exact Json.dividedInto_members (List.cons_ne_nil _ _)
    · rw [List.forall₂_map_right_iff, List.forall₂_same]
      exact fun piece member => ⟨⟨_, rfl, names⟩, _, rfl,
        (Json.parseBytes?_utf8 _).trans (parse?_fullPieces piece member)⟩

end Counter

end PbrTelemetry
