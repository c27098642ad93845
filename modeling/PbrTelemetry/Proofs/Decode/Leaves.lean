import PbrTelemetry.Decode.Notification
import PbrTelemetry.Proofs.Decode.Pointer
import PbrTelemetry.Proofs.TextMap.Lookup

/-!
# The leaves of a notification

Every update of a notification contributes leaves: its own value, or the leaves of the tree in its
payload.  A flat map holds their texts only; `Notification.decodedLeaves` keeps what they are, in
the order in which they are entered into the map (`Collected.add_ok`).

Every key is empty or starts with a slash (`isLeafKey_of_mem`), whatever names stand in a tree or on
a path.
-/

namespace PbrTelemetry

open Json (pointers pointerKey leafText shownTokens)

/-- What stands under a key: the scalar of an update, or a leaf of a tree. -/
inductive LeafValue where
  | scalar (value : TypedValue)
  | json (leaf : Json)

def LeafValue.text : LeafValue → String
  | scalar value => value.scalarText
  | json leaf => leafText leaf

def LeafValue.entries (leaves : List (String × LeafValue)) : List (String × String) :=
  leaves.map fun leaf => (leaf.1, leaf.2.text)

def Update.decodedLeaves (update : Update) : List (String × LeafValue) :=
  match update.path, update.val with
  | some _, some (.jsonIetf payload) =>
    match Json.parseBytes? payload with
    | some tree => (pointers tree).map fun p => (String.ofList (pointerKey p.1), .json p.2)
    | none => []
  | some path, some value => [(path.render, .scalar value)]
  | _, _ => []

def Notification.decodedLeaves (notification : Notification) : List (String × LeafValue) :=
  notification.update.flatMap Update.decodedLeaves

/-- The key is empty or starts with a slash. -/
def IsLeafKey (key : String) : Prop := key = "" ∨ ∃ rest, key.toList = '/' :: rest

theorem isLeafKey_ofList {text : List Char} (starts : ∀ c ∈ text.head?, c = '/') :
    IsLeafKey (String.ofList text) := by
  cases text with
  | nil => exact .inl rfl
  | cons c rest =>
    cases starts c rfl
    exact .inr ⟨rest, String.toList_ofList⟩

theorem isLeafKey_pointerKey (way : List Json.PointerToken) :
    IsLeafKey (String.ofList (pointerKey way)) := by
  apply isLeafKey_ofList
  rw [pointerKey]
  cases shownTokens way with
  | nil => simp
  | cons token rest => simp

theorem Path.isLeafKey_render (path : Path) : IsLeafKey path.render := by
  apply isLeafKey_ofList
  cases path.elems with
  | nil => simp
  | cons elem rest => simp [PathElem.render]

/-- The two keys of the names are keys of no leaf. -/
theorem IsLeafKey.ne_names {key : String} (isLeafKey : IsLeafKey key) :
    key ≠ policyNameKey ∧ key ≠ ruleNameKey := by
  constructor
  · rintro rfl
    rcases isLeafKey with empty | ⟨rest, slash⟩
    · exact absurd empty (by decide)
    · cases slash
  · rintro rfl
    rcases isLeafKey with empty | ⟨rest, slash⟩
    · exact absurd empty (by decide)
    · cases slash

theorem Update.isLeafKey_of_mem {update : Update} {leaf : String × LeafValue}
    (member : leaf ∈ update.decodedLeaves) : IsLeafKey leaf.1 := by
  rw [Update.decodedLeaves] at member
  split at member
  · split at member
    · obtain ⟨p, -, rfl⟩ := List.mem_map.mp member
      exact isLeafKey_pointerKey p.1
    · cases member
  · cases List.mem_singleton.mp member
    exact Path.isLeafKey_render _
  · cases member

theorem Notification.isLeafKey_of_mem {notification : Notification} {leaf : String × LeafValue}
    (member : leaf ∈ notification.decodedLeaves) : IsLeafKey leaf.1 := by
  obtain ⟨update, -, inside⟩ := List.mem_flatMap.mp member
  exact Update.isLeafKey_of_mem inside

theorem LeafValue.entries_append (first second : List (String × LeafValue)) :
    entries (first ++ second) = entries first ++ entries second := List.map_append

/-- The entries of a tree are its leaves as they are written. -/
theorem LeafValue.entries_pointers (tree : Json) :
    entries ((pointers tree).map fun p => (String.ofList (pointerKey p.1), json p.2))
      = tree.leafEntries := by
  rw [entries, Json.leafEntries, List.map_map]
  rfl

end PbrTelemetry
