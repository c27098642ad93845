import PbrTelemetry.Proofs.Decode.Identity
import PbrTelemetry.Proofs.Path.Delimited

/-!
# Scalars under their own paths

An update with a scalar contributes one leaf, whose key is the text of its path.  Two paths that are
delimited share a key only if they have the same elements, so a scalar is lost only to a later one
of the same node (`Notification.scalars_apart`).
-/

namespace PbrTelemetry

namespace Update

variable {update : Update} {path : Path} {value : TypedValue}

/-- An update with a scalar has its own path as key. -/
theorem decodedLeaves_of_scalar (atPath : update.path = some path) (has : update.val = some value)
    (scalar : update.valueKind = .scalar) :
    update.decodedLeaves = [(path.render, .scalar value)] := by
  rw [valueKind, has] at scalar
  rw [decodedLeaves, atPath, has]
  cases value with
  | jsonIetf payload => cases scalar
  | _ => rfl

theorem exists_of_isComplete (complete : update.isComplete = true) :
    ∃ path value, update.path = some path ∧ update.val = some value := by
  rw [isComplete, Bool.and_eq_true] at complete
  obtain ⟨path, atPath⟩ := Option.isSome_iff_exists.mp complete.1
  obtain ⟨value, has⟩ := Option.isSome_iff_exists.mp complete.2
  exact ⟨path, value, atPath, has⟩

theorem decodedLeaves_of_not_isComplete (incomplete : update.isComplete = false) :
    update.decodedLeaves = [] := by
  obtain ⟨path, val, duplicates⟩ := update
  cases path with
  | none => rfl
  | some path =>
    cases val with
    | none => rfl
    | some value => cases incomplete

/-- The update does not count, or it has a scalar under a path that can be told from its text. -/
def IsPlainScalar (update : Update) : Prop :=
  update.isComplete = true → update.valueKind = .scalar ∧ ∀ path ∈ update.path, path.IsDelimited

instance (update : Update) : Decidable update.IsPlainScalar :=
  inferInstanceAs (Decidable (_ → _ ∧ ∀ path ∈ update.path, path.IsDelimited))

theorem IsPlainScalar.exists_of_mem {leaf : String × LeafValue} (plain : update.IsPlainScalar)
    (member : leaf ∈ update.decodedLeaves) :
    ∃ path value, update.path = some path ∧ update.val = some value ∧ path.IsDelimited ∧
      leaf = (path.render, .scalar value) := by
  cases complete : update.isComplete with
  | false =>
    rw [decodedLeaves_of_not_isComplete complete] at member
    cases member
  | true =>
    obtain ⟨path, value, atPath, has⟩ := exists_of_isComplete complete
    obtain ⟨scalar, delimited⟩ := plain complete
    rw [decodedLeaves_of_scalar atPath has scalar, List.mem_singleton] at member
    exact ⟨path, value, atPath, has, delimited path atPath, member⟩

end Update

namespace Notification

variable {notification : Notification} {origin : String} {map : FlatMap}

/-- Among scalars the last one of a node counts, and no scalar of another node gets in its way. -/
theorem isLastEntry_of_apart {before after : List Update} {update : Update} {path : Path}
    {value : TypedValue} (split : notification.update = before ++ update :: after)
    (plain : ∀ update ∈ notification.update, update.IsPlainScalar)
    (atPath : update.path = some path) (has : update.val = some value)
    (apart : ∀ later ∈ after, ∀ node scalar, later.path = some node → later.val = some scalar →
      node.elems ≠ path.elems) :
    IsLastEntry path.render (.scalar value) notification.decodedLeaves := by
  rw [split] at plain
  obtain ⟨scalar, delimited⟩ := plain update (by simp) (by rw [Update.isComplete, atPath, has]; rfl)
  refine ⟨before.flatMap Update.decodedLeaves, after.flatMap Update.decodedLeaves, ?_, ?_⟩
  · rw [decodedLeaves, split, List.flatMap_append, List.flatMap_cons,
      Update.decodedLeaves_of_scalar atPath has scalar]
    rfl
  · intro leaf member same
    obtain ⟨later, there, inside⟩ := List.mem_flatMap.mp member
    obtain ⟨node, found, atNode, hasFound, own, rfl⟩ :=
      (plain later (by simp [there])).exists_of_mem inside
    exact apart later there node found atNode hasFound
      (Path.elems_eq_of_render_eq own (delimited path atPath) same)

/-- Delimited paths have one text only if they have the same elements.  So where all values are
scalars under delimited paths, the flat map has every one of them that no later one of the same node
replaces. -/
theorem scalars_apart :
    (∀ first second : Path, first.IsDelimited → second.IsDelimited →
      first.render = second.render → first.elems = second.elems) ∧
    ∀ (notification : Notification) (origin : String) (map : FlatMap),
      notification.flatten origin = .ok map →
      (∀ update ∈ notification.update, update.IsPlainScalar) →
      ∀ before update after path value, notification.update = before ++ update :: after →
        update.path = some path → update.val = some value →
        (∀ later ∈ after, ∀ node scalar, later.path = some node → later.val = some scalar →
          node.elems ≠ path.elems) →
        map.get? path.render = some value.scalarText := by
  refine ⟨fun _ _ => Path.elems_eq_of_render_eq, ?_⟩
  intro notification origin map flat plain before update after path value split atPath has apart
  obtain ⟨-, policy, rule, -, -, rfl⟩ := eq_of_flatten_ok flat
  refine get?_eq_some_iff.mpr (.inl ?_)
  have last := isLastEntry_of_apart split plain atPath has apart
  rw [leafMap, TextMap.get?_ofList, LeafValue.entries, ← List.map_reverse, findEntry_map,
    findEntry_reverse_eq_some_iff.mpr last]
  rfl

/-- Scalars of two entries of one list, and of one of them twice. -/
def neighbours : Notification where
  prefixPath := some
    { origin := "model"
      elems :=
        [{ name := "policy-map", keys := TextMap.empty.insert "policy-name" "web" },
         { name := "rule-name", keys := TextMap.empty.insert "rule-name" "deny" }] }
  update :=
    [{ path := some (neighbour "a=b[" ""), val := some (.uint 1) },
     { path := some (neighbour "a" "b["), val := some (.bool true) },
     { path := some {} },
     { path := some (neighbour "a=b[" ""), val := some (.string "up") }]
where
  neighbour (address vrf : String) : Path :=
    { elems := [{ name := "", keys := TextMap.ofList [("address", address), ("vrf", vrf)] }] }

theorem scalars_apart_neighbours :
    neighbours.flatten "model" = .ok (TextMap.ofList
      [("/[address=a=b[][vrf=]", "up"), ("/[address=a][vrf=b[]", "true"), ("policy_name", "web"),
        ("rule_name", "deny")]) ∧
    (neighbours.neighbour "a=b[" "").render ≠ (neighbours.neighbour "a" "b[").render ∧
    ∀ map, neighbours.flatten "model" = .ok map →
      map.get? (neighbours.neighbour "a" "b[").render = some "true" := by
  have flat : neighbours.flatten "model" = .ok (TextMap.ofList
      [("/[address=a=b[][vrf=]", "up"), ("/[address=a][vrf=b[]", "true"), ("policy_name", "web"),
        ("rule_name", "deny")]) := by decide +kernel
  have apart : (neighbours.neighbour "a=b[" "").elems ≠ (neighbours.neighbour "a" "b[").elems := by
    decide
  have delimited : (neighbours.neighbour "a=b[" "").IsDelimited ∧
      (neighbours.neighbour "a" "b[").IsDelimited := by decide +kernel
  have plain : ∀ update ∈ neighbours.update, update.IsPlainScalar := by decide +kernel
  refine ⟨flat, fun same => apart (scalars_apart.1 _ _ delimited.1 delimited.2 same), ?_⟩
  intro map other
  refine scalars_apart.2 neighbours "model" map other plain [_] _ [_, _] _ _ rfl rfl rfl ?_
  intro later member node scalar atNode has
  -- Of the two updates behind it, one does not count and the other is of another entry
  rcases List.mem_cons.mp member with rfl | member
  · cases has
  · cases List.mem_singleton.mp member
    cases atNode
    exact apart

end Notification

end PbrTelemetry
