import Mathlib.Data.List.Forall2
import PbrTelemetry.Proofs.Decode.Outcome

/-!
# The identity of a record

A record is about one rule of one policy, and these names are never taken from a payload
(`Notification.names_unforgeable`).  No leaf has a key that a name has, so the two names stand
beside the leaves and not in their place.  And the path on which the names stand depends on the
shape of the updates only, which is their paths and the kinds of their values
(`namingPath_eq_of_sameShape`).
-/

namespace PbrTelemetry

/-! ## The shape of an update -/

inductive ValueKind where
  | absent
  | json
  | scalar
  deriving DecidableEq, Repr

namespace Update

def valueKind (update : Update) : ValueKind :=
  match update.val with
  | none => .absent
  | some (.jsonIetf _) => .json
  | some _ => .scalar

/-- Two updates have the same path, or both none, and values of the same kind. -/
structure SameShape (first second : Update) : Prop where
  path : first.path = second.path
  kind : first.valueKind = second.valueKind

variable {first second : Update}

theorem isComplete_eq (update : Update) :
    update.isComplete = (update.path.isSome && update.valueKind != .absent) := by
  obtain ⟨path, val, duplicates⟩ := update
  cases val with
  | none => rfl
  | some value => cases value <;> rfl

theorem jsonPath?_eq (update : Update) :
    update.jsonPath? = if update.valueKind = .json then update.path else none := by
  obtain ⟨path, val, duplicates⟩ := update
  cases path with
  | none => simp [jsonPath?]
  | some path =>
    cases val with
    | none => rfl
    | some value => cases value <;> rfl

theorem SameShape.isComplete (same : SameShape first second) :
    first.isComplete = second.isComplete := by
  rw [isComplete_eq, isComplete_eq, same.path, same.kind]

theorem SameShape.jsonPath? (same : SameShape first second) :
    first.jsonPath? = second.jsonPath? := by
  rw [jsonPath?_eq, jsonPath?_eq, same.path, same.kind]

end Update

/-! ## The path of the names -/

namespace Notification

variable {notification other : Notification}

theorem map_jsonPath?_eq {updates others : List Update}
    (same : List.Forall₂ Update.SameShape updates others) :
    (updates.filter Update.isComplete).map Update.jsonPath?
      = (others.filter Update.isComplete).map Update.jsonPath? := by
  -- Both histories are followed at once: whether an update counts is a matter of its shape
  induction same with
  | nil => rfl
  | @cons first second updates others here later ih =>
    rw [List.filter_cons, List.filter_cons, here.isComplete]
    split
    · rw [List.map_cons, List.map_cons, here.jsonPath?, ih]
    · exact ih

theorem namingPath_eq_of_last (prefixed : notification.prefixPath = other.prefixPath)
    (last : ((notification.update.filter Update.isComplete).map Update.jsonPath?).getLast?
      = ((other.update.filter Update.isComplete).map Update.jsonPath?).getLast?) :
    notification.namingPath = other.namingPath := by
  rw [List.getLast?_map, List.getLast?_map] at last
  have path := congrArg (fun found => found.bind id) last
  simp only [Option.bind_map, Function.id_comp] at path
  rw [namingPath, namingPath, prefixed]
  exact congrArg (fun found => found.getD (other.prefixPath.getD {})) path

theorem namingPath_eq_of_sameShape (prefixed : notification.prefixPath = other.prefixPath)
    (same : List.Forall₂ Update.SameShape notification.update other.update) :
    notification.namingPath = other.namingPath :=
  namingPath_eq_of_last prefixed (congrArg List.getLast? (map_jsonPath?_eq same))

/-! ## The names among the leaves -/

variable {key value policy rule : String}

/-- The keys of the leaves are those of the list that the leaves were made of. -/
theorem isLeafKey_of_get? (found : notification.leafMap.get? key = some value) : IsLeafKey key := by
  rw [leafMap, TextMap.get?_ofList] at found
  obtain ⟨leaf, member, same⟩ := List.mem_map.mp (List.mem_reverse.mp (mem_of_findEntry found))
  cases same
  exact isLeafKey_of_mem member

/-- The two names stand beside the leaves. -/
theorem get?_eq_some_iff :
    ((notification.leafMap.insert policyNameKey policy).insert ruleNameKey rule).get? key
        = some value ↔
      notification.leafMap.get? key = some value ∨ key = policyNameKey ∧ value = policy ∨
        key = ruleNameKey ∧ value = rule := by
  have noLeaf : notification.leafMap.get? key = some value →
      key ≠ policyNameKey ∧ key ≠ ruleNameKey := fun found => (isLeafKey_of_get? found).ne_names
  have distinct : policyNameKey ≠ ruleNameKey := by decide
  rw [TextMap.get?_insert, TextMap.get?_insert]
  grind

/-- The names of a record come from no payload: every leaf keeps its place beside them, and another
notification with the same prefix and the same paths and kinds of values, whatever these are, has
the same names. -/
theorem names_unforgeable {origin : String} {map : FlatMap}
    (flat : notification.flatten origin = .ok map) :
    (∀ key value, map.get? key = some value → key ≠ policyNameKey → key ≠ ruleNameKey →
      key = "" ∨ ∃ rest, key.toList = '/' :: rest) ∧
    ∃ collected policy rule, collect notification.update = .ok collected ∧
      collected.leaves.get? policyNameKey = none ∧ collected.leaves.get? ruleNameKey = none ∧
      (∀ key value, map.get? key = some value ↔ collected.leaves.get? key = some value ∨
        key = policyNameKey ∧ value = policy ∨ key = ruleNameKey ∧ value = rule) ∧
      ∀ (other : Notification) (otherOrigin : String) (otherMap : FlatMap),
        other.flatten otherOrigin = .ok otherMap →
        notification.prefixPath = other.prefixPath →
        List.Forall₂ Update.SameShape notification.update other.update →
        otherMap.get? policyNameKey = some policy ∧ otherMap.get? ruleNameKey = some rule := by
  obtain ⟨readable, policy, rule, policyFound, ruleFound, rfl⟩ := eq_of_flatten_ok flat
  have unnamed : ∀ key, ¬ IsLeafKey key → notification.leafMap.get? key = none := by
    intro key noKey
    rw [Option.eq_none_iff_forall_ne_some]
    exact fun value found => noKey (isLeafKey_of_get? found)
  constructor
  · intro key value found noPolicy noRule
    rcases get?_eq_some_iff.mp found with leaf | ⟨isPolicy, -⟩ | ⟨isRule, -⟩
    · exact isLeafKey_of_get? leaf
    · exact absurd isPolicy noPolicy
    · exact absurd isRule noRule
  · refine ⟨_, policy, rule, collect_of_isReadable readable,
      unnamed _ fun isLeafKey => isLeafKey.ne_names.1 rfl,
      unnamed _ fun isLeafKey => isLeafKey.ne_names.2 rfl,
      fun key value => get?_eq_some_iff, ?_⟩
    intro other otherOrigin otherMap otherFlat prefixed same
    obtain ⟨-, otherPolicy, otherRule, otherPolicyFound, otherRuleFound, rfl⟩ :=
      eq_of_flatten_ok otherFlat
    rw [← namingPath_eq_of_sameShape prefixed same] at otherPolicyFound otherRuleFound
    cases policyFound.symm.trans otherPolicyFound
    cases ruleFound.symm.trans otherRuleFound
    exact get?_names other.leafMap policy rule

/-- A notification about one rule with a scalar, under a path that is named like a key, and with a
payload. -/
def aboutRule (text payload : String) : Notification where
  prefixPath := some { origin := "model" }
  update :=
    [{ path := some { elems := [{ name := policyNameKey }] }, val := some (.string text) },
     { path := some
        { elems :=
            [{ name := "policy-map", keys := TextMap.empty.insert "policy-name" "web" },
             { name := "rule-name", keys := TextMap.empty.insert "rule-name" "deny" }] }
       val := some (.jsonIetf payload.toUTF8.data.toList) }]

def forgedPayload : String := "\x7b\"policy_name\": null, \"rule_name\": [[\"forged\"]]\x7d"

theorem names_unforgeable_forged :
    (aboutRule "forged" forgedPayload).flatten "model" = .ok (TextMap.ofList
      [("/policy_name", "null"), ("/rule_name/0", "forged"), ("policy_name", "web"),
        ("rule_name", "deny")]) ∧
    ∀ other, (aboutRule "" "7").flatten "" = .ok other →
      other.get? "policy_name" = some "web" ∧ other.get? "rule_name" = some "deny" := by
  have flat : (aboutRule "forged" forgedPayload).flatten "model" = .ok (TextMap.ofList
      [("/policy_name", "null"), ("/rule_name/0", "forged"), ("policy_name", "web"),
        ("rule_name", "deny")]) := by decide +kernel
  refine ⟨flat, fun other otherFlat => ?_⟩
  obtain ⟨-, collected, policy, rule, -, -, -, inMap, sameNames⟩ := names_unforgeable flat
  have web : some "web" = some policy := (inMap policyNameKey policy).mpr (.inr (.inl ⟨rfl, rfl⟩))
  have deny : some "deny" = some rule := (inMap ruleNameKey rule).mpr (.inr (.inr ⟨rfl, rfl⟩))
  rw [web, deny]
  exact sameNames _ "" other otherFlat rfl (.cons ⟨rfl, rfl⟩ (.cons ⟨rfl, rfl⟩ .nil))

end Notification

end PbrTelemetry
