import Mathlib.Tactic.ByContra
import Mathlib.Tactic.SplitIfs
import PbrTelemetry.Decode.Notification
import PbrTelemetry.Proofs.Decode.Leaves
import PbrTelemetry.Proofs.Text.Cut

/-!
# What comes of a notification

A notification is refused for the first of six reasons that applies to it, and otherwise it has a
flat map with both names in it (`Notification.flatten_fate`).

The names stand on the path of the last update that counts, if that has a JSON payload, and on the
prefix otherwise.  The updates are taken one after the other, so this is an invariant of taking
them, and so is that their leaves are entered in order (`Notification.foldlM_add_ok`).  One
malformed payload among them ends it with its own error (`Notification.foldlM_add_malformed`).
-/

namespace PbrTelemetry

/-! ## Keys on a path -/

namespace Path

variable {path : Path} {name key value : String}

/-- The value stands on the first element that has the given name and the key. -/
def HasFirst (path : Path) (name key value : String) : Prop :=
  ∃ before elem after, path.elems = before ++ elem :: after ∧
    elem.name = name ∧ elem.keys.get? key = some value ∧
    ∀ earlier ∈ before, earlier.name = name → earlier.keys.get? key = none

/-- No element of the given name has the key, or the first one that does has no value for it. -/
def Lacks (path : Path) (name key : String) : Prop :=
  (∀ elem ∈ path.elems, elem.name = name → elem.keys.get? key = none) ∨
    path.HasFirst name key ""

theorem elemKey?_eq (path : Path) (name key : String) :
    path.elemKey? name key
      = path.elems.findSome? fun elem => if elem.name = name then elem.keys.get? key else none := by
  rw [elemKey?]
  induction path.elems with
  | nil => rfl
  | cons elem rest ih =>
    by_cases named : elem.name = name
    · simp [named, List.findSome?_cons, ih]
    · simp [named, ih]

theorem elemKey?_eq_some_iff :
    path.elemKey? name key = some value ↔ path.HasFirst name key value := by
  rw [elemKey?_eq, List.findSome?_eq_some_iff, HasFirst]
  constructor
  · rintro ⟨before, elem, after, split, found, unfound⟩
    split_ifs at found with named
    refine ⟨before, elem, after, split, named, found, ?_⟩
    intro earlier member same
    simpa [same] using unfound earlier member
  · rintro ⟨before, elem, after, split, named, found, unfound⟩
    refine ⟨before, elem, after, split, by rw [if_pos named, found], ?_⟩
    intro earlier member
    split_ifs with same
    · exact unfound earlier member same
    · rfl

theorem elemKey?_eq_none_iff :
    path.elemKey? name key = none ↔
      ∀ elem ∈ path.elems, elem.name = name → elem.keys.get? key = none := by
  rw [elemKey?_eq, List.findSome?_eq_none_iff]
  constructor
  · intro none elem member named
    simpa [named] using none elem member
  · intro none elem member
    split_ifs with named
    · exact none elem member named
    · rfl

theorem filter_elemKey?_eq_none_iff :
    (path.elemKey? name key).filter (· ≠ "") = none ↔ path.Lacks name key := by
  rw [Lacks, ← elemKey?_eq_none_iff, ← elemKey?_eq_some_iff]
  cases path.elemKey? name key with
  | none => simp
  | some value => simp

theorem filter_elemKey?_eq_some_iff :
    (path.elemKey? name key).filter (· ≠ "") = some value ↔
      path.HasFirst name key value ∧ value ≠ "" := by
  rw [← elemKey?_eq_some_iff]
  cases path.elemKey? name key with
  | none => simp
  | some found => simp

end Path

/-! ## Updates -/

namespace Update

/-- The update has a path and a value. -/
def isComplete (update : Update) : Bool := update.path.isSome && update.val.isSome

def jsonPath? (update : Update) : Option Path :=
  match update.path, update.val with
  | some path, some (.jsonIetf _) => some path
  | _, _ => none

/-- The update has a path, and a payload that the JSON reader refuses.  That is all that is not JSON
text in UTF-8, and by the limits of the reader itself also text with arrays and objects more than
127 deep, with a number beyond the largest double, or with half of a surrogate pair. -/
def IsMalformed (update : Update) : Prop :=
  ∃ path payload, update.path = some path ∧ update.val = some (.jsonIetf payload) ∧
    Json.parseBytes? payload = none

end Update

namespace Notification

variable {collected : Collected} {update : Update} {updates : List Update}

theorem Collected.add_malformed (collected : Collected) (malformed : update.IsMalformed) :
    collected.add update = .error .syntaxFault := by
  obtain ⟨path, payload, atPath, value, unreadable⟩ := malformed
  rw [Collected.add, atPath, value]
  simp only [decodePayload, unreadable]
  rfl

/-- An update adds its leaves, and one that counts replaces what is known about the path of the
last one. -/
theorem Collected.add_ok (collected : Collected) (sound : ¬ update.IsMalformed) :
    collected.add update = .ok
      { leaves := collected.leaves.insertAll (LeafValue.entries update.decodedLeaves)
        jsonPath := if update.isComplete then update.jsonPath? else collected.jsonPath } := by
  obtain ⟨path, val, duplicates⟩ := update
  cases path with
  | none => rfl
  | some path =>
    cases val with
    | none => rfl
    | some value =>
      cases value with
      | jsonIetf payload =>
        cases parsed : Json.parseBytes? payload with
        | none => exact absurd ⟨path, payload, rfl, rfl, parsed⟩ sound
        | some tree =>
          simp only [Collected.add, decodePayload, parsed, Update.decodedLeaves,
            LeafValue.entries_pointers, Json.flatten_eq_ofList, ← TextMap.merge_ofList]
          rfl
      | _ => rfl

theorem foldlM_add_malformed (collected : Collected)
    (malformed : ∃ update ∈ updates, update.IsMalformed) :
    updates.foldlM Collected.add collected = .error .syntaxFault := by
  induction updates generalizing collected with
  | nil =>
    obtain ⟨update, member, -⟩ := malformed
    cases member
  | cons first rest ih =>
    rw [List.foldlM_cons]
    by_cases here : first.IsMalformed
    · rw [collected.add_malformed here]
      rfl
    · rw [collected.add_ok here]
      obtain ⟨update, member, unreadable⟩ := malformed
      rcases List.mem_cons.mp member with rfl | later
      · exact absurd unreadable here
      · exact ih _ ⟨update, later, unreadable⟩

/-- The invariant of taking updates: their leaves are added in their order, and what is known about
the path is known from the last update that counts, or from before if none does. -/
theorem foldlM_add_ok (collected : Collected) (sound : ∀ update ∈ updates, ¬ update.IsMalformed) :
    updates.foldlM Collected.add collected = .ok
      { leaves := collected.leaves.insertAll
          (LeafValue.entries (updates.flatMap Update.decodedLeaves))
        jsonPath :=
          match (updates.filter Update.isComplete).getLast? with
          | some last => last.jsonPath?
          | none => collected.jsonPath } := by
  induction updates generalizing collected with
  | nil => rfl
  | cons first rest ih =>
    obtain ⟨here, later⟩ := List.forall_mem_cons.mp sound
    rw [List.foldlM_cons, collected.add_ok here]
    refine (ih _ later).trans ?_
    rw [List.flatMap_cons, LeafValue.entries_append, TextMap.insertAll_append]
    -- What the first update says about the path stands until a later one counts
    cases complete : first.isComplete with
    | false => simp [complete]
    | true =>
      cases last : (rest.filter Update.isComplete).getLast? with
      | none => simp [complete, List.getLast?_cons, last]
      | some update => simp [complete, List.getLast?_cons, last]

/-! ## Notifications -/

/-- The path on which the names have to stand: that of the last update with a path and a value if
it has a JSON payload, and the prefix otherwise. -/
def namingPath (notification : Notification) : Path :=
  let last := (notification.update.filter Update.isComplete).getLast?
  (last.bind Update.jsonPath?).getD (notification.prefixPath.getD {})

def IsPrefixed (notification : Notification) : Prop :=
  ∃ path ∈ notification.prefixPath, path.origin ≠ ""

/-- The origin of the prefix contains the expected one. -/
def IsOwn (notification : Notification) (origin : String) : Prop :=
  ∃ path ∈ notification.prefixPath, path.origin ≠ "" ∧ origin.toList <:+: path.origin.toList

/-- The origin of the prefix does not contain the expected one, for which these are the words. -/
def IsForeign (notification : Notification) (origin reason : String) : Prop :=
  ∃ path ∈ notification.prefixPath, path.origin ≠ "" ∧ ¬ origin.toList <:+: path.origin.toList ∧
    reason = "unexpected prefix origin '" ++ path.origin ++ "'"

/-- An update has a path, and a payload that the JSON reader refuses. -/
def IsMalformed (notification : Notification) : Prop :=
  ∃ update ∈ notification.update, update.IsMalformed

/-- There is an update, and none has a payload that the JSON reader refuses. -/
def IsReadable (notification : Notification) : Prop :=
  notification.update ≠ [] ∧ ¬ notification.IsMalformed

def LacksPolicy (notification : Notification) : Prop :=
  notification.namingPath.Lacks "policy-map" "policy-name"

def LacksRule (notification : Notification) : Prop :=
  notification.namingPath.Lacks "rule-name" "rule-name"

variable {notification : Notification} {origin : String}

theorem IsOwn.isPrefixed (own : notification.IsOwn origin) : notification.IsPrefixed := by
  obtain ⟨path, prefixed, filled, -⟩ := own
  exact ⟨path, prefixed, filled⟩

theorem IsOwn.not_isForeign (own : notification.IsOwn origin) (reason : String) :
    ¬ notification.IsForeign origin reason := by
  rintro ⟨path, here, -, foreign, -⟩
  obtain ⟨other, there, -, occurs⟩ := own
  cases here.symm.trans there
  exact foreign occurs

theorem IsForeign.isPrefixed {reason : String} (foreign : notification.IsForeign origin reason) :
    notification.IsPrefixed := by
  obtain ⟨path, prefixed, filled, -⟩ := foreign
  exact ⟨path, prefixed, filled⟩

theorem IsMalformed.update_ne_nil (malformed : notification.IsMalformed) :
    notification.update ≠ [] := by
  obtain ⟨update, member, -⟩ := malformed
  exact List.ne_nil_of_mem member

/-! ## One reason at a time -/

theorem checkedPrefix_of_isOwn (own : notification.IsOwn origin) :
    notification.checkedPrefix origin = .ok (notification.prefixPath.getD {}) := by
  obtain ⟨path, prefixed, filled, occurs⟩ := own
  rw [Option.mem_def] at prefixed
  rw [checkedPrefix, prefixed]
  simp only [filled, if_false, Text.occursIn_iff.mpr occurs, if_true, Option.getD_some]

theorem flatten_of_not_isPrefixed (bare : ¬ notification.IsPrefixed) :
    notification.flatten origin = .error .noPrefix := by
  have checked : notification.checkedPrefix origin = .error .noPrefix := by
    rw [checkedPrefix]
    cases prefixed : notification.prefixPath with
    | none => rfl
    | some path =>
      have empty : path.origin = "" := by
        by_contra filled
        exact bare ⟨path, prefixed, filled⟩
      simp only [empty, if_true]
  rw [flatten, checked]
  rfl

/-- A prefix with another origin is refused in words that name its own. -/
theorem exists_flatten_of_foreign (prefixed : notification.IsPrefixed)
    (foreign : ¬ notification.IsOwn origin) :
    ∃ words, notification.flatten origin = .error (.unexpected words) ∧
      ∀ reason, notification.IsForeign origin reason ↔ words = reason := by
  obtain ⟨path, prefixed, filled⟩ := prefixed
  have apart : ¬ origin.toList <:+: path.origin.toList :=
    fun occurs => foreign ⟨path, prefixed, filled, occurs⟩
  refine ⟨"unexpected prefix origin '" ++ path.origin ++ "'", ?_, ?_⟩
  · rw [Option.mem_def] at prefixed
    rw [flatten, checkedPrefix, prefixed]
    simp only [filled, if_false, Text.occursIn_iff, apart]
    rfl
  · intro reason
    constructor
    · rintro ⟨other, there, -, -, rfl⟩
      cases prefixed.symm.trans there
      rfl
    · rintro rfl
      exact ⟨path, prefixed, filled, apart, rfl⟩

theorem flatten_of_no_update (own : notification.IsOwn origin) (empty : notification.update = []) :
    notification.flatten origin = .error .noUpdate := by
  rw [flatten, checkedPrefix_of_isOwn own, empty]
  rfl

theorem flatten_of_isMalformed (own : notification.IsOwn origin)
    (malformed : notification.IsMalformed) :
    notification.flatten origin = .error .syntaxFault := by
  have occupied := List.isEmpty_eq_false_iff.mpr malformed.update_ne_nil
  rw [flatten, checkedPrefix_of_isOwn own]
  simp only [occupied, collect, foldlM_add_malformed {} malformed]
  rfl

def leafMap (notification : Notification) : FlatMap :=
  TextMap.ofList (LeafValue.entries notification.decodedLeaves)

theorem collect_of_isReadable (readable : notification.IsReadable) :
    collect notification.update = .ok
      { leaves := notification.leafMap
        jsonPath := (notification.update.filter Update.isComplete).getLast?.bind
          Update.jsonPath? } := by
  have sound : ∀ update ∈ notification.update, ¬ update.IsMalformed :=
    fun update member bad => readable.2 ⟨update, member, bad⟩
  refine (foldlM_add_ok {} sound).trans ?_
  cases (notification.update.filter Update.isComplete).getLast? with
  | none => rfl
  | some last => rfl

/-- A readable notification comes to what the path with the names comes to. -/
theorem flatten_of_isReadable (own : notification.IsOwn origin)
    (readable : notification.IsReadable) :
    notification.flatten origin =
      match notification.namingPath.policyName?, notification.namingPath.ruleName? with
      | none, _ => .error .noPolicyName
      | some _, none => .error .noRuleName
      | some policy, some rule =>
        .ok ((notification.leafMap.insert policyNameKey policy).insert ruleNameKey rule) := by
  have occupied := List.isEmpty_eq_false_iff.mpr readable.1
  rw [flatten, checkedPrefix_of_isOwn own]
  simp only [occupied, collect_of_isReadable readable, bind, Except.bind, Bool.false_eq_true,
    if_false]
  rw [← namingPath]
  cases notification.namingPath.policyName? with
  | none => rfl
  | some policy =>
    cases notification.namingPath.ruleName? with
    | none => rfl
    | some rule => rfl

theorem policyName?_eq_none_iff :
    notification.namingPath.policyName? = none ↔ notification.LacksPolicy :=
  Path.filter_elemKey?_eq_none_iff

theorem ruleName?_eq_none_iff :
    notification.namingPath.ruleName? = none ↔ notification.LacksRule :=
  Path.filter_elemKey?_eq_none_iff

theorem get?_names (leaves : FlatMap) (policy rule : String) :
    ((leaves.insert policyNameKey policy).insert ruleNameKey rule).get? "policy_name"
      = some policy ∧
    ((leaves.insert policyNameKey policy).insert ruleNameKey rule).get? "rule_name"
      = some rule := by
  constructor
  · simp [TextMap.get?_insert, policyNameKey, ruleNameKey]
  · simp [TextMap.get?_insert, ruleNameKey]

/-! ## All reasons -/

/-- What a notification comes to, and exactly when. -/
structure Fate (notification : Notification) (origin : String) : Prop where
  noPrefix : notification.flatten origin = .error .noPrefix ↔ ¬ notification.IsPrefixed
  unexpected : ∀ reason, notification.flatten origin = .error (.unexpected reason) ↔
    notification.IsForeign origin reason
  noUpdate : notification.flatten origin = .error .noUpdate ↔
    notification.IsOwn origin ∧ notification.update = []
  syntaxFault : notification.flatten origin = .error .syntaxFault ↔
    notification.IsOwn origin ∧ notification.IsMalformed
  noPolicyName : notification.flatten origin = .error .noPolicyName ↔
    notification.IsOwn origin ∧ notification.IsReadable ∧ notification.LacksPolicy
  noRuleName : notification.flatten origin = .error .noRuleName ↔
    notification.IsOwn origin ∧ notification.IsReadable ∧ ¬ notification.LacksPolicy ∧
      notification.LacksRule
  ok : (∃ map, notification.flatten origin = .ok map) ↔
    notification.IsOwn origin ∧ notification.IsReadable ∧ ¬ notification.LacksPolicy ∧
      ¬ notification.LacksRule
  names : ∀ map, notification.flatten origin = .ok map → ∃ policy rule,
    notification.namingPath.HasFirst "policy-map" "policy-name" policy ∧ policy ≠ "" ∧
      notification.namingPath.HasFirst "rule-name" "rule-name" rule ∧ rule ≠ "" ∧
      map.get? "policy_name" = some policy ∧ map.get? "rule_name" = some rule

theorem fate_of_isReadable (own : notification.IsOwn origin)
    (readable : notification.IsReadable) : notification.Fate origin := by
  have prefixed := own.isPrefixed
  have noForeign := own.not_isForeign
  have sound := readable.2
  have updated := readable.1
  have outcome := flatten_of_isReadable own readable
  cases policyFound : notification.namingPath.policyName? with
  | none =>
    have lacking := policyName?_eq_none_iff.mp policyFound
    simp only [policyFound] at outcome
    constructor <;> simp [outcome, prefixed, noForeign, own, sound, updated, readable, lacking]
  | some policy =>
    have policyGiven : ¬ notification.LacksPolicy := by
      simp [← policyName?_eq_none_iff, policyFound]
    cases ruleFound : notification.namingPath.ruleName? with
    | none =>
      have lacking := ruleName?_eq_none_iff.mp ruleFound
      simp only [policyFound, ruleFound] at outcome
      constructor <;>
        simp [outcome, prefixed, noForeign, own, sound, updated, readable, policyGiven, lacking]
    | some rule =>
      have ruleGiven : ¬ notification.LacksRule := by
        simp [← ruleName?_eq_none_iff, ruleFound]
      simp only [policyFound, ruleFound] at outcome
      have names : ∀ map, notification.flatten origin = .ok map → ∃ policy rule,
          notification.namingPath.HasFirst "policy-map" "policy-name" policy ∧ policy ≠ "" ∧
            notification.namingPath.HasFirst "rule-name" "rule-name" rule ∧ rule ≠ "" ∧
            map.get? "policy_name" = some policy ∧ map.get? "rule_name" = some rule := by
        intro map flat
        cases outcome.symm.trans flat
        obtain ⟨policyFirst, policyFilled⟩ := Path.filter_elemKey?_eq_some_iff.mp policyFound
        obtain ⟨ruleFirst, ruleFilled⟩ := Path.filter_elemKey?_eq_some_iff.mp ruleFound
        exact ⟨policy, rule, policyFirst, policyFilled, ruleFirst, ruleFilled,
          get?_names notification.leafMap policy rule⟩
      constructor
      case names => exact names
      all_goals
        simp [outcome, prefixed, noForeign, own, sound, updated, readable, policyGiven, ruleGiven]

/-- Every notification is refused for the first reason that applies to it, and if none does it has
a map with both names. -/
theorem flatten_fate (notification : Notification) (origin : String) :
    notification.Fate origin := by
  by_cases own : notification.IsOwn origin
  · have prefixed := own.isPrefixed
    have noForeign := own.not_isForeign
    by_cases malformed : notification.IsMalformed
    · have outcome := flatten_of_isMalformed own malformed
      constructor <;> simp [outcome, prefixed, noForeign, own, malformed, IsReadable,
        malformed.update_ne_nil]
    · by_cases empty : notification.update = []
      · have outcome := flatten_of_no_update own empty
        constructor <;> simp [outcome, prefixed, noForeign, own, malformed, IsReadable, empty]
      · exact fate_of_isReadable own ⟨empty, malformed⟩
  · by_cases prefixed : notification.IsPrefixed
    · obtain ⟨words, outcome, exactly⟩ := exists_flatten_of_foreign prefixed own
      constructor <;> simp [outcome, prefixed, own, exactly]
    · have outcome : notification.flatten origin = .error .noPrefix :=
        flatten_of_not_isPrefixed prefixed
      have noForeign : ∀ reason, ¬ notification.IsForeign origin reason :=
        fun reason foreign => prefixed foreign.isPrefixed
      constructor <;> simp [outcome, prefixed, own, noForeign]

/-- A notification with a flat map has all its leaves in it, and over them the two names. -/
theorem eq_of_flatten_ok {map : FlatMap} (flat : notification.flatten origin = .ok map) :
    notification.IsReadable ∧ ∃ policy rule, notification.namingPath.policyName? = some policy ∧
      notification.namingPath.ruleName? = some rule ∧
      map = (notification.leafMap.insert policyNameKey policy).insert ruleNameKey rule := by
  obtain ⟨own, readable, -, -⟩ := (flatten_fate notification origin).ok.mp ⟨map, flat⟩
  have outcome := (flatten_of_isReadable own readable).symm.trans flat
  refine ⟨readable, ?_⟩
  cases policyFound : notification.namingPath.policyName? with
  | none => simp [policyFound] at outcome
  | some policy =>
    cases ruleFound : notification.namingPath.ruleName? with
    | none => simp [policyFound, ruleFound] at outcome
    | some rule =>
      simp only [policyFound, ruleFound, Except.ok.injEq] at outcome
      exact ⟨policy, rule, rfl, rfl, outcome.symm⟩

end Notification

end PbrTelemetry
