import PbrTelemetry.Counter
import PbrTelemetry.Proofs.Path.Canonical
import PbrTelemetry.Request

/-!
# Which rules are subscribed to

The names of a rule go into the text of its subscription path as they are, and the text is read back
into a path.  A slash or a closing bracket in a name then divides the text in another place than was
meant.  `request_intact_iff` says for which names the request has the path that was meant, and that
a rule has no say in the subscriptions of the others.

The path of a rule is canonical if and only if its names can stand in a text
(`PbrKey.isCanonical_path_iff`).  Only canonical paths are read, and the text of the subscription
spells this one.
-/

namespace PbrTelemetry

def PathSafe (name : String) : Prop := name ≠ "" ∧ '/' ∉ name.toList ∧ ']' ∉ name.toList

instance (name : String) : Decidable (PathSafe name) := inferInstanceAs (Decidable (_ ∧ _ ∧ _))

theorem pathSafe_iff_plain {name : String} :
    PathSafe name ↔ Text.Plain ['/', ']'] name.toList := by
  simp [PathSafe, Text.Plain]

def PbrKey.IsPathSafe (key : PbrKey) : Prop := PathSafe key.policy ∧ PathSafe key.rule

instance (key : PbrKey) : Decidable key.IsPathSafe := inferInstanceAs (Decidable (_ ∧ _))

/-- The path of a rule in the model of the forwarding statistics. -/
def PbrKey.path (key : PbrKey) : Path where
  elems := [
    { name := pbrOrigin ++ ":pbr-stats" },
    { name := "policy-maps" },
    { name := "policy-map", keys := TextMap.empty.insert "policy-name" key.policy },
    { name := "rule-names" },
    { name := "rule-name", keys := TextMap.empty.insert "rule-name" key.rule }]

namespace PbrKey

variable {key : PbrKey}

/-! ## The text of a subscription path -/

def rootSegment : List Char := (pbrOrigin ++ ":pbr-stats").toList

def policySegment (key : PbrKey) : List Char :=
  PathElem.keyedSegment "policy-map".toList "policy-name".toList key.policy.toList

def ruleSegment (key : PbrKey) : List Char :=
  PathElem.keyedSegment "rule-name".toList "rule-name".toList key.rule.toList

def pathBody (key : PbrKey) : List Char :=
  rootSegment ++ '/' :: ("policy-maps".toList ++ '/' :: (key.policySegment ++
    '/' :: ("rule-names".toList ++ '/' :: key.ruleSegment)))

theorem toList_subscriptionPath (key : PbrKey) :
    key.subscriptionPath.toList = key.pathBody ++ ['/'] := by
  simp [subscriptionPath, pathBody, rootSegment, policySegment, ruleSegment,
    PathElem.keyedSegment]

theorem pathBody_eq (key : PbrKey) :
    key.pathBody = ['/'].intercalate (key.path.elems.map PathElem.segment) := by
  simp [pathBody, path, rootSegment, policySegment, ruleSegment, PathElem.keyedSegment,
    PathElem.segment, PathElem.renderKey, TextMap.empty, TextMap.insert, insertEntry,
    List.intercalate_cons_cons]

/-! ## Names that can be read back -/

theorem isCanonical_keyed_iff {name label value : String}
    (named : Text.Plain ['/', '[', ']'] name.toList)
    (labelled : Text.Plain ['/', '=', ']'] label.toList) :
    PathElem.IsCanonical { name, keys := TextMap.empty.insert label value } ↔ PathSafe value := by
  rw [pathSafe_iff_plain]
  constructor
  · rintro ⟨-, -, valued⟩
    exact valued
  · intro valued
    exact ⟨named, labelled, valued⟩

theorem isCanonical_path_iff : key.path.IsCanonical ↔ key.IsPathSafe := by
  have policy : PathElem.IsCanonical
      { name := "policy-map", keys := TextMap.empty.insert "policy-name" key.policy } ↔
        PathSafe key.policy :=
    isCanonical_keyed_iff (by decide) (by decide)
  have rule : PathElem.IsCanonical
      { name := "rule-name", keys := TextMap.empty.insert "rule-name" key.rule } ↔
        PathSafe key.rule :=
    isCanonical_keyed_iff (by decide) (by decide)
  constructor
  · rintro ⟨-, -, elems⟩
    exact ⟨policy.mp (elems _ (by simp [path])), rule.mp (elems _ (by simp [path]))⟩
  · rintro ⟨policySafe, ruleSafe⟩
    refine ⟨rfl, rfl, ?_⟩
    simp only [path, List.forall_mem_cons]
    exact ⟨by decide, by decide, policy.mpr policySafe, by decide, rule.mpr ruleSafe,
      List.forall_mem_nil _⟩

theorem parse_subscriptionPath_iff :
    Path.parse key.subscriptionPath = .ok key.path ↔ key.IsPathSafe := by
  rw [← isCanonical_path_iff]
  constructor
  · exact Path.isCanonical_of_parse
  · intro canonical
    have each := Path.each_iff.mpr ⟨canonical.elems, rfl⟩
    have spells := Path.Spells.segments (.inl rfl) (.inr rfl) (List.cons_ne_nil _ _) each
    rw [Path.parse_eq_ok_iff_spells, toList_subscriptionPath, pathBody_eq]
    exact ⟨rfl, rfl, spells⟩

/-- What a subscription asks for: the path that was read, or the path without elements. -/
theorem sampled_path_eq_iff (key : PbrKey) :
    (Path.parse key.subscriptionPath).toOption.getD {} = key.path ↔ key.IsPathSafe := by
  constructor
  · intro same
    cases read : Path.parse key.subscriptionPath with
    | error error =>
      rw [read] at same
      cases same
    | ok path =>
      rw [read] at same
      cases same
      exact parse_subscriptionPath_iff.mp read
  · intro safe
    rw [parse_subscriptionPath_iff.mpr safe]
    rfl

theorem elemKey?_path (key : PbrKey) :
    key.path.elemKey? "policy-map" "policy-name" = some key.policy ∧
      key.path.elemKey? "rule-name" "rule-name" = some key.rule := by
  constructor
  · simp [Path.elemKey?, path, pbrOrigin, TextMap.get?_insert]
  · simp [Path.elemKey?, path, pbrOrigin, TextMap.get?_insert]

end PbrKey

/-! ## The request for the rules of a counter -/

/-- The subscriptions of a request are those of a list of rules: one for each rule, in their order,
sampled at the given interval, and with the path of the rule if the rule allows for it. -/
structure Subscribes (interval : UInt64) (keys : List PbrKey) (subscriptions : List Subscription) :
    Prop where
  count : subscriptions.length = keys.length
  each : ∀ (i : Nat) (key : PbrKey), keys[i]? = some key → ∃ path,
    subscriptions[i]? = some
      { path := some path, mode := SubscriptionMode.sample.number, sampleInterval := interval } ∧
    (path = key.path ↔ key.IsPathSafe)

theorem subscribes_map (interval : UInt64) (keys : List PbrKey) :
    Subscribes interval keys
      ((keys.map PbrKey.subscriptionPath).map (Subscription.sampled interval)) where
  count := by simp
  each i key get := by
    refine ⟨(Path.parse key.subscriptionPath).toOption.getD {}, ?_, key.sampled_path_eq_iff⟩
    simp [get, Subscription.sampled]

/-- The request for the rules of a counter has the path of every rule whose names can stand in the
text of a path, and of no other rule.  The names can be read off that path, and another rule in
place of one changes the subscription of that one alone. -/
theorem request_intact_iff (counter : Counter) (args : RpcArgs)
    (supported : args.encoding.isSupported = true) :
    ∃ list, args.request counter.subscriptionPaths = .ok (.subscribe list) ∧
      Subscribes args.sampleInterval counter.keys list.subscription ∧
      (∀ key : PbrKey, key.path.elemKey? "policy-map" "policy-name" = some key.policy ∧
        key.path.elemKey? "rule-name" "rule-name" = some key.rule) ∧
      (∀ (i : Nat) (other : PbrKey), ∃ changed,
        args.request { counter with keys := counter.keys.set i other }.subscriptionPaths
          = .ok (.subscribe { list with subscription := list.subscription.set i changed })) := by
  refine ⟨_, if_pos supported, subscribes_map args.sampleInterval counter.keys,
    PbrKey.elemKey?_path, ?_⟩
  intro i other
  refine ⟨Subscription.sampled args.sampleInterval other.subscriptionPath, ?_⟩
  simp only [RpcArgs.request, supported, if_true, Counter.subscriptionPaths, List.map_set]

/-- Three rules: one whose name closes its bracket early, one with names as they should be, and one
without a name. -/
def mixedRules : Counter where
  keys := [⟨"web[1]=", "drop"⟩, ⟨"a=b[", "all"⟩, ⟨"", "none"⟩]

theorem request_intact_iff_mixedRules :
    ∃ list, RpcArgs.request {} mixedRules.subscriptionPaths = .ok (.subscribe list) ∧
      list.subscription.length = 3 ∧
      (list.subscription[1]?.bind Subscription.path) = some (PbrKey.path ⟨"a=b[", "all"⟩) ∧
      (list.subscription[0]?.bind Subscription.path) ≠ some (PbrKey.path ⟨"web[1]=", "drop"⟩) := by
  obtain ⟨list, requested, subscribes, -, -⟩ := request_intact_iff mixedRules {} rfl
  refine ⟨list, requested, subscribes.count, ?_, ?_⟩
  · obtain ⟨path, get, intact⟩ := subscribes.each 1 ⟨"a=b[", "all"⟩ rfl
    rw [get, intact.mpr (by decide)]
    rfl
  · obtain ⟨path, get, intact⟩ := subscribes.each 0 ⟨"web[1]=", "drop"⟩ rfl
    have spoiled : ¬ PbrKey.IsPathSafe ⟨"web[1]=", "drop"⟩ := by decide
    rw [get]
    intro same
    exact spoiled (intact.mp (Option.some.inj same))

end PbrTelemetry
