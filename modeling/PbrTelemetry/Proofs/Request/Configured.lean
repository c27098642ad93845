import PbrTelemetry.Config
import PbrTelemetry.Proofs.Request.Subscriptions
import PbrTelemetry.Proofs.TextMap.Lookup

/-!
# What a configuration subscribes to

A configuration that passes its check names an encoding that can be asked for, and rules with names
that are not empty.  The check does not look into the names, and the text of a subscription path
takes them as they are.
-/

namespace PbrTelemetry

/-! ## Letters of either case -/

namespace Text

theorem val_toLower (c : Char) :
    c.toLower.val = if 65 ≤ c.val ∧ c.val ≤ 90 then c.val + 32 else c.val :=
  apply_dite Char.val _ _ _

/-- To subtract 32 is to add what completes it to the size of a word. -/
theorem val_toUpper (c : Char) :
    c.toUpper.val = if 97 ≤ c.val ∧ c.val ≤ 122 then c.val + 4294967264 else c.val :=
  apply_dite Char.val _ _ _

theorem toUpper_toLower (c : Char) : c.toLower.toUpper = c.toUpper := by
  apply Char.ext
  rw [val_toUpper, val_toLower, val_toUpper]
  grind

theorem toLower_toUpper (c : Char) : c.toUpper.toLower = c.toLower := by
  apply Char.ext
  rw [val_toLower, val_toUpper, val_toLower]
  grind

end Text

/-! ## Names of encodings -/

namespace Encoding

variable {text : String} {encoding : Encoding}

/-- The text is the name of the encoding, in letters of either case. -/
def NamedBy (encoding : Encoding) (text : String) : Prop :=
  text.toList.map Char.toLower = encoding.name.toList.map Char.toLower

theorem ofName?_eq_some_iff : ofName? text = some encoding ↔ encoding.name = text := by
  constructor
  · intro found
    simpa using List.find?_some found
  · rintro rfl
    cases encoding <;> rfl

theorem upper_name (encoding : Encoding) :
    encoding.name.toList.map Char.toUpper = encoding.name.toList := by
  cases encoding <;> decide

theorem ofText?_eq_some_iff : ofText? text = some encoding ↔ encoding.NamedBy text := by
  rw [ofText?, ofName?_eq_some_iff, NamedBy]
  constructor
  · intro same
    simp only [same, String.toList_ofList, List.map_map, Function.comp_def, Text.toLower_toUpper]
  · intro same
    have upper := congrArg (List.map Char.toUpper) same
    simp only [List.map_map, Function.comp_def, Text.toUpper_toLower, upper_name] at upper
    rw [upper, String.ofList_toList]

end Encoding

/-! ## Configurations that pass -/

namespace TelemetryConfig

structure IsValid (config : TelemetryConfig) : Prop where
  address : config.connection.serverAddress ≠ ""
  certificate : config.connection.tls = true → config.connection.rootCertPath.isSome
  interval : config.subscription.sampleInterval ≠ 0
  encoding : ∃ encoding : Encoding, encoding.NamedBy config.subscription.encoding ∧
    encoding.isSupported = true
  policies : ∀ key ∈ config.policies, key.policy ≠ "" ∧ key.rule ≠ ""

variable {config : TelemetryConfig}

theorem isUsableEncoding_iff {name : String} :
    isUsableEncoding name = true ↔
      ∃ encoding : Encoding, encoding.NamedBy name ∧ encoding.isSupported = true := by
  simp only [← Encoding.ofText?_eq_some_iff, isUsableEncoding]
  cases Encoding.ofText? name with
  | none => simp
  | some encoding => simp

theorem validate_eq_ok_iff : config.validate = .ok () ↔ config.IsValid := by
  have passes : config.validate = .ok () ↔ config.fault? = none := by
    rw [validate]
    cases config.fault? <;> simp
  rw [passes, fault?]
  constructor
  · intro passed
    split_ifs at passed with address certificate interval encoding
    have complete : ∀ key ∈ config.policies, isIncomplete key = false := by
      simpa using passed
    refine ⟨address, ?_, interval, ?_, ?_⟩
    · intro tls
      by_contra absent
      exact certificate ⟨tls, by simpa using absent⟩
    · exact isUsableEncoding_iff.mp (by simpa using encoding)
    · intro key member
      simpa [isIncomplete] using complete key member
  · rintro ⟨address, certificate, interval, encoding, policies⟩
    have certified :
        ¬ (config.connection.tls = true ∧ config.connection.rootCertPath.isNone = true) := by
      rintro ⟨tls, absent⟩
      have present := certificate tls
      rw [Option.isNone_iff_eq_none.mp absent] at present
      cases present
    have complete : config.policies.find? isIncomplete = none := by
      simpa [isIncomplete] using policies
    rw [if_neg address, if_neg certified, if_neg interval, isUsableEncoding_iff.mpr encoding,
      complete]
    rfl

end TelemetryConfig

/-! ## Names in a path -/

variable {path : Path} {key : PbrKey} {value : String}

theorem PathElem.IsCanonical.pathSafe {elem : PathElem} {label : String}
    (canonical : elem.IsCanonical) (found : elem.keys.get? label = some value) :
    PathSafe value := by
  obtain ⟨name, ⟨entries, ascending⟩⟩ := elem
  have member : (label, value) ∈ entries := mem_of_findEntry found
  cases entries with
  | nil => cases member
  | cons entry rest =>
    cases rest with
    | nil =>
      obtain ⟨-, -, valued⟩ := canonical
      cases List.mem_singleton.mp member
      exact pathSafe_iff_plain.mpr valued
    | cons _ _ => exact canonical.elim

/-- No other values than those that the grammar allows for are found in a path that was read. -/
theorem Path.IsCanonical.pathSafe {name label : String} (canonical : path.IsCanonical)
    (found : path.elemKey? name label = some value) : PathSafe value := by
  obtain ⟨elem, member, get⟩ := List.exists_of_findSome?_eq_some found
  have within := (List.mem_filter.mp member).1
  exact (canonical.elems elem within).pathSafe get

/-- The names of the rule can be read off the path. -/
def Path.Yields (path : Path) (key : PbrKey) : Prop :=
  path.elemKey? "policy-map" "policy-name" = some key.policy ∧
    path.elemKey? "rule-name" "rule-name" = some key.rule

instance (path : Path) (key : PbrKey) : Decidable (path.Yields key) :=
  inferInstanceAs (Decidable (_ ∧ _))

theorem Path.Yields.elems_ne_nil (names : path.Yields key) : path.elems ≠ [] := by
  obtain ⟨origin, elems, target⟩ := path
  rintro rfl
  cases names.1

theorem sampled_yields_iff (key : PbrKey) :
    ((Path.parse key.subscriptionPath).toOption.getD {}).Yields key ↔ key.IsPathSafe := by
  constructor
  · rintro ⟨policy, rule⟩
    cases read : Path.parse key.subscriptionPath with
    | error error =>
      rw [read] at policy
      cases policy
    | ok path =>
      rw [read] at policy rule
      -- A name with a mark in it may still be read as some path, but not as a value of it
      have canonical := Path.isCanonical_of_parse read
      exact ⟨canonical.pathSafe policy, canonical.pathSafe rule⟩
  · intro safe
    rw [PbrKey.parse_subscriptionPath_iff.mpr safe]
    exact key.elemKey?_path

def PbrKey.IsUnmarked (key : PbrKey) : Prop :=
  ∀ name ∈ [key.policy, key.rule], '/' ∉ name.toList ∧ ']' ∉ name.toList

theorem PbrKey.isPathSafe_iff_isUnmarked (named : key.policy ≠ "" ∧ key.rule ≠ "") :
    key.IsPathSafe ↔ key.IsUnmarked := by
  simp only [IsPathSafe, PathSafe, IsUnmarked]
  grind

/-- A configuration that passes its check subscribes to what it names: in the encoding of that
name, and with one subscription for each of its rules.  The names of a rule can be read off the path
of its subscription unless they hold a slash or a closing bracket, which the check lets pass. -/
theorem TelemetryConfig.subscribes_to_policies {config : TelemetryConfig}
    (accepted : config.validate = .ok ()) :
    ∃ list encoding,
      config.rpcArgs.request (Counter.subscriptionPaths { keys := config.policies })
        = .ok (.subscribe list) ∧
      Encoding.NamedBy encoding config.subscription.encoding ∧ list.encoding = encoding.number ∧
      list.subscription.length = config.policies.length ∧
      ∀ (i : Nat) (key : PbrKey), config.policies[i]? = some key →
        ∃ subscription path, list.subscription[i]? = some subscription ∧
          subscription.path = some path ∧ (path.Yields key ↔ key.IsUnmarked) ∧
          (key.IsUnmarked → path.elems ≠ []) := by
  have valid := TelemetryConfig.validate_eq_ok_iff.mp accepted
  obtain ⟨encoding, named, supported⟩ := valid.encoding
  have chosen : config.rpcArgs.encoding = encoding := by
    rw [rpcArgs, Encoding.ofText?_eq_some_iff.mpr named]
    rfl
  refine ⟨_, encoding, if_pos (by rw [chosen, supported]), named, by rw [chosen], ?_, ?_⟩
  · simp [Counter.subscriptionPaths]
  · intro i key get
    have complete := valid.policies key (List.mem_of_getElem? get)
    have names := (sampled_yields_iff key).trans (PbrKey.isPathSafe_iff_isUnmarked complete)
    refine ⟨Subscription.sampled config.rpcArgs.sampleInterval key.subscriptionPath, _, ?_, rfl,
      names, fun unmarked => (names.mpr unmarked).elems_ne_nil⟩
    simp [Counter.subscriptionPaths, get]

/-- A configuration that names an encoding in mixed case, and two rules of which the second one has
a slash in the name of its policy. -/
def mixedConfig : TelemetryConfig where
  subscription := { encoding := "Json_Ietf" }
  policies := [⟨"web", "drop"⟩, ⟨"a/b", "R"⟩]

theorem TelemetryConfig.subscribes_to_policies_mixedConfig :
    mixedConfig.validate = .ok () ∧
      ∃ list first path,
        mixedConfig.rpcArgs.request (Counter.subscriptionPaths { keys := mixedConfig.policies })
          = .ok (.subscribe list) ∧ list.encoding = Encoding.jsonIetf.number ∧
        list.subscription.length = 2 ∧
        list.subscription[0]? = some first ∧ first.path = some path ∧
        path.elemKey? "policy-map" "policy-name" = some "web" := by
  have accepted : mixedConfig.validate = .ok () := by
    decide +kernel
  obtain ⟨list, encoding, requested, named, encoded, count, each⟩ :=
    TelemetryConfig.subscribes_to_policies accepted
  have chosen : some encoding = some .jsonIetf :=
    (Encoding.ofText?_eq_some_iff.mpr named).symm.trans (by decide +kernel)
  cases chosen
  obtain ⟨first, path, get, asked, names, -⟩ := each 0 ⟨"web", "drop"⟩ rfl
  have unmarked : PbrKey.IsUnmarked ⟨"web", "drop"⟩ := by
    simp [PbrKey.IsUnmarked]
  exact ⟨accepted, list, first, path, requested, encoded, count, get, asked,
    (names.mpr unmarked).1⟩

/-- The check lets the second rule pass, and the path that is asked for is the empty one. -/
theorem TelemetryConfig.slashed_policy_lost :
    mixedConfig.validate = .ok () ∧
      ∃ list second,
        mixedConfig.rpcArgs.request (Counter.subscriptionPaths { keys := mixedConfig.policies })
          = .ok (.subscribe list) ∧
        list.subscription[1]? = some second ∧ second.path = some ({} : Path) ∧
        ¬ Path.Yields {} ⟨"a/b", "R"⟩ := by
  have spoiled : Path.parse (PbrKey.subscriptionPath ⟨"a/b", "R"⟩)
      = .error ⟨PbrKey.subscriptionPath ⟨"a/b", "R"⟩, .missingClosingBracket⟩ := by
    decide +kernel
  refine ⟨by decide +kernel, _, Subscription.sampled defaultSampleInterval
    (PbrKey.subscriptionPath ⟨"a/b", "R"⟩), rfl, rfl, ?_, by decide +kernel⟩
  rw [Subscription.sampled, spoiled]
  rfl

end PbrTelemetry
