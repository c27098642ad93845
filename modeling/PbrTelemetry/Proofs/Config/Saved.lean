import PbrTelemetry.Config.File
import PbrTelemetry.Proofs.Text.Utf8
import PbrTelemetry.Proofs.Toml.Line
import PbrTelemetry.Proofs.Toml.Tree

/-!
# Saved configurations

A configuration that is saved comes back as it was, with the options that are not set and with any
text in it, and one with a number that cannot be written leaves the file as it was
(`saved_and_loaded`).

The text that is written reads as lines (`reads_render`), the lines add up to a tree of entries
(`tree?_lines`), and the entries are the settings of the configuration
(`telemetryConfig?_entries`).
-/

namespace PbrTelemetry.TelemetryConfig

open Toml

/-! ## Entries -/

def optionEntry {α : Type} (name : String) (node : α → Node) (value : Option α) : Entries :=
  value.toList.map fun value => (name, node value)

def connectionEntries (connection : ChannelArgs) : Entries :=
  [("server_address", .string connection.serverAddress), ("tls", .boolean connection.tls)]
    ++ optionEntry "root_cert_path" .string connection.rootCertPath
    ++ optionEntry "private_key_path" .string connection.privateKeyPath
    ++ optionEntry "cert_chain_path" .string connection.certChainPath

def subscriptionEntries (subscription : SubscriptionConfig) : Entries :=
  [("sample_interval_nsec", .integer subscription.sampleInterval.toNat),
    ("encoding", .string subscription.encoding), ("mode", .string subscription.mode.name)]
    ++ optionEntry "timeout_secs" (fun n : UInt64 => .integer n.toNat) subscription.timeoutSecs
    ++ [("connect_retries", .integer subscription.connectRetries.toNat),
      ("retry_interval_secs", .integer subscription.retryIntervalSecs.toNat)]

def policyEntries (key : PbrKey) : Entries :=
  [("policy", .string key.policy), ("rule", .string key.rule)]

def rootEntries (config : TelemetryConfig) : Entries :=
  if config.policies = [] then [("policies", .array [])] else []

def entries (config : TelemetryConfig) : Entries :=
  config.rootEntries
    ++ [("connection", .table .header (connectionEntries config.connection)),
      ("subscription", .table .header (subscriptionEntries config.subscription))]
    ++ if config.policies.map policyEntries = [] then []
      else [("policies", .tables (config.policies.map policyEntries))]

/-! ## Lines -/

def lines (config : TelemetryConfig) : List Line :=
  pairLines config.rootEntries
    ++ (tableLines "connection" (connectionEntries config.connection)
    ++ (tableLines "subscription" (subscriptionEntries config.subscription)
    ++ elementLines "policies" (config.policies.map policyEntries)))

theorem reads_option {α : Type} {name : String} {node : α → Node} {render : α → List Char}
    {value : Option α} (reads : ∀ v ∈ value, Reads (render v) [.pair ⟨[], name⟩ (node v)]) :
    Reads (renderOption render value) (pairLines (optionEntry name node value)) := by
  cases value with
  | none => exact .nil
  | some value => exact reads value rfl

theorem reads_text (name : String) (bare : IsBareName name) (text : String) :
    Reads (renderTextPair name text) [.pair ⟨[], name⟩ (.string text)] :=
  reads_pair bare (isValue_renderText text)

theorem reads_number (name : String) (bare : IsBareName name) {n : Nat} (fits : n < 2 ^ 63) :
    Reads (renderNaturalPair name n) [.pair ⟨[], name⟩ (.integer n)] :=
  reads_pair bare (isValue_toDigits fits)

theorem reads_connection (connection : ChannelArgs) :
    Reads (renderConnection connection)
      (tableLines "connection" (connectionEntries connection)) := by
  have header : Reads (renderHeader "connection") _ := reads_header (by decide)
  have address := reads_text "server_address" (by decide) connection.serverAddress
  have tls : Reads (renderFlagPair "tls" connection.tls) _ :=
    reads_pair (by decide) (isValue_flag connection.tls)
  have optional (name : String) (bare : IsBareName name) (path : Option String) :
      Reads (renderOption (renderTextPair name) path)
        (pairLines (optionEntry name .string path)) :=
    reads_option fun path _ => reads_text name bare path
  have rootCert := optional "root_cert_path" (by decide) connection.rootCertPath
  have privateKey := optional "private_key_path" (by decide) connection.privateKeyPath
  have certChain := optional "cert_chain_path" (by decide) connection.certChainPath
  have all := ((((header.append address).append tls).append rootCert).append privateKey).append
    certChain
  simpa [renderConnection, tableLines, connectionEntries, pairLines] using all

/-- Every number fits 64 bits with a sign, as written numbers must. -/
structure Fits (config : TelemetryConfig) : Prop where
  sampleInterval : config.subscription.sampleInterval.toNat ≤ 2 ^ 63 - 1
  timeoutSecs : ∀ n ∈ config.subscription.timeoutSecs, n.toNat ≤ 2 ^ 63 - 1
  connectRetries : config.subscription.connectRetries.toNat ≤ 2 ^ 63 - 1
  retryIntervalSecs : config.subscription.retryIntervalSecs.toNat ≤ 2 ^ 63 - 1

variable {config : TelemetryConfig}

theorem isWritable_iff : config.isWritable = true ↔ config.Fits := by
  have retries := config.subscription.connectRetries.toNat_lt
  simp only [isWritable, decide_eq_true_eq, Option.all_eq_true]
  constructor
  · rintro ⟨sampleInterval, retryInterval, timeout⟩
    exact ⟨Nat.le_pred_of_lt sampleInterval, fun n set => Nat.le_pred_of_lt (timeout n set),
      by omega, Nat.le_pred_of_lt retryInterval⟩
  · intro fits
    exact ⟨Nat.lt_of_le_pred (by decide) fits.sampleInterval,
      Nat.lt_of_le_pred (by decide) fits.retryIntervalSecs,
      fun n set => Nat.lt_of_le_pred (by decide) (fits.timeoutSecs n set)⟩

theorem reads_subscription (fits : config.Fits) :
    Reads (renderSubscription config.subscription)
      (tableLines "subscription" (subscriptionEntries config.subscription)) := by
  have written {n : Nat} (small : n ≤ 2 ^ 63 - 1) : n < 2 ^ 63 :=
    Nat.lt_of_le_pred (by decide) small
  have header : Reads (renderHeader "subscription") _ := reads_header (by decide)
  have interval := reads_number "sample_interval_nsec" (by decide) (written fits.sampleInterval)
  have encoding := reads_text "encoding" (by decide) config.subscription.encoding
  have mode := reads_text "mode" (by decide) config.subscription.mode.name
  have timeout : Reads (renderOption (fun n : UInt64 => renderNaturalPair "timeout_secs" n.toNat)
      config.subscription.timeoutSecs)
      (pairLines (optionEntry "timeout_secs" (fun n : UInt64 => .integer n.toNat)
        config.subscription.timeoutSecs)) :=
    reads_option fun n set =>
      reads_number "timeout_secs" (by decide) (written (fits.timeoutSecs n set))
  have retries := reads_number "connect_retries" (by decide) (written fits.connectRetries)
  have retryInterval :=
    reads_number "retry_interval_secs" (by decide) (written fits.retryIntervalSecs)
  have all := (((((header.append interval).append encoding).append mode).append timeout).append
    retries).append retryInterval
  simpa [renderSubscription, tableLines, subscriptionEntries, pairLines] using all

theorem reads_policies (policies : List PbrKey) :
    Reads (policies.flatMap renderPolicy)
      (elementLines "policies" (policies.map policyEntries)) := by
  induction policies with
  | nil => exact .nil
  | cons key policies ih =>
    have header : Reads (renderElementHeader "policies") _ := reads_element (by decide)
    have policy := reads_text "policy" (by decide) key.policy
    have rule := reads_text "rule" (by decide) key.rule
    have all := (((reads_blank.append header).append policy).append rule).append ih
    simpa [renderPolicy, elementLines, policyEntries, pairLines] using all

theorem reads_render (fits : config.Fits) : Reads config.render config.lines := by
  have root : Reads (if config.policies.isEmpty then renderPair "policies" ['[', ']'] ++ ['\n']
      else []) (pairLines config.rootEntries) := by
    cases empty : config.policies with
    | nil =>
      have list : Reads (renderPair "policies" ['[', ']']) _ :=
        reads_pair (by decide) isValue_emptyArray
      simpa [rootEntries, empty, pairLines] using list.append reads_blank
    | cons key policies => simpa [rootEntries, empty, pairLines] using Reads.nil
  have all := (((root.append (reads_connection config.connection)).append reads_blank).append
    (reads_subscription fits)).append (reads_policies config.policies)
  simpa [render, lines] using all

/-! ## The tree -/

theorem names_optionEntry {α : Type} (name : String) (node : α → Node) (value : Option α) :
    (names (optionEntry name node value)).Sublist [name] := by
  cases value with
  | none => exact List.nil_sublist _
  | some value => exact List.Sublist.refl _

theorem nodup_connectionEntries (connection : ChannelArgs) :
    (names (connectionEntries connection)).Nodup := by
  have all : (names (connectionEntries connection)).Sublist Setting.connectionFields := by
    simp only [connectionEntries, names, List.map_append]
    exact (((List.Sublist.refl _).append (names_optionEntry _ _ _)).append
      (names_optionEntry _ _ _)).append (names_optionEntry _ _ _)
  exact all.nodup (by decide)

theorem nodup_subscriptionEntries (subscription : SubscriptionConfig) :
    (names (subscriptionEntries subscription)).Nodup := by
  have all : (names (subscriptionEntries subscription)).Sublist Setting.subscriptionFields := by
    simp only [subscriptionEntries, names, List.map_append]
    exact ((List.Sublist.refl _).append (names_optionEntry _ _ _)).append (List.Sublist.refl _)
  exact all.nodup (by decide)

theorem blocks_lines (config : TelemetryConfig) :
    blocks config.lines = (undotted config.rootEntries,
      ⟨.table ⟨[], "connection"⟩, undotted (connectionEntries config.connection)⟩ ::
      ⟨.table ⟨[], "subscription"⟩, undotted (subscriptionEntries config.subscription)⟩ ::
      (config.policies.map policyEntries).map (elementBlock "policies")) := by
  have elements : blocks (elementLines "policies" (config.policies.map policyEntries)) = _ :=
    blocks_elementLines
  have subscription : blocks (tableLines "subscription" (subscriptionEntries config.subscription)
      ++ elementLines "policies" (config.policies.map policyEntries)) = _ :=
    blocks_tableLines (congrArg Prod.fst elements)
  rw [lines, blocks_pairLines, blocks_tableLines (congrArg Prod.fst subscription), subscription,
    elements, List.append_nil]

theorem tree?_lines (config : TelemetryConfig) :
    tree? (blocks config.lines).1 (blocks config.lines).2 = some config.entries := by
  have root : assignAll (undotted config.rootEntries) [] = some config.rootEntries := by
    apply assignAll_undotted
    rw [List.nil_append, rootEntries]
    split <;> decide
  have noTable : "connection" ∉ names config.rootEntries ∧
      "subscription" ∉ names config.rootEntries := by
    rw [rootEntries]
    split <;> decide
  have noSubscription : "subscription" ∉ names (config.rootEntries
      ++ [("connection", .table .header (connectionEntries config.connection))]) := by
    simpa [names] using noTable.2
  have noList : config.policies.map policyEntries ≠ [] → "policies" ∉ names (config.rootEntries
      ++ [("connection", .table .header (connectionEntries config.connection))]
      ++ [("subscription", .table .header (subscriptionEntries config.subscription))]) := by
    intro filled
    have root : config.rootEntries = [] := by
      rw [rootEntries, if_neg fun empty => filled (by rw [empty, List.map_nil])]
    simp [names, root]
  have elements : ∀ entries ∈ config.policies.map policyEntries, (names entries).Nodup := by
    simp [policyEntries, names]
  have all := foldlM_addTo_elements noList elements []
  rw [if_pos rfl, List.append_nil, List.nil_append] at all
  rw [blocks_lines, tree?, root]
  simp only [Option.bind_eq_bind, Option.bind_some, List.foldlM_cons,
    addTo_table noTable.1 (nodup_connectionEntries _),
    addTo_table noSubscription (nodup_subscriptionEntries _), all]
  simp [entries]

theorem parse?_render (fits : config.Fits) : parse? config.render = some config.entries := by
  have noMark : ∀ c ∈ config.render.head?, c.toNat ≠ 0xFEFF := by
    cases empty : config.policies with
    | nil => simp [render, empty, renderPair]
    | cons key policies => simp [render, empty, renderConnection, renderHeader]
  rw [(reads_render fits).parse? noMark, tree?_lines]

/-! ## Settings -/

section

open Setting

variable {α : Type} {name : String} {entries : Entries} {read : Setting → Option α}
  {default value : α}

theorem findEntry_of_mem {node : Node} (distinct : (names entries).Nodup)
    (member : (name, node) ∈ entries) :
    findEntry name (settingsOfEntries entries) = some node.setting := by
  induction entries with
  | nil => cases member
  | cons entry entries ih =>
    obtain ⟨other, value⟩ := entry
    obtain ⟨fresh, distinct⟩ := List.nodup_cons.mp distinct
    rw [settingsOfEntries, findEntry]
    cases member with
    | head => rw [if_pos rfl]
    | tail _ member =>
      have apart : other ≠ name := by
        rintro rfl
        exact fresh (List.mem_map.mpr ⟨_, member, rfl⟩)
      rw [if_neg apart, ih distinct member]

theorem findEntry_of_not_mem (absent : name ∉ names entries) :
    findEntry name (settingsOfEntries entries) = none := by
  induction entries with
  | nil => rfl
  | cons entry entries ih =>
    obtain ⟨other, value⟩ := entry
    obtain ⟨apart, absent⟩ := not_or.mp (mt List.mem_cons.mpr absent)
    rw [settingsOfEntries, findEntry, if_neg (Ne.symm apart), ih absent]

theorem field_of_mem (node : Node) (distinct : (names entries).Nodup)
    (member : (name, node) ∈ entries) (reads : read node.setting = some value) :
    field (settingsOfEntries entries) name read default = some value := by
  rw [field, findEntry_of_mem distinct member]
  exact reads

theorem field_option (node : α → Node) {value : Option α} (distinct : (names entries).Nodup)
    (present : ∀ v ∈ value, (name, node v) ∈ entries)
    (absent : value = none → name ∉ names entries)
    (reads : ∀ v, optional? read (node v).setting = some (some v)) :
    field (settingsOfEntries entries) name (optional? read) none = some value := by
  cases value with
  | none => rw [field, findEntry_of_not_mem (absent rfl)]
  | some value => exact field_of_mem (node value) distinct (present value rfl) (reads value)

theorem word64?_integer (n : UInt64) : word64? (.integer n.toNat) = some n := by
  have bound : (n.toNat : Int) < (Nat.pow 2 64 : Nat) := Int.ofNat_lt.mpr n.toNat_lt
  rw [word64?, natural?, if_pos ⟨Int.natCast_nonneg _, bound⟩]
  simp

theorem word32?_integer (n : UInt32) : word32? (.integer n.toNat) = some n := by
  have bound : (n.toNat : Int) < (Nat.pow 2 32 : Nat) := Int.ofNat_lt.mpr n.toNat_lt
  rw [word32?, natural?, if_pos ⟨Int.natCast_nonneg _, bound⟩]
  simp

theorem modeOfName?_name (mode : StreamMode) : modeOfName? mode.name = some mode := by
  cases mode <;> rfl

theorem channelArgs?_entries (connection : ChannelArgs) :
    channelArgs? .toml (.group (settingsOfEntries (connectionEntries connection)))
      = some connection := by
  have distinct := nodup_connectionEntries connection
  have address : field (settingsOfEntries (connectionEntries connection)) "server_address" text?
      defaultServerAddress = some connection.serverAddress :=
    field_of_mem (.string _) distinct (by simp [connectionEntries]) rfl
  have tls : field (settingsOfEntries (connectionEntries connection)) "tls" flag? false
      = some connection.tls :=
    field_of_mem (.boolean _) distinct (by simp [connectionEntries]) rfl
  have rootCert : field (settingsOfEntries (connectionEntries connection)) "root_cert_path"
      (optional? text?) none = some connection.rootCertPath :=
    field_option .string distinct (by simp [connectionEntries, optionEntry])
      (by simp +contextual [connectionEntries, optionEntry, names]) fun _ => rfl
  have privateKey : field (settingsOfEntries (connectionEntries connection)) "private_key_path"
      (optional? text?) none = some connection.privateKeyPath :=
    field_option .string distinct (by simp [connectionEntries, optionEntry])
      (by simp +contextual [connectionEntries, optionEntry, names]) fun _ => rfl
  have certChain : field (settingsOfEntries (connectionEntries connection)) "cert_chain_path"
      (optional? text?) none = some connection.certChainPath :=
    field_option .string distinct (by simp [connectionEntries, optionEntry])
      (by simp +contextual [connectionEntries, optionEntry, names]) fun _ => rfl
  simp only [channelArgs?, fields?, Option.bind_eq_bind, Option.bind_some, address, tls, rootCert,
    privateKey, certChain]
  rfl

theorem subscriptionConfig?_entries (subscription : SubscriptionConfig) :
    subscriptionConfig? .toml (.group (settingsOfEntries (subscriptionEntries subscription)))
      = some subscription := by
  have distinct := nodup_subscriptionEntries subscription
  have interval (default : UInt64) : field (settingsOfEntries (subscriptionEntries subscription))
      "sample_interval_nsec" word64? default = some subscription.sampleInterval :=
    field_of_mem (.integer _) distinct (by simp [subscriptionEntries]) (word64?_integer _)
  have encoding (default : String) : field (settingsOfEntries (subscriptionEntries subscription))
      "encoding" text? default = some subscription.encoding :=
    field_of_mem (.string _) distinct (by simp [subscriptionEntries]) rfl
  have mode (default : StreamMode) : field (settingsOfEntries (subscriptionEntries subscription))
      "mode" (mode? .toml) default = some subscription.mode :=
    field_of_mem (.string _) distinct (by simp [subscriptionEntries])
      (modeOfName?_name subscription.mode)
  have timeout : field (settingsOfEntries (subscriptionEntries subscription)) "timeout_secs"
      (optional? word64?) none = some subscription.timeoutSecs :=
    field_option (fun n : UInt64 => .integer n.toNat) distinct
      (by simp +contextual [subscriptionEntries, optionEntry])
      (by simp +contextual [subscriptionEntries, optionEntry, names])
      (fun n => by rw [Node.setting, optional?, word64?_integer]; rfl; simp)
  have retries (default : UInt32) : field (settingsOfEntries (subscriptionEntries subscription))
      "connect_retries" word32? default = some subscription.connectRetries :=
    field_of_mem (.integer _) distinct (by simp [subscriptionEntries]) (word32?_integer _)
  have retryInterval (default : UInt64) : field (settingsOfEntries
      (subscriptionEntries subscription)) "retry_interval_secs" word64? default
        = some subscription.retryIntervalSecs :=
    field_of_mem (.integer _) distinct (by simp [subscriptionEntries]) (word64?_integer _)
  rw [subscriptionConfig?, fields?, Option.bind_eq_bind, Option.bind_some]
  dsimp only
  rw [interval, encoding, mode, timeout, retries, retryInterval]
  rfl

theorem list?_policies (policies : List PbrKey) :
    list? (pbrKey? .toml) (.list (settingsOfTables (policies.map policyEntries)))
      = some policies := by
  rw [list?]
  induction policies with
  | nil => rfl
  | cons key policies ih =>
    have first : pbrKey? .toml (.group (settingsOfEntries (policyEntries key))) = some key := by
      simp [pbrKey?, fields?, requiredField, policyEntries, settingsOfEntries, Node.setting,
        findEntry, text?]
    rw [List.map_cons, settingsOfTables, List.mapM_cons, first, ih]
    rfl

theorem nodup_entries (config : TelemetryConfig) : (names config.entries).Nodup := by
  rw [entries, rootEntries]
  by_cases empty : config.policies = [] <;> simp [empty, names]

theorem telemetryConfig?_entries (config : TelemetryConfig) :
    telemetryConfig? .toml (.group (settingsOfEntries config.entries)) = some config := by
  have distinct := nodup_entries config
  have connection : field (settingsOfEntries config.entries) "connection" (channelArgs? .toml) {}
      = some config.connection :=
    field_of_mem (.table .header _) distinct (by simp [entries])
      (channelArgs?_entries config.connection)
  have subscription : field (settingsOfEntries config.entries) "subscription"
      (subscriptionConfig? .toml) {} = some config.subscription :=
    field_of_mem (.table .header _) distinct (by simp [entries])
      (subscriptionConfig?_entries config.subscription)
  have policies : field (settingsOfEntries config.entries) "policies" (list? (pbrKey? .toml)) []
      = some config.policies := by
    by_cases empty : config.policies = []
    · rw [empty]
      exact field_of_mem (.array []) distinct (by simp [entries, rootEntries, empty]) rfl
    · exact field_of_mem (.tables (config.policies.map policyEntries)) distinct
        (by simp [entries, empty]) (list?_policies config.policies)
  simp only [telemetryConfig?, fields?, Option.bind_eq_bind, Option.bind_some, connection,
    subscription, policies]
  rfl

end

theorem ofText?_render (fits : config.Fits) : ofText? config.render = some config := by
  rw [ofText?, parse?_render fits, Option.bind_eq_bind, Option.bind_some,
    telemetryConfig?_entries]

/-! ## Files -/

section

variable {Files : Type}

/-- Whatever is written to the file now is read from it afterwards. -/
def IsWritable (read : FileReader (StateM Files)) (write : FileWriter (StateM Files))
    (path : String) (files : Files) : Prop :=
  ∀ content, ∃ after, (write path content).run files = (.ok (), after) ∧
    ((read path).run after).1 = .ok content

theorem ofBytes_render (fits : config.Fits) :
    ofBytes (String.ofList config.render).toUTF8.data.toList = .ok config := by
  rw [ofBytes, Text.fromUTF8?_utf8]
  simp [ofText?_render fits]

/-- What follows an access goes on with its result, from the files that it left. -/
theorem run_bind_liftM {α β : Type} (access : StateM Files α)
    (next : α → ExceptT SetupError (StateM Files) β) (files : Files) :
    (liftM access >>= next).run.run files
      = (next (access.run files).1).run.run (access.run files).2 := rfl

theorem save_of_fits (fits : config.Fits) {write : FileWriter (StateM Files)} {path : String}
    {files after : Files}
    (written : (write path (String.ofList config.render).toUTF8.data.toList).run files
      = (.ok (), after)) :
    (config.save write path).run.run files = (.ok (), after) := by
  rw [save, isWritable_iff.mpr fits, Bool.not_true, if_neg (by decide), run_bind_liftM, written]
  rfl

theorem save_of_not_fits (tooLarge : ¬ config.Fits) (write : FileWriter (StateM Files))
    (path : String) (files : Files) :
    (config.save write path).run.run files = (.error (.configuration .unwritable), files) := by
  have refused : config.isWritable = false := Bool.eq_false_iff.mpr (mt isWritable_iff.mp tooLarge)
  rw [save, refused]
  rfl

theorem loadOrDefault_of_read {read : FileReader (StateM Files)} {path : String} {files : Files}
    {content : List UInt8} (found : ((read path).run files).1 = .ok content) :
    ((loadOrDefault read path).run.run files).1 = ofBytes content := by
  rw [loadOrDefault, run_bind_liftM, found]
  rfl

/-- A configuration whose numbers can be written is saved and comes back.  Any other one is refused,
and no file changes. -/
theorem saved_and_loaded (config : TelemetryConfig) :
    (config.Fits → ∀ (read : FileReader (StateM Files)) (write : FileWriter (StateM Files))
      (path : String) (files : Files), IsWritable read write path files →
      ∃ saved, (config.save write path).run.run files = (.ok (), saved) ∧
        ((loadOrDefault read path).run.run saved).1 = .ok config) ∧
    (¬ config.Fits → ∀ (write : FileWriter (StateM Files)) (path : String) (files : Files),
      (config.save write path).run.run files = (.error (.configuration .unwritable), files)) := by
  constructor
  · intro fits read write path files writable
    obtain ⟨saved, written, readBack⟩ := writable (String.ofList config.render).toUTF8.data.toList
    refine ⟨saved, save_of_fits fits written, ?_⟩
    rw [loadOrDefault_of_read readBack, ofBytes_render fits]
  · exact save_of_not_fits

end

/-! ## Files in memory -/

abbrev Memory := String → Option (List UInt8)

def Memory.read : FileReader (StateM Memory) := fun path => do
  match (← get) path with
  | some content => return .ok content
  | none => return .error .notFound

def Memory.write : FileWriter (StateM Memory) := fun path content => do
  modify fun files other => if other = path then some content else files other
  return .ok ()

theorem isWritable_memory (path : String) (files : Memory) :
    IsWritable Memory.read Memory.write path files := by
  intro content
  refine ⟨_, rfl, ?_⟩
  show ((Memory.read path).run fun other => if other = path then some content else files other).1
    = .ok content
  simp only [Memory.read, StateT.run_bind, StateT.run_get, pure_bind]
  rfl

def quotedConfig : TelemetryConfig where
  connection := {
    serverAddress := "'''\"\"\"\\"
    rootCertPath := some "it's \"here\"\r\n"
    certChainPath := some "\u0007" }
  subscription := { mode := .once, timeoutSecs := some 30 }

def excessiveConfig : TelemetryConfig where
  subscription := { sampleInterval := 0x8000000000000000 }

theorem saved_and_loaded_memory :
    (∃ saved, (quotedConfig.save Memory.write "a").run.run (fun _ => none) = (.ok (), saved) ∧
      ((loadOrDefault Memory.read "a").run.run saved).1 = .ok quotedConfig) ∧
    (excessiveConfig.save Memory.write "a").run.run (fun _ => none)
      = (.error (.configuration .unwritable), fun _ => none) := by
  have fits : quotedConfig.Fits := by
    refine ⟨by decide +kernel, ?_, by decide +kernel, by decide +kernel⟩
    rintro n ⟨⟩
    decide +kernel
  have tooLarge : ¬ excessiveConfig.Fits :=
    fun fits => absurd fits.sampleInterval (by decide +kernel)
  exact ⟨(saved_and_loaded quotedConfig).1 fits Memory.read Memory.write "a" _
      (isWritable_memory "a" _),
    (saved_and_loaded excessiveConfig).2 tooLarge Memory.write "a" _⟩

end PbrTelemetry.TelemetryConfig
