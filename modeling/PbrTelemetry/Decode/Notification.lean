import PbrTelemetry.Decode.Update

/-!
# Decoding a notification

The flat map of a notification holds the leaves of all its updates, later ones over earlier ones,
and under two keys of their own the names of the policy and of the rule.  Updates without a path or
without a value do not count.

The names stand in a path: the path of the last update if it has a JSON payload, and the
notification's prefix otherwise.
-/

namespace PbrTelemetry

def policyNameKey : String := "policy_name"

def ruleNameKey : String := "rule_name"

def Path.policyName? (path : Path) : Option String :=
  (path.elemKey? "policy-map" "policy-name").filter (· ≠ "")

def Path.ruleName? (path : Path) : Option String :=
  (path.elemKey? "rule-name" "rule-name").filter (· ≠ "")

namespace Notification

structure Collected where
  leaves : FlatMap := .empty
  /-- The path of the last update, if that had a JSON payload. -/
  jsonPath : Option Path := none

def Collected.add (collected : Collected) (update : Update) : Except DecodeError Collected :=
  match update.path, update.val with
  | some path, some (.jsonIetf payload) => do
    let leaves ← decodePayload payload
    return { leaves := collected.leaves.merge leaves, jsonPath := some path }
  | some path, some value =>
    return { leaves := collected.leaves.insert path.render value.scalarText, jsonPath := none }
  | _, _ => return collected

def collect (updates : List Update) : Except DecodeError Collected :=
  updates.foldlM Collected.add {}

/-- The prefix of a notification, which must have an origin that contains the expected one. -/
def checkedPrefix (notification : Notification) (origin : String) : Except DecodeError Path :=
  match notification.prefixPath with
  | none => .error .noPrefix
  | some path =>
    if path.origin = "" then .error .noPrefix
    else if Text.occursIn origin.toList path.origin.toList then .ok path
    else .error (.unexpected ("unexpected prefix origin '" ++ path.origin ++ "'"))

def flatten (notification : Notification) (origin : String) : Except DecodeError FlatMap := do
  let prefixPath ← notification.checkedPrefix origin
  if notification.update.isEmpty then throw .noUpdate
  let collected ← collect notification.update
  let path := collected.jsonPath.getD prefixPath
  let some policy := path.policyName? | throw .noPolicyName
  let some rule := path.ruleName? | throw .noRuleName
  return (collected.leaves.insert policyNameKey policy).insert ruleNameKey rule

end Notification

end PbrTelemetry
