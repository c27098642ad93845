import PbrTelemetry.Json
import PbrTelemetry.Toml.Value

/-!
# Settings

What configuration texts and JSON trees have in common as far as a configuration is read from them:
texts, integers, truth values, lists, and groups of named settings.
-/

namespace PbrTelemetry

inductive Setting where
  | text (value : String)
  | integer (value : Int)
  | flag (value : Bool)
  | list (items : List Setting)
  | group (entries : List (String × Setting))
  | absent
  /-- A value that no configuration holds. -/
  | other
  deriving Repr, Inhabited

/-- A time reads as a group whose only entry has no meaning. -/
def Setting.time : Setting := .group [("", .other)]

/-! ## From configuration texts -/

namespace Toml

mutual

def Node.setting : Node → Setting
  | .string text => .text text
  | .integer value => .integer value
  | .float => .other
  | .boolean value => .flag value
  | .datetime => .time
  | .array items => .list (settingsOfItems items)
  | .table _ entries => .group (settingsOfEntries entries)
  | .tables elements => .list (settingsOfTables elements)

def settingsOfItems : List Node → List Setting
  | [] => []
  | item :: rest => item.setting :: settingsOfItems rest

def settingsOfEntries : List (String × Node) → List (String × Setting)
  | [] => []
  | (name, value) :: rest => (name, value.setting) :: settingsOfEntries rest

def settingsOfTables : List (List (String × Node)) → List Setting
  | [] => []
  | entries :: rest => .group (settingsOfEntries entries) :: settingsOfTables rest

end

end Toml

/-! ## From JSON trees -/

namespace Json

mutual

def setting : Json → Setting
  | .null => .absent
  | .bool value => .flag value
  | .integer value => .integer value
  | .double _ => .other
  | .string text => .text text
  | .array items => .list (settingsOfItems items)
  | .object members => .group (settingsOfMembers members)

def settingsOfItems : List Json → List Setting
  | [] => []
  | item :: rest => item.setting :: settingsOfItems rest

def settingsOfMembers : List (String × Json) → List (String × Setting)
  | [] => []
  | (name, value) :: rest => (name, value.setting) :: settingsOfMembers rest

end

end Json

end PbrTelemetry
