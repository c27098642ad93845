import PbrTelemetry.Json

/-!
# Flat maps

A `FlatMap` holds the leaves of a data tree under the paths that lead to them.  `Json.flatten`
makes one from a JSON tree: the tokens of a path are member names and array indices, each behind a
slash, with the tilde and the slash of a name escaped.

The first item of an array does not count as a token if it has leaves of its own, so an array with
one object in it reads like the object.  Empty arrays and objects are leaves.
-/

namespace PbrTelemetry

abbrev FlatMap := TextMap String

namespace Json

def escapeTokenChar (c : Char) : List Char :=
  if c = '~' then ['~', '0'] else if c = '/' then ['~', '1'] else [c]

def escapeToken (name : List Char) : List Char := name.flatMap escapeTokenChar

def indexToken (index : Nat) : List Char := Nat.toDigits 10 index

/-- Whether a tree has leaves below its root. -/
def isContainer : Json → Bool
  | .array items => !items.isEmpty
  | .object members => !members.isEmpty
  | _ => false

/-- The text of a leaf: strings as they are, empty arrays and objects as null, and all else in its
JSON form. -/
def leafText : Json → String
  | .string text => text
  | .null => "null"
  | .bool true => "true"
  | .bool false => "false"
  | .integer value => renderInteger value
  | .double value => renderDouble value
  | .array _ => "null"
  | .object _ => "null"

mutual

/-- The leaves of a tree with their keys, in the order in which they stand, below `key`. -/
def leaves (key : List Char) : Json → List (List Char × String)
  | .array (item :: rest) =>
    leaves (if item.isContainer then key else key ++ '/' :: indexToken 0) item
      ++ itemLeaves key 1 rest
  | .object (m :: rest) => memberLeaves key (m :: rest)
  | leaf => [(key, leafText leaf)]

def itemLeaves (key : List Char) (index : Nat) : List Json → List (List Char × String)
  | [] => []
  | item :: rest =>
    leaves (key ++ '/' :: indexToken index) item ++ itemLeaves key (index + 1) rest

def memberLeaves (key : List Char) : List (String × Json) → List (List Char × String)
  | [] => []
  | (name, value) :: rest =>
    leaves (key ++ '/' :: escapeToken name.toList) value ++ memberLeaves key rest

end

/-- The flat map of a tree; of two leaves with one key the later one counts. -/
def flatten (tree : Json) : FlatMap :=
  TextMap.ofList ((leaves [] tree).map fun (key, value) => (String.ofList key, value))

end Json

end PbrTelemetry
