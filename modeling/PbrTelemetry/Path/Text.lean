import PbrTelemetry.Path
import PbrTelemetry.Text.Cut

/-!
# The text form of a path

`Path.render` writes every element as `/name[key=value]…`, and `Path.parse` reads text of that form
back.  The reader takes one leading and one trailing slash as optional, and at most one key to an
element.  It refuses what does not have this form at the leftmost malformed segment.

The text has no escapes, so a slash in a name, or a closing bracket in a key, cannot be read back.
-/

namespace PbrTelemetry

/-! ## Writing -/

/-- A key as `[key=value]`. -/
def PathElem.renderKey (key : String × String) : List Char :=
  '[' :: key.1.toList ++ '=' :: key.2.toList ++ [']']

def PathElem.render (elem : PathElem) : List Char :=
  '/' :: elem.name.toList ++ elem.keys.entries.flatMap renderKey

/-- The elements of a path one after the other; origin and target are not shown. -/
def Path.render (path : Path) : String :=
  String.ofList (path.elems.flatMap PathElem.render)

/-! ## Reading -/

inductive PathFault where
  /-- Two slashes without a name between them. -/
  | emptyElement
  | missingClosingBracket
  | textAfterKey
  | emptyName
  /-- Brackets without a key, an equals sign and a value between them. -/
  | malformedKey
  deriving DecidableEq, Repr

def PathFault.reason : PathFault → String
  | emptyElement => "empty path element"
  | missingClosingBracket => "missing closing bracket in key-value pair"
  | textAfterKey => "unexpected text after key-value pair"
  | emptyName => "name before key-value pair cannot be empty"
  | malformedKey => "key-value pair must be in the format 'key=value'"

structure PathError where
  text : String
  fault : PathFault
  deriving DecidableEq, Repr

def PathError.message (e : PathError) : String :=
  "Invalid gNMI path '" ++ e.text ++ "': " ++ e.fault.reason

def PathElem.parseKey (name pair : List Char) : Except PathFault PathElem :=
  match Text.cut '=' pair with
  | some (key, value) =>
    if key.isEmpty || value.isEmpty then .error .malformedKey
    else .ok
      { name := String.ofList name
        keys := TextMap.empty.insert (String.ofList key) (String.ofList value) }
  | none => .error .malformedKey

/-- Read one segment: a name, or a name with one key. -/
def PathElem.parse (segment : List Char) : Except PathFault PathElem :=
  if segment.isEmpty then .error .emptyElement
  else
    match Text.cut '[' segment with
    | none => .ok { name := String.ofList segment }
    | some (name, rest) =>
      if name.contains ']' then .error .missingClosingBracket
      else
        match Text.cut ']' rest with
        | none => .error .missingClosingBracket
        | some (pair, after) =>
          if !after.isEmpty then .error .textAfterKey
          else if name.isEmpty then .error .emptyName
          else parseKey name pair

/-- Read the text of a path.  The empty text and a lone slash are the path without elements. -/
def Path.parse (text : String) : Except PathError Path :=
  let body := Text.dropLeading '/' text.toList
  if body.isEmpty then .ok {}
  else
    match (Text.pieces '/' (Text.dropTrailing '/' body)).mapM PathElem.parse with
    | .ok elems => .ok { elems }
    | .error fault => .error { text, fault }

end PbrTelemetry
