import PbrTelemetry.TextMap

/-!
# Data-tree paths

A path names a node of a target's data tree by the elements on the way to it.  An element has a
name and may have keys, which select one entry of a list.
-/

namespace PbrTelemetry

structure PathElem where
  name : String
  keys : TextMap String := .empty
  deriving DecidableEq, Repr, Inhabited

structure Path where
  /-- The model that the path belongs to. -/
  origin : String := ""
  elems : List PathElem := []
  /-- The device that the path belongs to. -/
  target : String := ""
  deriving DecidableEq, Repr, Inhabited

/-- The value of a key on the first element that has the given name and the key. -/
def Path.elemKey? (path : Path) (name key : String) : Option String :=
  (path.elems.filter fun elem => elem.name = name).findSome? fun elem => elem.keys.get? key

end PbrTelemetry
