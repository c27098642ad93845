/-!
# Configuration trees

The values of a configuration text.  Tables remember how they came about, since that decides what
may be added to them later: a table with a header of its own is complete, one that only appears in
the header of another table can still get a header, and one that only appears in dotted keys can
get more dotted keys.
-/

namespace PbrTelemetry.Toml

inductive TableKind where
  | header
  /-- As part of the header of another table. -/
  | implied
  | dotted
  | inline
  deriving DecidableEq, Repr

inductive Node where
  | string (text : String)
  | integer (value : Int)
  /-- A number with fraction or exponent; its value is of no use here. -/
  | float
  | boolean (value : Bool)
  | datetime
  | array (items : List Node)
  | table (kind : TableKind) (entries : List (String × Node))
  | tables (elements : List (List (String × Node)))
  deriving Repr, Inhabited

abbrev Entries := List (String × Node)

end PbrTelemetry.Toml
