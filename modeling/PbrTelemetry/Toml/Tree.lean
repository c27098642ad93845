import PbrTelemetry.Toml.Value

/-!
# Building tables

How the lines of a configuration text add up to one tree.  A pair goes into the table of the header
above it, and a dotted key leads through further tables on the way.  Nothing is ever written twice:
not a value, not a table with a header, and not a table in braces.

* `assign`: a value under a dotted key.
* `descend`: a change below the tables on the way to a header.
* `Block.addTo`: a header with all its pairs.
-/

namespace PbrTelemetry.Toml

structure Key where
  /-- The names in front of the last dot, from the outermost table on. -/
  path : List String
  name : String
  deriving DecidableEq, Repr, Inhabited

/-- Change the value under a name, which is `none` so far if there is no such entry.  No result of
`change` means that the change is not allowed. -/
def alter (name : String) (change : Option Node → Option Node) : Entries → Option Entries
  | [] => do
    let value ← change none
    return [(name, value)]
  | (k, v) :: rest =>
    if k = name then do
      let value ← change (some v)
      return (k, value) :: rest
    else do
      let rest ← alter name change rest
      return (k, v) :: rest

def changeLast (change : Entries → Option Entries) : List Entries → Option (List Entries)
  | [] => none
  | [last] => do
    let last ← change last
    return [last]
  | first :: rest => do
    let rest ← changeLast change rest
    return first :: rest

def writeOnce (value : Node) : Option Node → Option Node
  | none => some value
  | some _ => none

/-- Write a value under a dotted key.  The tables on the way come about in the key, or in keys and
headers that only pass through them; the last of them takes dotted keys only. -/
def assign (name : String) (value : Node) : List String → Entries → Option Entries
  | [], entries => alter name (writeOnce value) entries
  | part :: path, entries =>
    alter part (fun
      | none => (assign name value path []).map (.table .dotted)
      | some (.table .dotted inner) => (assign name value path inner).map (.table .dotted)
      | some (.table .implied inner) =>
        if path.isEmpty then none else (assign name value path inner).map (.table .implied)
      | some (.tables elements) =>
        if path.isEmpty then none else (changeLast (assign name value path) elements).map .tables
      | some _ => none) entries

def assignAll (pairs : List (Key × Node)) (entries : Entries) : Option Entries :=
  pairs.foldlM (fun entries (key, value) => assign key.name value key.path entries) entries

/-- Change the table that a header stands in.  Of a list of tables the last one counts. -/
def descend (change : Entries → Option Entries) : List String → Entries → Option Entries
  | [], entries => change entries
  | part :: path, entries =>
    alter part (fun
      | none => (descend change path []).map (.table .implied)
      | some (.table .inline _) => none
      | some (.table kind inner) => (descend change path inner).map (.table kind)
      | some (.tables elements) => (changeLast (descend change path) elements).map .tables
      | some _ => none) entries

inductive Header where
  | table (key : Key)
  | element (key : Key)
  deriving DecidableEq, Repr

structure Block where
  header : Header
  pairs : List (Key × Node)
  deriving Repr

def Block.addTo (block : Block) (root : Entries) : Option Entries :=
  match block.header with
  | .table key =>
    descend (alter key.name fun
      | none => (assignAll block.pairs []).map (.table .header)
      | some (.table .implied entries) => (assignAll block.pairs entries).map (.table .header)
      | some _ => none) key.path root
  | .element key =>
    descend (alter key.name fun
      | none => (assignAll block.pairs []).map fun element => .tables [element]
      | some (.tables elements) =>
        (assignAll block.pairs []).map fun element => .tables (elements ++ [element])
      | some _ => none) key.path root

def tree? (pairs : List (Key × Node)) (blocks : List Block) : Option Entries := do
  let root ← assignAll pairs []
  blocks.foldlM (fun root block => block.addTo root) root

end PbrTelemetry.Toml
