import PbrTelemetry.Toml.Quote
import PbrTelemetry.Toml.Scalar
import PbrTelemetry.Toml.Tree

/-!
# Reading configuration texts

A configuration text is a list of lines: headers, pairs of a key and a value, comments, and lines
without content.  `parse?` reads it as one tree of tables.

Keys have less than 80 names, and values nest less than 80 deep.
-/

namespace PbrTelemetry.Toml

open Text (Reader)

/-! ## Keys -/

def isBare (c : Char) : Bool := c.isAlphanum || c = '_' || c = '-'

def simpleKey (text : List Char) : Option (String × List Char) :=
  match text with
  | '"' :: _ => lineString text
  | '\'' :: _ => lineString text
  | _ =>
    match text.takeWhile isBare with
    | [] => none
    | name => some (String.ofList name, text.dropWhile isBare)

/-- A key of at most `limit` names, with the blanks around it. -/
def dottedKey : Nat → Reader Key
  | 0, _ => none
  | limit + 1, text => do
    let (name, text) ← simpleKey (skipBlanks text)
    match skipBlanks text with
    | '.' :: rest =>
      let (key, rest) ← dottedKey limit rest
      return ({ key with path := name :: key.path }, rest)
    | rest => return ({ path := [], name }, rest)

def keyLimit : Nat := 79

def key : Reader Key := dottedKey keyLimit

/-! ## Values -/

/-- The text behind a comment and behind the end of its line, which may be the end of the text. -/
def lineTail? (text : List Char) : Option (List Char) :=
  let text := match skipBlanks text with
    | '#' :: rest => rest.dropWhile isPlain
    | text => text
  match text with
  | [] => some []
  | _ => lineBreak? text

def skipLines : Nat → List Char → List Char
  | 0, text => text
  | fuel + 1, text =>
    let text := skipBlanks text
    match text with
    | [] => []
    | _ =>
      match lineTail? text with
      | some rest => skipLines fuel rest
      | none => text

def skipAllLines (text : List Char) : List Char := skipLines (text.length + 1) text

def arrayItems (value : Reader Node) : Nat → Reader (List Node)
  | 0, _ => none
  | fuel + 1, text =>
    match skipAllLines text with
    | ']' :: rest => some ([], rest)
    | text => do
      let (item, text) ← value text
      match skipAllLines text with
      | ',' :: rest =>
        let (items, rest) ← arrayItems value fuel rest
        return (item :: items, rest)
      | ']' :: rest => return ([item], rest)
      | _ => none

def pair (value : Reader Node) : Reader (Key × Node) := fun text => do
  let (key, text) ← key text
  match text with
  | '=' :: rest =>
    let (value, rest) ← value (skipBlanks rest)
    return ((key, value), rest)
  | _ => none

def inlinePairs (value : Reader Node) : Nat → Reader (List (Key × Node))
  | 0, _ => none
  | fuel + 1, text => do
    let (first, text) ← pair value text
    match skipBlanks text with
    | ',' :: rest =>
      let (pairs, rest) ← inlinePairs value fuel rest
      return (first :: pairs, rest)
    | '\x7d' :: rest => return ([first], rest)
    | _ => none

def inlineTable (value : Reader Node) : Reader Node := fun text => do
  let (pairs, rest) ← match skipBlanks text with
    | '\x7d' :: rest => some ([], rest)
    | text => inlinePairs value (text.length + 1) text
  let entries ← assignAll pairs []
  return (.table .inline entries, rest)

/-- A value of which at most `depth` arrays and tables stand inside one another. -/
def value : Nat → Reader Node
  | depth + 1, '[' :: rest =>
    (arrayItems (value depth) (rest.length + 1) rest).map fun (items, rest) => (.array items, rest)
  | depth + 1, '\x7b' :: rest => inlineTable (value depth) rest
  | _, 't' :: 'r' :: 'u' :: 'e' :: rest => some (.boolean true, rest)
  | _, 'f' :: 'a' :: 'l' :: 's' :: 'e' :: rest => some (.boolean false, rest)
  | _, '"' :: rest => (quotedString ('"' :: rest)).map fun (text, rest) => (.string text, rest)
  | _, '\'' :: rest => (quotedString ('\'' :: rest)).map fun (text, rest) => (.string text, rest)
  | _, text => numberOrTime text

def nestingLimit : Nat := 79

/-! ## Lines -/

inductive Line where
  | header (header : Header)
  | pair (key : Key) (value : Node)
  deriving Repr

def line : Reader Line
  | '[' :: '[' :: rest => do
    let (key, rest) ← key rest
    match rest with
    | ']' :: ']' :: rest => return (.header (.element key), rest)
    | _ => none
  | '[' :: rest => do
    let (key, rest) ← key rest
    match rest with
    | ']' :: rest => return (.header (.table key), rest)
    | _ => none
  | text => (pair (value nestingLimit) text).map fun ((key, value), rest) =>
    (.pair key value, rest)

def lines? : Nat → List Char → Option (List Line)
  | 0, _ => none
  | _ + 1, [] => some []
  | fuel + 1, text =>
    match lineTail? text with
    | some rest => lines? fuel rest
    | none => do
      let (first, rest) ← line (skipBlanks text)
      let rest ← lineTail? rest
      let others ← lines? fuel rest
      return first :: others

/-- The pairs in front of the first header, and the blocks from there on. -/
def blocks : List Line → List (Key × Node) × List Block
  | [] => ([], [])
  | .pair key value :: rest => ((key, value) :: (blocks rest).1, (blocks rest).2)
  | .header header :: rest => ([], ⟨header, (blocks rest).1⟩ :: (blocks rest).2)

def dropOrderMark : List Char → List Char
  | [] => []
  | c :: rest => if c.toNat = 0xFEFF then rest else c :: rest

def parse? (text : List Char) : Option Entries := do
  let text := dropOrderMark text
  let found ← lines? (text.length + 1) text
  tree? (blocks found).1 (blocks found).2

end PbrTelemetry.Toml
