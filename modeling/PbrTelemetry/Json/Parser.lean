import PbrTelemetry.Json
import PbrTelemetry.Binary64.Scaling
import PbrTelemetry.Text.Reader

/-!
# Reading JSON

`Json.parse?` reads JSON text strictly: nothing but blanks around one value, no leading zeros, no
trailing commas, no lone surrogates in escapes, and no number beyond the largest double.  Arrays and
objects nest at most 127 deep.

A number without fraction and exponent is an integer if it fits 64 bits, with a sign if it is
negative.  Every other number is a double, and so is minus zero: its leading digits in a word of 64
bits, rounded and scaled by a power of ten (`Binary64.WordDecimal`).  Of two members of one name the
last one stays.

Every reader takes the text that is left and returns a value and what follows it.
-/

namespace PbrTelemetry.Json

open Text (Reader digits digitValue hexNumber valueOfDigits)

def isSpace (c : Char) : Bool := c = ' ' || c = '\t' || c = '\n' || c = '\r'

def skipSpace (text : List Char) : List Char := text.dropWhile isSpace

/-! ## Strings -/

/-- The character of an escape that starts with `\u`: one unit, or a pair of surrogates. -/
def unicodeEscape (text : List Char) : Option (Char × List Char) := do
  let (unit, rest) ← hexNumber 0 4 text
  if 0xD800 ≤ unit ∧ unit < 0xDC00 then
    match rest with
    | '\\' :: 'u' :: rest =>
      let (low, rest) ← hexNumber 0 4 rest
      if 0xDC00 ≤ low ∧ low < 0xE000 then
        return (Char.ofNat (0x10000 + (unit - 0xD800) * 0x400 + (low - 0xDC00)), rest)
      else none
    | _ => none
  else if 0xDC00 ≤ unit ∧ unit < 0xE000 then none
  else return (Char.ofNat unit, rest)

def escape : Reader Char
  | '"' :: rest => some ('"', rest)
  | '\\' :: rest => some ('\\', rest)
  | '/' :: rest => some ('/', rest)
  | 'b' :: rest => some (Char.ofNat 8, rest)
  | 'f' :: rest => some (Char.ofNat 12, rest)
  | 'n' :: rest => some ('\n', rest)
  | 'r' :: rest => some ('\r', rest)
  | 't' :: rest => some ('\t', rest)
  | 'u' :: rest => unicodeEscape rest
  | _ => none

/-- The rest of a string after its opening quote, of at most `fuel` characters. -/
def stringBody : Nat → Reader (List Char)
  | 0, _ => none
  | _, [] => none
  | _ + 1, '"' :: rest => some ([], rest)
  | fuel + 1, '\\' :: rest => do
    let (c, rest) ← escape rest
    let (body, rest) ← stringBody fuel rest
    return (c :: body, rest)
  | fuel + 1, c :: rest =>
    if c < ' ' then none
    else do
      let (body, rest) ← stringBody fuel rest
      return (c :: body, rest)

def stringTail (text : List Char) : Option (String × List Char) := do
  let (body, rest) ← stringBody (text.length + 1) text
  return (String.ofList body, rest)

/-! ## Numbers -/

def wholePart (text : List Char) : Option (List Char × List Char) :=
  match digits text with
  | ([], _) => none
  | (['0'], rest) => some (['0'], rest)
  | ('0' :: _, _) => none
  | found => some found

def fractionPart : Reader (Option (List Char))
  | '.' :: rest =>
    match digits rest with
    | ([], _) => none
    | (found, rest) => some (some found, rest)
  | text => some (none, text)

def exponentPart : Reader (Option Int)
  | c :: rest =>
    if c = 'e' ∨ c = 'E' then
      let (sign, rest) : Int × List Char := match rest with
        | '+' :: rest => (1, rest)
        | '-' :: rest => (-1, rest)
        | _ => (1, rest)
      match digits rest with
      | ([], _) => none
      | (found, rest) => some (some (sign * valueOfDigits found), rest)
    else some (none, c :: rest)
  | [] => some (none, [])

def numberOfParts (negative : Bool) (whole : List Char) (fraction : Option (List Char))
    (exponent : Option Int) : Option Json :=
  let n := valueOfDigits whole
  let isWhole := fraction.isNone && exponent.isNone
  if isWhole ∧ negative ∧ n ≠ 0 ∧ n ≤ Nat.pow 2 63 then some (.integer (-n))
  else if isWhole ∧ !negative ∧ n < Nat.pow 2 64 then some (.integer n)
  else
    let decimal := Binary64.WordDecimal.ofDigits (whole.map digitValue)
      ((fraction.getD []).map digitValue)
    let scaled := { decimal with exponent := decimal.exponent + exponent.getD 0 }
    scaled.toDouble?.map fun x => .double (x.withSign negative)

def number (text : List Char) : Option (Json × List Char) := do
  let (negative, text) := match text with
    | '-' :: rest => (true, rest)
    | _ => (false, text)
  let (whole, text) ← wholePart text
  let (fraction, text) ← fractionPart text
  let (exponent, text) ← exponentPart text
  let value ← numberOfParts negative whole fraction exponent
  return (value, text)

/-! ## Values -/

/-- Entries with commas between them, up to the closing character, at most `fuel` of them.  Blanks
may stand around everything. -/
def entries {α : Type} (entry : Reader α) (close : Char) : Nat → Reader (List α)
  | 0, _ => none
  | fuel + 1, text => do
    let (first, text) ← entry (skipSpace text)
    match skipSpace text with
    | c :: text =>
      if c = close then return ([first], text)
      else if c = ',' then
        let (others, text) ← entries entry close fuel text
        return (first :: others, text)
      else none
    | [] => none

def sequence {α : Type} (entry : Reader α) (close : Char) (text : List Char) :
    Option (List α × List Char) :=
  match skipSpace text with
  | c :: rest => if c = close then some ([], rest) else entries entry close (text.length + 1) text
  | [] => none

def member (value : Reader Json) : Reader (String × Json)
  | '"' :: text => do
    let (name, text) ← stringTail text
    match skipSpace text with
    | ':' :: text =>
      let (value, text) ← value (skipSpace text)
      return ((name, value), text)
    | _ => none
  | _ => none

/-- The object of a list of members, in which the last member of a name counts. -/
def ofMembers (members : List (String × Json)) : Json :=
  .object (members.foldl (fun found m => insertEntry m.1 m.2 found) [])

/-- A value that nests at most `depth` deep, without blanks in front. -/
def value : Nat → Reader Json
  | _, 'n' :: 'u' :: 'l' :: 'l' :: rest => some (.null, rest)
  | _, 't' :: 'r' :: 'u' :: 'e' :: rest => some (.bool true, rest)
  | _, 'f' :: 'a' :: 'l' :: 's' :: 'e' :: rest => some (.bool false, rest)
  | _, '"' :: rest => (stringTail rest).map fun (text, rest) => (.string text, rest)
  | depth + 1, '[' :: rest =>
    (sequence (value depth) ']' rest).map fun (items, rest) => (.array items, rest)
  | depth + 1, '\x7b' :: rest =>
    (sequence (member (value depth)) '\x7d' rest).map fun (members, rest) =>
      (ofMembers members, rest)
  | _, text => number text

def nestingLimit : Nat := 127

def parse? (text : List Char) : Option Json := do
  let (tree, rest) ← value nestingLimit (skipSpace text)
  if (skipSpace rest).isEmpty then some tree else none

def parseBytes? (bytes : List UInt8) : Option Json := do
  let text ← String.fromUTF8? ⟨bytes.toArray⟩
  parse? text.toList

end PbrTelemetry.Json
