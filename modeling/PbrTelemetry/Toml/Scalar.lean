import PbrTelemetry.Binary64
import PbrTelemetry.Text.Reader
import PbrTelemetry.Toml.Value

/-!
# Numbers and times in configurations

Integers are decimal with an optional sign, or hexadecimal, octal or binary behind `0x`, `0o` or
`0b`, and fit 64 bits with a sign.  Underscores may stand between two digits.  Floats have a
fraction or an exponent, or are one of the words `inf` and `nan`, and do not exceed the largest
double.  Dates and times have digits of fixed count, each number in its range.
-/

namespace PbrTelemetry.Toml

open Text (Reader digits valueOfDigits)

/-! ## Dates and times -/

def boundedNumber (count least greatest : Nat) (text : List Char) : Option (Nat × List Char) :=
  let found := text.take count
  let n := valueOfDigits found
  if found.length = count ∧ found.all Char.isDigit ∧ least ≤ n ∧ n ≤ greatest then
    some (n, text.drop count)
  else none

def oneOf? (marks : List Char) : List Char → Option (List Char)
  | c :: rest => if marks.contains c then some rest else none
  | [] => none

def daysOfMonth (year month : Nat) : Nat :=
  if month = 2 then
    if year % 4 = 0 ∧ (year % 100 ≠ 0 ∨ year % 400 = 0) then 29 else 28
  else if [4, 6, 9, 11].contains month then 30 else 31

def date? (text : List Char) : Option (List Char) := do
  let (year, text) ← boundedNumber 4 0 9999 text
  let text ← oneOf? ['-'] text
  let (month, text) ← boundedNumber 2 1 12 text
  let text ← oneOf? ['-'] text
  let (_, text) ← boundedNumber 2 1 (daysOfMonth year month) text
  return text

def time? (text : List Char) : Option (List Char) := do
  let (_, text) ← boundedNumber 2 0 23 text
  let text ← oneOf? [':'] text
  let (_, text) ← boundedNumber 2 0 59 text
  let text ← oneOf? [':'] text
  let (_, text) ← boundedNumber 2 0 60 text
  match text with
  | '.' :: rest =>
    match digits rest with
    | ([], _) => none
    | (_, rest) => return rest
  | _ => return text

def offset? (text : List Char) : Option (List Char) :=
  match oneOf? ['Z', 'z'] text with
  | some rest => some rest
  | none => do
    let text ← oneOf? ['+', '-'] text
    let (_, text) ← boundedNumber 2 0 23 text
    let text ← oneOf? [':'] text
    let (_, text) ← boundedNumber 2 0 59 text
    return text

def datetime? (text : List Char) : Option (List Char) :=
  match date? text with
  | some rest =>
    match (oneOf? ['T', 't', ' '] rest).bind time? with
    | some rest => some ((offset? rest).getD rest)
    | none => some rest
  | none => time? text

/-! ## Numbers -/

/-- Digits with underscores between them. -/
def groupedDigits (isDigit : Char → Bool) : Reader (List Char)
  | [] => none
  | c :: rest => if isDigit c then some (c :: (more rest).1, (more rest).2) else none
where
  more : List Char → List Char × List Char
    | [] => ([], [])
    | '_' :: c :: rest =>
      if isDigit c then (c :: (more rest).1, (more rest).2) else ([], '_' :: c :: rest)
    | c :: rest => if isDigit c then (c :: (more rest).1, (more rest).2) else ([], c :: rest)

def sign : List Char → Bool × List Char
  | '+' :: rest => (false, rest)
  | '-' :: rest => (true, rest)
  | text => (false, text)

/-- The whole part of a decimal number: one zero, or digits that do not start with one. -/
def wholePart : Reader (List Char)
  | '0' :: rest => some (['0'], rest)
  | text => groupedDigits Char.isDigit text

def exponent : Reader Int
  | c :: rest =>
    if c = 'e' ∨ c = 'E' then do
      let (negative, rest) := sign rest
      let (found, rest) ← groupedDigits Char.isDigit rest
      let n : Int := valueOfDigits found
      return (if negative then -n else n, rest)
    else none
  | [] => none

def decimalFloat (text : List Char) : Option (Node × List Char) := do
  let (negative, text) := sign text
  let (whole, text) ← wholePart text
  let (fraction, text) ← match text with
    | '.' :: rest => groupedDigits Char.isDigit rest
    | _ => some ([], text)
  let (power, text) := match exponent text with
    | some (power, rest) => (some power, rest)
    | none => (none, text)
  if fraction.isEmpty ∧ power.isNone then none
  else
    let value :=
      Binary64.ofDecimal negative (valueOfDigits (whole ++ fraction))
        (power.getD 0 - fraction.length)
    if value.isNone ∧ !negative then none else some (.float, text)

def wordFloat (text : List Char) : Option (Node × List Char) :=
  match (sign text).2 with
  | 'i' :: 'n' :: 'f' :: rest => some (.float, rest)
  | 'n' :: 'a' :: 'n' :: rest => some (.float, rest)
  | _ => none

def valueInBase (base : Nat) (digits : List Char) : Nat :=
  digits.foldl (fun n c => base * n + (Text.hexDigit? c).getD 0) 0

def isDigitOf (base : Nat) (c : Char) : Bool :=
  match Text.hexDigit? c with
  | some digit => digit < base
  | none => false

def basedInteger (base : Nat) (text : List Char) : Option (Node × List Char) := do
  let (found, rest) ← groupedDigits (isDigitOf base) text
  let n := valueInBase base found
  if n < Nat.pow 2 63 then some (.integer n, rest) else none

def integer : Reader Node
  | '0' :: 'x' :: rest => basedInteger 16 rest
  | '0' :: 'o' :: rest => basedInteger 8 rest
  | '0' :: 'b' :: rest => basedInteger 2 rest
  | text => do
    let (negative, text) := sign text
    let (found, rest) ← wholePart text
    let n := valueOfDigits found
    if negative then
      if n ≤ Nat.pow 2 63 then some (.integer (-n), rest) else none
    else if n < Nat.pow 2 63 then some (.integer n, rest)
    else none

def numberOrTime (text : List Char) : Option (Node × List Char) :=
  match datetime? text with
  | some rest => some (.datetime, rest)
  | none =>
    match decimalFloat text with
    | some found => some found
    | none =>
      match wordFloat text with
      | some found => some found
      | none => integer text

end PbrTelemetry.Toml
