/-!
# Readers

A reader takes a text, reads something from its front and returns it with the text that follows.
-/

namespace PbrTelemetry.Text

abbrev Reader (α : Type) := List Char → Option (α × List Char)

def hexDigit? (c : Char) : Option Nat :=
  if '0' ≤ c ∧ c ≤ '9' then some (c.toNat - '0'.toNat)
  else if 'a' ≤ c ∧ c ≤ 'f' then some (c.toNat - 'a'.toNat + 10)
  else if 'A' ≤ c ∧ c ≤ 'F' then some (c.toNat - 'A'.toNat + 10)
  else none

/-- A fixed count of hexadecimal digits, as a number on top of `high`. -/
def hexNumber (high : Nat) : Nat → Reader Nat
  | 0, text => some (high, text)
  | _ + 1, [] => none
  | count + 1, c :: rest => do
    let digit ← hexDigit? c
    hexNumber (16 * high + digit) count rest

def digits (text : List Char) : List Char × List Char :=
  (text.takeWhile Char.isDigit, text.dropWhile Char.isDigit)

def digitValue (c : Char) : Nat := c.toNat - '0'.toNat

def valueOfDigits (digits : List Char) : Nat := digits.foldl (fun n c => 10 * n + digitValue c) 0

/-- The number that a text writes with decimal digits, at least one and nothing else. -/
def digitsValue? (text : List Char) : Option Nat :=
  if text.isEmpty || !text.all Char.isDigit then none else some (valueOfDigits text)

/-- The number below `2 ^ 64` that a text writes: digits, with one plus sign in front at most. -/
def word? (text : List Char) : Option UInt64 := do
  let digits := match text with
    | '+' :: rest => rest
    | _ => text
  let n ← digitsValue? digits
  if n < Nat.pow 2 64 then some (UInt64.ofNat n) else none

def decimal (n : Nat) : String := String.ofList (Nat.toDigits 10 n)

end PbrTelemetry.Text
