/-!
# Double-precision numbers

A `Binary64` is the 64-bit pattern of a double: one sign bit, eleven exponent bits and 52 fraction
bits.  Equality is equality of the patterns, so the two zeros differ and every not-a-number
pattern is itself.

`Binary64.magnitude` gives the exact value of a finite pattern as `significand · 2 ^ exponent`,
and `Binary64.ofDecimal` is the inverse direction: the pattern nearest to a decimal number, in
exact integer arithmetic, with ties to the even significand.
-/

namespace PbrTelemetry

/-- A double, given by its bit pattern. -/
structure Binary64 where
  bits : UInt64
  deriving DecidableEq, Repr, Inhabited

namespace Binary64

inductive Magnitude where
  /-- The number `significand · 2 ^ exponent`. -/
  | finite (significand : Nat) (exponent : Int)
  | infinite
  | nan
  deriving DecidableEq, Repr

def isNegative (x : Binary64) : Bool := Nat.pow 2 63 ≤ x.bits.toNat

/-- The value of a pattern without its sign.  An exponent field of zero has no implicit leading
bit. -/
def magnitude (x : Binary64) : Magnitude :=
  let fraction : Nat := x.bits.toNat % Nat.pow 2 52
  let field : Nat := x.bits.toNat / Nat.pow 2 52 % Nat.pow 2 11
  if field = Nat.pow 2 11 - 1 then
    if fraction = 0 then .infinite else .nan
  else if field = 0 then .finite fraction (-1074)
  else .finite (Nat.pow 2 52 + fraction) ((field : Int) - 1075)

/-- The pattern of `significand · 2 ^ exponent` for a significand below `2 ^ 53` that is at least
`2 ^ 52` or has the least exponent. -/
def ofParts (negative : Bool) (significand : Nat) (exponent : Int) : Binary64 :=
  let sign := if negative then Nat.pow 2 63 else 0
  let body :=
    if significand < Nat.pow 2 52 then significand
    else (exponent + 1075).toNat * Nat.pow 2 52 + (significand - Nat.pow 2 52)
  ⟨UInt64.ofNat (sign + body)⟩

/-- The quotient of two natural numbers rounded to the nearest, with ties to the even one. -/
def roundQuotient (num den : Nat) : Nat :=
  let quotient := num / den
  let twice := 2 * (num % den)
  if twice < den then quotient
  else if den < twice then quotient + 1
  else if quotient % 2 = 0 then quotient else quotient + 1

def log2Quotient (num den : Nat) : Int :=
  let guess : Int := (num.log2 : Int) - den.log2
  let fits :=
    if 0 ≤ guess then den * Nat.pow 2 guess.toNat ≤ num
    else den ≤ num * Nat.pow 2 (-guess).toNat
  if fits then guess else guess - 1

/-- The finite pattern nearest to `num / den`, or nothing if that rounds beyond the largest finite
number. -/
def ofQuotient (negative : Bool) (num den : Nat) : Option Binary64 :=
  if num = 0 then some (ofParts negative 0 (-1074))
  else
    let exponent := max (log2Quotient num den - 52) (-1074)
    let rounded :=
      if 0 ≤ exponent then roundQuotient num (den * Nat.pow 2 exponent.toNat)
      else roundQuotient (num * Nat.pow 2 (-exponent).toNat) den
    let (significand, exponent) :=
      if rounded = Nat.pow 2 53 then (Nat.pow 2 52, exponent + 1) else (rounded, exponent)
    if 971 < exponent then none else some (ofParts negative significand exponent)

def decimalLength (n : Nat) : Nat := (Nat.toDigits 10 n).length

/-- The finite pattern nearest to `digits · 10 ^ exponent`, or nothing on overflow.  Numbers far
outside the range are decided by their order of magnitude alone, so a huge exponent costs
nothing. -/
def ofDecimal (negative : Bool) (digits : Nat) (exponent : Int) : Option Binary64 :=
  let order := (decimalLength digits : Int) + exponent
  if digits = 0 then ofQuotient negative 0 1
  else if 310 < order then none
  else if order < -330 then ofQuotient negative 0 1
  else if 0 ≤ exponent then ofQuotient negative (digits * Nat.pow 10 exponent.toNat) 1
  else ofQuotient negative digits (Nat.pow 10 (-exponent).toNat)

end Binary64

end PbrTelemetry
