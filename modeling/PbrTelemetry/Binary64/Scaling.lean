import PbrTelemetry.Binary64

/-!
# Scaling doubles by powers of ten

`Binary64.scaleByTen` multiplies a double by a power of ten in the arithmetic of doubles: the power
is rounded to a double, and so is the product or the quotient.  The result can be a neighbour of the
nearest double, unlike that of `Binary64.ofDecimal`.

`Binary64.WordDecimal` collects the digits of a decimal in a word of 64 bits, which is what there is
to be scaled.
-/

namespace PbrTelemetry.Binary64

/-! ## Products and quotients -/

def toFraction (x : Binary64) : Nat × Nat :=
  match x.magnitude with
  | .finite significand exponent =>
    (significand * Nat.pow 2 exponent.toNat, Nat.pow 2 (-exponent).toNat)
  | .infinite | .nan => (0, 1)

def times? (x y : Binary64) : Option Binary64 :=
  ofQuotient false (x.toFraction.1 * y.toFraction.1) (x.toFraction.2 * y.toFraction.2)

def over? (x y : Binary64) : Option Binary64 :=
  ofQuotient false (x.toFraction.1 * y.toFraction.2) (x.toFraction.2 * y.toFraction.1)

/-! ## Powers of ten -/

def greatestPower : Nat := 308

def powerOfTen (exponent : Nat) : Binary64 := (ofQuotient false (Nat.pow 10 exponent) 1).getD ⟨0⟩

/-- A double without sign times a power of ten, or nothing if that is beyond the largest finite
double.  What the greatest power cannot reach in one division takes several, until nothing is
left of the value. -/
def scaleByTen (value : Binary64) (exponent : Int) : Option Binary64 :=
  if exponent.natAbs ≤ greatestPower then
    if 0 ≤ exponent then value.times? (powerOfTen exponent.natAbs)
    else value.over? (powerOfTen exponent.natAbs)
  else if value.bits = 0 then some value
  else if 0 ≤ exponent then none
  else (value.over? (powerOfTen greatestPower)).bind fun value =>
    scaleByTen value (exponent + greatestPower)
termination_by exponent.natAbs
decreasing_by
  unfold greatestPower at *
  omega

/-! ## Decimals in a word -/

/-- The leading digits of a decimal as far as a word of 64 bits holds them, times a power of
ten. -/
structure WordDecimal where
  significand : Nat := 0
  exponent : Int := 0
  isFull : Bool := false
  deriving DecidableEq, Repr

namespace WordDecimal

def wordSize : Nat := Nat.pow 2 64

/-- Take a digit before the point.  After the first one that does not fit, digits count for the
power of ten only. -/
def takeWhole (d : WordDecimal) (digit : Nat) : WordDecimal :=
  if !d.isFull && d.significand * 10 + digit < wordSize then
    { d with significand := d.significand * 10 + digit }
  else { d with exponent := d.exponent + 1, isFull := true }

/-- Take a digit after the point.  After the first one that does not fit, digits do not count. -/
def takeFraction (d : WordDecimal) (digit : Nat) : WordDecimal :=
  if !d.isFull && d.significand * 10 + digit < wordSize then
    { d with significand := d.significand * 10 + digit, exponent := d.exponent - 1 }
  else { d with isFull := true }

/-- The decimal with the given digits before and after the point.  The fraction is tried even if
digits before the point did not fit, since a smaller digit may. -/
def ofDigits (whole fraction : List Nat) : WordDecimal :=
  fraction.foldl takeFraction { whole.foldl takeWhole {} with isFull := false }

def toDouble? (d : WordDecimal) : Option Binary64 :=
  (ofQuotient false d.significand 1).bind fun value => value.scaleByTen d.exponent

end WordDecimal

def withSign (negative : Bool) (x : Binary64) : Binary64 :=
  if negative then ⟨x.bits ||| 0x8000000000000000⟩ else x

end PbrTelemetry.Binary64
