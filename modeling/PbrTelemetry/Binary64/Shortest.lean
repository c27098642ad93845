import PbrTelemetry.Binary64

/-!
# The shortest decimal of a double

A finite double owns an interval of numbers: those that round to it.  Its shortest decimal has the
fewest significant digits of all decimals in that interval, and among those it is the nearest to
the double.

For each digit count the decimals of that count form a grid around the value, and only the two
grid points next to the value can be the nearest in the interval, so it is enough to test those
two, for one digit, two digits, and so on.  Seventeen digits always suffice.
-/

namespace PbrTelemetry.Binary64

inductive Tie where
  | toEven
  | up
  deriving DecidableEq, Repr

/-- A decimal number `0.d₁d₂… · 10 ^ point` with the given significant digits. -/
structure Digits where
  digits : Nat
  point : Int
  deriving DecidableEq, Repr

/-- The numbers that round to a double, as fractions over a common denominator. -/
structure RoundingInterval where
  value : Nat
  lower : Nat
  upper : Nat
  denominator : Nat
  closed : Bool

/-- The rounding interval of `significand · 2 ^ exponent`.  The gap below a power of two is half
the gap above it, and the ends round to an even significand. -/
def roundingInterval (significand : Nat) (exponent : Int) : RoundingInterval :=
  let scale := Nat.pow 2 (exponent - 2).toNat
  let below := if significand = Nat.pow 2 52 ∧ -1074 < exponent then 1 else 2
  { value := 4 * significand * scale
    lower := (4 * significand - below) * scale
    upper := (4 * significand + 2) * scale
    denominator := Nat.pow 2 (2 - exponent).toNat
    closed := significand % 2 = 0 }

def RoundingInterval.contains (interval : RoundingInterval) (digits : Nat) (exponent : Int) :
    Bool :=
  let point := digits * Nat.pow 10 exponent.toNat * interval.denominator
  let scale := Nat.pow 10 (-exponent).toNat
  if interval.closed then interval.lower * scale ≤ point ∧ point ≤ interval.upper * scale
  else interval.lower * scale < point ∧ point < interval.upper * scale

/-- How many digits stand before the decimal point of a positive fraction: zero for numbers in
`[0.1, 1)`, and less for smaller ones. -/
def decimalPoint (num den : Nat) : Int :=
  let guess : Int := (decimalLength num : Int) - decimalLength den
  if den * Nat.pow 10 guess.toNat ≤ num * Nat.pow 10 (-guess).toNat then guess + 1 else guess

def stripZeros : Nat → Nat → Nat
  | 0, n => n
  | fuel + 1, n => if n % 10 = 0 ∧ n ≠ 0 then stripZeros fuel (n / 10) else n

/-- The grid point with `count` digits that is in the interval and nearest to the value. -/
def RoundingInterval.nearest? (interval : RoundingInterval) (tie : Tie) (count : Nat) :
    Option Digits :=
  let point := decimalPoint interval.value interval.denominator
  let exponent := point - count
  let num := interval.value * Nat.pow 10 (-exponent).toNat
  let den := interval.denominator * Nat.pow 10 exponent.toNat
  let low := num / den
  let twice := 2 * (num % den)
  let lowIn := interval.contains low exponent
  let highIn := interval.contains (low + 1) exponent
  let lowNearer := twice < den ∨ (twice = den ∧ tie = .toEven ∧ low % 2 = 0)
  let chosen : Option Nat :=
    if lowIn ∧ (lowNearer ∨ !highIn) then some low
    else if highIn then some (low + 1)
    else none
  chosen.map fun digits =>
    { digits := stripZeros 17 digits
      point := exponent + decimalLength digits }

/-- The first digit count, of `fuel` counts from `count` on, at which the grid meets the
interval. -/
def RoundingInterval.shortestFrom (interval : RoundingInterval) (tie : Tie) :
    Nat → Nat → Digits
  | 0, _ => ⟨0, 0⟩
  | fuel + 1, count =>
    match interval.nearest? tie count with
    | some found => found
    | none => interval.shortestFrom tie fuel (count + 1)

def shortestDigits (tie : Tie) (significand : Nat) (exponent : Int) : Digits :=
  if significand = 0 then ⟨0, 1⟩
  else (roundingInterval significand exponent).shortestFrom tie 17 1

end PbrTelemetry.Binary64
