import PbrTelemetry.Binary64.Shortest

/-!
# Writing doubles

The shortest digits of a double are laid out by a `Layout`: which numbers are written
positionally, whether a whole number keeps a fraction, and how the exponent of the others looks.
-/

namespace PbrTelemetry.Binary64

structure Layout where
  /-- Which of two equally near shortest decimals is written. -/
  tie : Tie
  /-- The least and the greatest decimal exponent that are written positionally; without it all
  numbers are. -/
  positional : Option (Int × Int)
  /-- Whether a whole number is written with one zero after the point. -/
  keepsFraction : Bool
  deriving DecidableEq, Repr

def Digits.positional (d : Digits) (keepsFraction : Bool) : List Char :=
  let text := Nat.toDigits 10 d.digits
  if d.point ≤ 0 then
    '0' :: '.' :: List.replicate (-d.point).toNat '0' ++ text
  else
    let whole := d.point.toNat
    let fraction := text.drop whole
    let tail :=
      if fraction.isEmpty then (if keepsFraction then ['.', '0'] else []) else '.' :: fraction
    text.take whole ++ List.replicate (whole - text.length) '0' ++ tail

def Digits.scientific (d : Digits) : List Char :=
  let exponent := d.point - 1
  let mark := if exponent < 0 then ['e', '-'] else ['e', '+']
  let mantissa :=
    match Nat.toDigits 10 d.digits with
    | [] => []
    | [digit] => [digit]
    | digit :: rest => digit :: '.' :: rest
  mantissa ++ mark ++ Nat.toDigits 10 exponent.natAbs

def Layout.arrange (style : Layout) (d : Digits) : List Char :=
  match style.positional with
  | none => d.positional style.keepsFraction
  | some (least, greatest) =>
    if least ≤ d.point - 1 ∧ d.point - 1 ≤ greatest then d.positional style.keepsFraction
    else d.scientific

def render (style : Layout) (x : Binary64) : List Char :=
  match x.magnitude with
  | .nan => ['N', 'a', 'N']
  | .infinite => (if x.isNegative then ['-'] else []) ++ ['i', 'n', 'f']
  | .finite significand exponent =>
    (if x.isNegative then ['-'] else [])
      ++ style.arrange (shortestDigits style.tie significand exponent)

end PbrTelemetry.Binary64
