/-!
# Lengths of time

Whole nanoseconds, and their text in the largest unit that is not longer than the time.
-/

namespace PbrTelemetry

structure Duration where
  nanos : Nat
  deriving DecidableEq, Repr, Inhabited

namespace Duration

def ofSeconds (n : Nat) : Duration := ⟨n * 1000000000⟩

def ofMillis (n : Nat) : Duration := ⟨n * 1000000⟩

/-- A number of `unit`s of `10 ^ places` parts each, with the parts as a fraction without trailing
zeros. -/
def renderIn (unit : List Char) (places amount : Nat) : List Char :=
  let whole := Nat.toDigits 10 (amount / Nat.pow 10 places)
  let part := Nat.toDigits 10 (amount % Nat.pow 10 places)
  let padded := List.replicate (places - part.length) '0' ++ part
  let fraction := (padded.reverse.dropWhile (· = '0')).reverse
  whole ++ (if fraction.isEmpty ∨ places = 0 then [] else '.' :: fraction) ++ unit

def render (d : Duration) : String :=
  String.ofList <|
    if 1000000000 ≤ d.nanos then renderIn ['s'] 9 d.nanos
    else if 1000000 ≤ d.nanos then renderIn ['m', 's'] 6 d.nanos
    else if 1000 ≤ d.nanos then renderIn ['µ', 's'] 3 d.nanos
    else renderIn ['n', 's'] 0 d.nanos

end Duration

end PbrTelemetry
