/-!
# Variable-length integers

A natural number is written in base 128, the low digit first, one digit to a byte; the high bit of
a byte says that another one follows.  The reader takes at most ten bytes and at most 64 bits, and
does not ask for the shortest form.
-/

namespace PbrTelemetry.Wire

def writeVarint (n : Nat) : List UInt8 :=
  if n < 128 then [UInt8.ofNat n]
  else UInt8.ofNat (n % 128 + 128) :: writeVarint (n / 128)
termination_by n
decreasing_by omega

/-- Read a number of at most `left` bytes.  The last byte of the longest form holds one bit. -/
def readVarintWithin : Nat → List UInt8 → Option (Nat × List UInt8)
  | 0, _ => none
  | _, [] => none
  | left + 1, byte :: rest =>
    if byte.toNat < 128 then
      if left = 0 ∧ 2 ≤ byte.toNat then none else some (byte.toNat, rest)
    else
      (readVarintWithin left rest).map fun (high, rest) => (byte.toNat - 128 + 128 * high, rest)

def readVarint (bytes : List UInt8) : Option (Nat × List UInt8) := readVarintWithin 10 bytes

/-- Write the low `count` bytes of a number, the lowest first. -/
def writeLittleEndian : Nat → Nat → List UInt8
  | 0, _ => []
  | count + 1, n => UInt8.ofNat n :: writeLittleEndian count (n / 256)

def readLittleEndian : Nat → List UInt8 → Option (Nat × List UInt8)
  | 0, bytes => some (0, bytes)
  | _ + 1, [] => none
  | count + 1, byte :: rest =>
    (readLittleEndian count rest).map fun (high, rest) => (byte.toNat + 256 * high, rest)

end PbrTelemetry.Wire
