import Mathlib.Algebra.Group.Nat.Defs
import PbrTelemetry.Wire.Varint

/-!
# Integers are read back

What follows an integer stays behind.  The reader takes every integer below `2 ^ 64`, in any of its
spellings (`IsVarint.readVarint`): after nine bytes of seven bits one bit is left for the tenth.
-/

namespace PbrTelemetry.Wire

theorem toNat_ofNat_of_lt {n : Nat} (small : n < 256) : (UInt8.ofNat n).toNat = n := by
  rw [UInt8.toNat_ofNat']
  omega

/-! ## Variable length -/

theorem writeVarint_of_lt {n : Nat} (last : n < 128) : writeVarint n = [UInt8.ofNat n] := by
  rw [writeVarint, if_pos last]

theorem writeVarint_of_ge {n : Nat} (more : 128 ≤ n) :
    writeVarint n = UInt8.ofNat (n % 128 + 128) :: writeVarint (n / 128) := by
  rw [writeVarint, if_neg (by omega)]

/-- The bytes are digits of the number in base 128, the low one first.  There may be more of them
than it takes. -/
inductive Spells : List UInt8 → Nat → Prop
  | last {byte : UInt8} (unmarked : byte.toNat < 128) : Spells [byte] byte.toNat
  | more {byte : UInt8} {bytes : List UInt8} {high : Nat} (marked : 128 ≤ byte.toNat)
      (others : Spells bytes high) : Spells (byte :: bytes) (byte.toNat - 128 + 128 * high)

structure IsVarint (bytes : List UInt8) (n : Nat) : Prop where
  spells : Spells bytes n
  short : bytes.length ≤ 10
  small : n < 2 ^ 64

theorem IsVarint.byte {byte : UInt8} {n : Nat} (value : byte.toNat = n) (unmarked : n < 128) :
    IsVarint [byte] n := by
  obtain rfl := value
  exact ⟨.last unmarked, by simp, by omega⟩

theorem spells_writeVarint (n : Nat) : Spells (writeVarint n) n := by
  induction n using Nat.strongRecOn with
  | ind n ih =>
    by_cases last : n < 128
    · have byte : (UInt8.ofNat n).toNat = n := toNat_ofNat_of_lt (by omega)
      have spelled : Spells [UInt8.ofNat n] (UInt8.ofNat n).toNat := .last (by omega)
      rw [byte] at spelled
      rwa [writeVarint_of_lt last]
    · have byte : (UInt8.ofNat (n % 128 + 128)).toNat = n % 128 + 128 :=
        toNat_ofNat_of_lt (by omega)
      have digits : n % 128 + 128 - 128 + 128 * (n / 128) = n := by omega
      have spelled : Spells (UInt8.ofNat (n % 128 + 128) :: writeVarint (n / 128))
          ((UInt8.ofNat (n % 128 + 128)).toNat - 128 + 128 * (n / 128)) :=
        .more (by omega) (ih (n / 128) (by omega))
      rw [byte, digits] at spelled
      rwa [writeVarint_of_ge (Nat.le_of_not_lt last)]

theorem two_pow_digit (left : Nat) : 2 ^ (7 * (left + 1) + 1) = 2 ^ (7 * left + 1) * 128 := by
  rw [show 7 * (left + 1) + 1 = 7 * left + 1 + 7 by omega, Nat.pow_add]

theorem length_writeVarint_le (left : Nat) {n : Nat} (small : n < 2 ^ (7 * left + 1)) :
    (writeVarint n).length ≤ left + 1 := by
  induction left generalizing n with
  | zero =>
    rw [writeVarint_of_lt (by omega)]
    simp
  | succ left ih =>
    by_cases last : n < 128
    · rw [writeVarint_of_lt last]
      simp
    · have digit := two_pow_digit left
      have high : n / 128 < 2 ^ (7 * left + 1) := by omega
      rw [writeVarint_of_ge (Nat.le_of_not_lt last), List.length_cons]
      exact Nat.succ_le_succ (ih high)

theorem isVarint_writeVarint {n : Nat} (small : n < 2 ^ 64) : IsVarint (writeVarint n) n :=
  ⟨spells_writeVarint n, length_writeVarint_le 9 small, small⟩

/-- The last byte that may be read holds one bit, and each one before it seven. -/
theorem Spells.readVarintWithin {bytes : List UInt8} {n left : Nat} (spells : Spells bytes n)
    (short : bytes.length ≤ left + 1) (small : n < 2 ^ (7 * left + 1)) (rest : List UInt8) :
    readVarintWithin (left + 1) (bytes ++ rest) = some (n, rest) := by
  induction spells generalizing left with
  | @last byte unmarked =>
    rw [List.singleton_append, Wire.readVarintWithin, if_pos unmarked, if_neg]
    rintro ⟨rfl, large⟩
    omega
  | @more byte bytes high marked others ih =>
    cases left with
    | zero =>
      -- No byte is left for the other digits
      cases others <;> simp at short
    | succ left =>
      have digit := two_pow_digit left
      have fits : high < 2 ^ (7 * left + 1) := by omega
      rw [List.cons_append, Wire.readVarintWithin, if_neg (by omega),
        ih (Nat.le_of_succ_le_succ short) fits]
      rfl

theorem IsVarint.readVarint {bytes : List UInt8} {n : Nat} (spelled : IsVarint bytes n)
    (rest : List UInt8) : readVarint (bytes ++ rest) = some (n, rest) :=
  spelled.spells.readVarintWithin spelled.short spelled.small rest

theorem readVarint_writeVarint {n : Nat} (small : n < 2 ^ 64) (rest : List UInt8) :
    readVarint (writeVarint n ++ rest) = some (n, rest) :=
  (isVarint_writeVarint small).readVarint rest

/-! ## Fixed length -/

theorem readLittleEndian_writeLittleEndian (count : Nat) {n : Nat} (small : n < 256 ^ count)
    (rest : List UInt8) :
    readLittleEndian count (writeLittleEndian count n ++ rest) = some (n, rest) := by
  induction count generalizing n with
  | zero =>
    have zero : n = 0 := by omega
    rw [zero]
    rfl
  | succ count ih =>
    have high : n / 256 < 256 ^ count := by
      rw [Nat.div_lt_iff_lt_mul (by omega), ← Nat.pow_succ]
      exact small
    have digits : n % 256 + 256 * (n / 256) = n := by omega
    simp only [writeLittleEndian, List.cons_append, readLittleEndian, ih high, Option.map_some,
      UInt8.toNat_ofNat', digits]

end PbrTelemetry.Wire
