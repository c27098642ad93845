import Mathlib.Algebra.Group.Nat.Defs
import PbrTelemetry.Proofs.Text.Number
import PbrTelemetry.Toml.Parser

/-!
# Numbers are read back

A natural number in front of a line break is read back as long as it fits 63 bits
(`value_toDigits`).  It is not mistaken for a time, which has marks between its digits, nor for a
float, which has a fraction or an exponent.
-/

namespace PbrTelemetry.Toml

open Text (valueOfDigits valueOfDigits_toDigits isDigit_toDigits exists_toDigits toDigits_head)

variable {n : Nat} {digits rest : List Char}

/-! ## No time -/

theorem boundedNumber_digits {count least greatest found : Nat} {behind : List Char}
    (allDigits : ∀ c ∈ digits, c.isDigit = true)
    (read : boundedNumber count least greatest (digits ++ '\n' :: rest) = some (found, behind)) :
    ∃ others, (∀ c ∈ others, c.isDigit = true) ∧ behind = others ++ '\n' :: rest := by
  simp only [boundedNumber] at read
  split at read
  · next taken =>
    cases read
    obtain ⟨-, all, -⟩ := taken
    -- The line break is no digit, so it was not reached
    have within : count ≤ digits.length := by
      refine Nat.le_of_not_lt fun beyond => ?_
      obtain ⟨extra, more⟩ := Nat.exists_eq_add_of_lt beyond
      have reached : '\n' ∈ (digits ++ '\n' :: rest).take count := by
        rw [List.take_append, show count - digits.length = extra + 1 by omega, List.take_succ_cons]
        simp
      exact absurd (List.all_eq_true.mp all _ reached) (by decide)
    refine ⟨digits.drop count, fun c member => allDigits c (List.mem_of_mem_drop member), ?_⟩
    exact List.drop_append_of_le_length within
  · cases read

theorem oneOf?_digits {marks : List Char} (allDigits : ∀ c ∈ digits, c.isDigit = true)
    (apart : ∀ c ∈ marks, c.isDigit = false ∧ c ≠ '\n') :
    oneOf? marks (digits ++ '\n' :: rest) = none := by
  have unmarked (c : Char) (others : List Char) (other : c.isDigit = true ∨ c = '\n') :
      oneOf? marks (c :: others) = none := by
    rw [oneOf?, if_neg]
    intro member
    obtain ⟨noDigit, noBreak⟩ := apart c (by simpa using member)
    rcases other with digit | same
    · rw [digit] at noDigit
      cases noDigit
    · exact noBreak same
  cases digits with
  | nil => exact unmarked _ _ (.inr rfl)
  | cons c digits => exact unmarked _ _ (.inl (allDigits c List.mem_cons_self))

theorem datetime?_digits (allDigits : ∀ c ∈ digits, c.isDigit = true) :
    datetime? (digits ++ '\n' :: rest) = none := by
  have noDate : date? (digits ++ '\n' :: rest) = none := by
    rw [date?]
    cases year : boundedNumber 4 0 9999 (digits ++ '\n' :: rest) with
    | none => rfl
    | some found =>
      obtain ⟨others, digits, same⟩ := boundedNumber_digits allDigits year
      simp only [Option.bind_eq_bind, Option.bind_some, same]
      rw [oneOf?_digits digits (by simp)]
      rfl
  have noTime : time? (digits ++ '\n' :: rest) = none := by
    rw [time?]
    cases hour : boundedNumber 2 0 23 (digits ++ '\n' :: rest) with
    | none => rfl
    | some found =>
      obtain ⟨others, digits, same⟩ := boundedNumber_digits allDigits hour
      simp only [Option.bind_eq_bind, Option.bind_some, same]
      rw [oneOf?_digits digits (by simp)]
      rfl
  rw [datetime?, noDate, noTime]

/-! ## Integers -/

theorem groupedDigits_more (allDigits : ∀ c ∈ digits, c.isDigit = true) :
    groupedDigits.more Char.isDigit (digits ++ '\n' :: rest) = (digits, '\n' :: rest) := by
  induction digits with
  | nil => simp [groupedDigits.more]
  | cons c digits ih =>
    obtain ⟨first, others⟩ := List.forall_mem_cons.mp allDigits
    rw [List.cons_append, groupedDigits.more, if_pos first, ih others]
    rintro d more rfl
    cases first

theorem wholePart_toDigits (n : Nat) (rest : List Char) :
    wholePart (Nat.toDigits 10 n ++ '\n' :: rest) = some (Nat.toDigits 10 n, '\n' :: rest) := by
  rcases Nat.eq_zero_or_pos n with rfl | positive
  · rfl
  · have allDigits := isDigit_toDigits n
    obtain ⟨c, others, written, nonzero⟩ := toDigits_head positive
    rw [written] at allDigits ⊢
    obtain ⟨first, digits⟩ := List.forall_mem_cons.mp allDigits
    rw [List.cons_append, wholePart, groupedDigits, if_pos first, groupedDigits_more digits]
    rintro more ⟨⟩
    exact nonzero rfl

theorem sign_of_isDigit {c : Char} (digit : c.isDigit = true) :
    sign (c :: rest) = (false, c :: rest) := by
  rw [sign]
  · rintro more ⟨⟩
    cases digit
  · rintro more ⟨⟩
    cases digit

theorem sign_toDigits (n : Nat) (rest : List Char) :
    sign (Nat.toDigits 10 n ++ rest) = (false, Nat.toDigits 10 n ++ rest) := by
  obtain ⟨c, others, written, digit⟩ := exists_toDigits n
  rw [written]
  exact sign_of_isDigit digit

theorem decimalFloat_toDigits (n : Nat) (rest : List Char) :
    decimalFloat (Nat.toDigits 10 n ++ '\n' :: rest) = none := by
  rw [decimalFloat, sign_toDigits]
  simp only [wholePart_toDigits, Option.bind_eq_bind, Option.bind_some]
  rfl

theorem wordFloat_toDigits (n : Nat) (rest : List Char) :
    wordFloat (Nat.toDigits 10 n ++ rest) = none := by
  rw [wordFloat, sign_toDigits]
  obtain ⟨c, others, written, digit⟩ := exists_toDigits n
  rw [written, List.cons_append]
  split
  · next same =>
    rw [(List.cons.inj same).1] at digit
    cases digit
  · next same =>
    rw [(List.cons.inj same).1] at digit
    cases digit
  · rfl

theorem integer_toDigits (fits : n < 2 ^ 63) (rest : List Char) :
    integer (Nat.toDigits 10 n ++ '\n' :: rest) = some (.integer n, '\n' :: rest) := by
  -- Only zero starts with a zero, and nothing but the line break follows it
  have unbased : ∀ mark more, Nat.toDigits 10 n ++ '\n' :: rest = '0' :: mark :: more →
      mark = '\n' := by
    intro mark more same
    rcases Nat.eq_zero_or_pos n with rfl | positive
    · exact (List.cons.inj (List.cons.inj same).2).1.symm
    · obtain ⟨c, others, written, nonzero⟩ := toDigits_head positive
      rw [written] at same
      exact absurd (List.cons.inj same).1 nonzero
  rw [integer, sign_toDigits]
  · simp only [wholePart_toDigits, Option.bind_eq_bind, Option.bind_some, valueOfDigits_toDigits,
      Bool.false_eq_true, if_false]
    exact if_pos fits
  · exact fun _ same => absurd (unbased _ _ same) (by decide)
  · exact fun _ same => absurd (unbased _ _ same) (by decide)
  · exact fun _ same => absurd (unbased _ _ same) (by decide)

/-! ## Values -/

theorem value_of_isDigit {c : Char} (digit : c.isDigit = true) (depth : Nat) :
    value depth (c :: rest) = numberOrTime (c :: rest) := by
  have other : ∀ mark : Char, mark.isDigit = false → c ≠ mark := by
    rintro mark noDigit rfl
    rw [digit] at noDigit
    cases noDigit
  rw [value.eq_def]
  split <;> first | rfl | exact absurd (List.cons.inj ‹_›).1 (other _ (by decide))

theorem value_toDigits (fits : n < 2 ^ 63) (depth : Nat) (rest : List Char) :
    value depth (Nat.toDigits 10 n ++ '\n' :: rest) = some (.integer n, '\n' :: rest) := by
  obtain ⟨c, others, written, digit⟩ := exists_toDigits n
  have number : value depth (Nat.toDigits 10 n ++ '\n' :: rest)
      = numberOrTime (Nat.toDigits 10 n ++ '\n' :: rest) := by
    rw [written]
    exact value_of_isDigit digit depth
  rw [number, numberOrTime, datetime?_digits (isDigit_toDigits n), decimalFloat_toDigits,
    wordFloat_toDigits, integer_toDigits fits]

end PbrTelemetry.Toml
