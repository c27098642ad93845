import Mathlib.Algebra.Ring.Int.Defs
import Mathlib.Tactic.SplitIfs
import PbrTelemetry.Json.Parser
import PbrTelemetry.Proofs.Text.Number

/-!
# Numbers in JSON

An integer is read from one literal only: its digits, with a minus sign if it is negative
(`number_eq_integer_iff`).  All other literals are doubles or no numbers at all, also minus zero and
the integers that do not fit 64 bits.

The text of a double cannot be taken for an integer (`not_writesNumber_renderDouble`): it has a
point, an exponent or a word in it.
-/

namespace PbrTelemetry.Json

open Text (valueOfDigits WritesNumber not_writesNumber_of_mem)

variable {text rest whole : List Char} {n : Int} {tree : Json}

/-! ## The parts of a literal -/

theorem digits_eq_iff {found : List Char} :
    Text.digits text = (found, rest) ↔
      text = found ++ rest ∧ (∀ c ∈ found, c.isDigit = true) ∧
        ∀ c ∈ rest.head?, c.isDigit = false := by
  constructor
  · rintro ⟨⟩
    refine ⟨(List.takeWhile_append_dropWhile).symm,
      List.all_eq_true.mp List.all_takeWhile, ?_⟩
    intro c first
    have stops := List.head?_dropWhile_not Char.isDigit text
    rw [first] at stops
    exact stops
  · rintro ⟨rfl, all, ends⟩
    rw [Text.digits, List.takeWhile_append_of_pos all, List.dropWhile_append_of_pos all]
    cases rest with
    | nil => simp
    | cons c others => simp [ends c rfl]

theorem wholePart_eq_some_iff :
    wholePart text = some (whole, rest) ↔
      text = whole ++ rest ∧ (∃ n, whole = Nat.toDigits 10 n) ∧
        ∀ c ∈ rest.head?, c.isDigit = false := by
  constructor
  · intro read
    rw [wholePart] at read
    split at read
    · cases read
    · next found =>
      cases read
      obtain ⟨split, -, ends⟩ := digits_eq_iff.mp found
      exact ⟨split, ⟨0, rfl⟩, ends⟩
    · cases read
    · next empty _ zero =>
      obtain ⟨split, digits, ends⟩ := digits_eq_iff.mp (Option.some.inj read)
      refine ⟨split, ⟨valueOfDigits whole, ?_⟩, ends⟩
      cases whole with
      | nil => exact absurd (Option.some.inj read) (empty rest)
      | cons c others =>
        refine (Text.toDigits_valueOfDigits digits ?_).symm
        rintro rfl
        exact zero others rest (Option.some.inj read)
  · rintro ⟨rfl, ⟨n, rfl⟩, ends⟩
    have found := digits_eq_iff.mpr ⟨rfl, Text.isDigit_toDigits n, ends⟩
    rw [wholePart, found]
    rcases Nat.eq_zero_or_pos n with rfl | positive
    · rfl
    · obtain ⟨c, others, written, nonzero⟩ := Text.toDigits_head positive
      rw [written]
      split
      · next same => cases same
      · next same => cases same; exact absurd rfl nonzero
      · next same => cases same; exact absurd rfl nonzero
      · rfl

theorem fractionPart_eq_none_iff :
    fractionPart text = some (none, rest) ↔ text = rest ∧ ∀ c ∈ rest.head?, c ≠ '.' := by
  rw [fractionPart.eq_def]
  split
  · next behind =>
    have noEnd : ¬ ('.' :: behind = rest ∧ ∀ c ∈ rest.head?, c ≠ '.') := by
      rintro ⟨rfl, ends⟩
      exact ends '.' rfl rfl
    split
    · simpa using noEnd
    · simpa using noEnd
  · next other =>
    simp only [Option.some.injEq, Prod.mk.injEq, true_and]
    constructor
    · rintro rfl
      refine ⟨rfl, ?_⟩
      rintro c first rfl
      obtain ⟨others, same⟩ := List.head?_eq_some_iff.mp first
      exact other others same
    · exact And.left

theorem exponentPart_eq_none_iff :
    exponentPart text = some (none, rest) ↔
      text = rest ∧ ∀ c ∈ rest.head?, c ≠ 'e' ∧ c ≠ 'E' := by
  cases text with
  | nil =>
    simp only [exponentPart, Option.some.injEq, Prod.mk.injEq, true_and]
    constructor
    · rintro rfl
      simp
    · exact And.left
  | cons c others =>
    rw [exponentPart.eq_def]
    dsimp only
    split
    · next marked =>
      have noEnd : ¬ (c :: others = rest ∧ ∀ c ∈ rest.head?, c ≠ 'e' ∧ c ≠ 'E') := by
        rintro ⟨rfl, ends⟩
        obtain ⟨small, large⟩ := ends c rfl
        exact marked.elim small large
      refine iff_of_false ?_ noEnd
      split <;> simp
    · next plain =>
      rw [not_or] at plain
      simp only [Option.some.injEq, Prod.mk.injEq, true_and]
      constructor
      · rintro rfl
        refine ⟨rfl, ?_⟩
        rintro d ⟨⟩
        exact plain
      · exact And.left

/-! ## Integers -/

theorem numberOfParts_eq_integer_iff {negative : Bool} {fraction : Option (List Char)}
    {exponent : Option Int} :
    numberOfParts negative whole fraction exponent = some (.integer n) ↔
      fraction = none ∧ exponent = none ∧
        (negative = true ∧ n = -(valueOfDigits whole : Int) ∧ n ≠ 0 ∧ -2 ^ 63 ≤ n ∨
          negative = false ∧ n = valueOfDigits whole ∧ n < 2 ^ 64) := by
  have noInteger : ∀ (decimal : Binary64.WordDecimal),
      decimal.toDouble?.map (fun x => Json.double (x.withSign negative)) ≠ some (.integer n) := by
    intro decimal same
    obtain ⟨x, -, same⟩ := Option.map_eq_some_iff.mp same
    cases same
  have half : Nat.pow 2 63 = 9223372036854775808 := rfl
  have full : Nat.pow 2 64 = 18446744073709551616 := rfl
  rw [numberOfParts]
  dsimp only
  cases fraction with
  | some digits => simp [noInteger]
  | none =>
    cases exponent with
    | some value => simp [noInteger]
    | none =>
      cases negative with
      | true =>
        simp only [Option.isNone_none, Bool.and_true, Bool.not_true, Bool.false_eq_true, true_and,
          false_and, and_false, if_false, or_false, reduceCtorEq]
        split
        · next fits =>
          obtain ⟨nonzero, small⟩ := fits
          rw [half] at small
          simp only [Option.some.injEq, Json.integer.injEq]
          omega
        · next large =>
          rw [half] at large
          refine iff_of_false (noInteger _) ?_
          omega
      | false =>
        simp only [Option.isNone_none, Bool.and_true, Bool.not_false, Bool.false_eq_true, true_and,
          false_and, and_false, if_false, false_or]
        split
        · next small =>
          rw [full] at small
          simp only [Option.some.injEq, Json.integer.injEq]
          omega
        · next large =>
          rw [full] at large
          refine iff_of_false (noInteger _) ?_
          omega

/-- Nothing that would continue a number comes first. -/
def EndsNumber (rest : List Char) : Prop :=
  ∀ c ∈ rest.head?, c.isDigit = false ∧ c ≠ '.' ∧ c ≠ 'e' ∧ c ≠ 'E'

def IsSigned (text : List Char) (negative : Bool) (unsigned : List Char) : Prop :=
  text = '-' :: unsigned ∧ negative = true ∨
    text = unsigned ∧ negative = false ∧ ∀ rest, unsigned ≠ '-' :: rest

theorem number_eq_some_iff :
    number text = some (tree, rest) ↔
      ∃ negative unsigned whole after fraction behind exponent, IsSigned text negative unsigned ∧
        wholePart unsigned = some (whole, after) ∧
        fractionPart after = some (fraction, behind) ∧
        exponentPart behind = some (exponent, rest) ∧
        numberOfParts negative whole fraction exponent = some tree := by
  unfold number
  split
  next negative unsigned signed =>
    have found : ∀ sign body, IsSigned text sign body ↔ sign = negative ∧ body = unsigned := by
      intro sign body
      split at signed
      · cases signed
        constructor
        · rintro (⟨same, rfl⟩ | ⟨rfl, -, plain⟩)
          · exact ⟨rfl, (List.cons.inj same).2.symm⟩
          · exact absurd rfl (plain _)
        · rintro ⟨rfl, rfl⟩
          exact .inl ⟨rfl, rfl⟩
      · next plain =>
        cases signed
        constructor
        · rintro (⟨same, -⟩ | ⟨rfl, rfl, -⟩)
          · exact absurd same (plain body)
          · exact ⟨rfl, rfl⟩
        · rintro ⟨rfl, rfl⟩
          exact .inr ⟨rfl, rfl, plain⟩
    simp only [Option.bind_eq_bind, Option.bind_eq_some_iff, Prod.exists, Option.pure_def,
      Option.some.injEq, Prod.mk.injEq, found]
    constructor
    · rintro ⟨whole, after, first, fraction, behind, second, exponent, last, third, value, fourth,
        rfl, rfl⟩
      exact ⟨negative, unsigned, whole, after, fraction, behind, exponent, ⟨rfl, rfl⟩, first,
        second, third, fourth⟩
    · rintro ⟨_, _, whole, after, fraction, behind, exponent, ⟨rfl, rfl⟩, first, second, third,
        fourth⟩
      exact ⟨whole, after, first, fraction, behind, second, exponent, rest, third, tree, fourth,
        rfl, rfl⟩

theorem exists_of_number (read : number text = some (tree, rest)) :
    (∃ n, tree = .integer n) ∨ ∃ x, tree = .double x := by
  obtain ⟨negative, -, whole, -, fraction, -, exponent, -, -, -, -, value⟩ :=
    number_eq_some_iff.mp read
  rw [numberOfParts] at value
  dsimp only at value
  split_ifs at value
  · exact .inl ⟨_, (Option.some.inj value).symm⟩
  · exact .inl ⟨_, (Option.some.inj value).symm⟩
  · obtain ⟨x, -, same⟩ := Option.map_eq_some_iff.mp value
    exact .inr ⟨_, same.symm⟩

theorem toList_renderInteger_natCast (k : Nat) :
    (renderInteger k).toList = Nat.toDigits 10 k :=
  String.toList_ofList

theorem toList_renderInteger_neg {k : Nat} (positive : k ≠ 0) :
    (renderInteger (-(k : Int))).toList = '-' :: Nat.toDigits 10 k := by
  obtain ⟨m, rfl⟩ := Nat.exists_eq_succ_of_ne_zero positive
  exact String.toList_ofList

theorem renderInteger_cases (n : Int) :
    (∃ k : Nat, k ≠ 0 ∧ n = -(k : Int) ∧ (renderInteger n).toList = '-' :: Nat.toDigits 10 k) ∨
      ∃ k : Nat, n = k ∧ (renderInteger n).toList = Nat.toDigits 10 k := by
  rcases Int.lt_or_le n 0 with below | above
  · obtain ⟨k, rfl⟩ : ∃ k : Nat, n = -(k : Int) := ⟨n.natAbs, by omega⟩
    have nonzero : k ≠ 0 := by omega
    exact .inl ⟨k, nonzero, rfl, toList_renderInteger_neg nonzero⟩
  · obtain ⟨k, rfl⟩ : ∃ k : Nat, n = (k : Int) := ⟨n.natAbs, by omega⟩
    exact .inr ⟨k, rfl, toList_renderInteger_natCast k⟩

/-- Digits and a sign are read as an integer that fits 64 bits. -/
theorem number_of_digits {negative : Bool} {k : Nat}
    (signed : IsSigned text negative (Nat.toDigits 10 k ++ rest)) (ends : EndsNumber rest)
    (bounded : negative = true ∧ n = -(k : Int) ∧ n ≠ 0 ∧ -2 ^ 63 ≤ n ∨
      negative = false ∧ n = (k : Int) ∧ n < 2 ^ 64) :
    number text = some (.integer n, rest) := by
  have whole : wholePart (Nat.toDigits 10 k ++ rest) = some (Nat.toDigits 10 k, rest) :=
    wholePart_eq_some_iff.mpr ⟨rfl, ⟨k, rfl⟩, fun c next => (ends c next).1⟩
  have noPoint := fractionPart_eq_none_iff.mpr ⟨rfl, fun c next => (ends c next).2.1⟩
  have noExponent := exponentPart_eq_none_iff.mpr ⟨rfl, fun c next => (ends c next).2.2⟩
  have value : numberOfParts negative (Nat.toDigits 10 k) none none = some (.integer n) := by
    rw [numberOfParts_eq_integer_iff, Text.valueOfDigits_toDigits]
    exact ⟨rfl, rfl, bounded⟩
  exact number_eq_some_iff.mpr
    ⟨negative, _, _, rest, none, rest, none, signed, whole, noPoint, noExponent, value⟩

theorem isSigned_toDigits (k : Nat) (rest : List Char) :
    IsSigned (Nat.toDigits 10 k ++ rest) false (Nat.toDigits 10 k ++ rest) := by
  refine .inr ⟨rfl, rfl, fun behind same => ?_⟩
  obtain ⟨c, others, written, digit⟩ := Text.exists_toDigits k
  rw [written, List.cons_append] at same
  rw [(List.cons.inj same).1] at digit
  cases digit

/-- An integer is read from its own text and from no other literal, and only if it fits 64 bits,
with a sign if it is negative. -/
theorem number_eq_integer_iff :
    number text = some (.integer n, rest) ↔
      text = (renderInteger n).toList ++ rest ∧ -2 ^ 63 ≤ n ∧ n < 2 ^ 64 ∧ EndsNumber rest := by
  constructor
  · intro read
    obtain ⟨negative, unsigned, whole, after, fraction, behind, exponent, signed, first, second,
      third, value⟩ := number_eq_some_iff.mp read
    obtain ⟨rfl, rfl, bounded⟩ := numberOfParts_eq_integer_iff.mp value
    obtain ⟨rfl, noExponent⟩ := exponentPart_eq_none_iff.mp third
    obtain ⟨rfl, noPoint⟩ := fractionPart_eq_none_iff.mp second
    obtain ⟨rfl, ⟨k, rfl⟩, noDigit⟩ := wholePart_eq_some_iff.mp first
    rw [Text.valueOfDigits_toDigits] at bounded
    have ends : EndsNumber after :=
      fun c next => ⟨noDigit c next, noPoint c next, noExponent c next⟩
    rcases bounded with ⟨rfl, rfl, nonzero, least⟩ | ⟨rfl, rfl, greatest⟩
    · rcases signed with ⟨rfl, -⟩ | ⟨-, ⟨⟩, -⟩
      rw [toList_renderInteger_neg (by omega)]
      exact ⟨rfl, least, by omega, ends⟩
    · rcases signed with ⟨-, ⟨⟩⟩ | ⟨rfl, -, -⟩
      rw [toList_renderInteger_natCast]
      exact ⟨rfl, by omega, greatest, ends⟩
  · rintro ⟨rfl, least, greatest, ends⟩
    rcases renderInteger_cases n with ⟨k, nonzero, value, written⟩ | ⟨k, value, written⟩
    · rw [written]
      exact number_of_digits (.inl ⟨rfl, rfl⟩) ends (.inl ⟨rfl, value, by omega, least⟩)
    · rw [written]
      exact number_of_digits (isSigned_toDigits k rest) ends (.inr ⟨rfl, value, greatest⟩)

theorem writesNumber_renderInteger_iff {number : Nat} :
    WritesNumber (renderInteger n).toList number ↔ n = number := by
  rcases renderInteger_cases n with ⟨k, nonzero, value, written⟩ | ⟨k, value, written⟩
  · have noNumber : ¬ WritesNumber ('-' :: Nat.toDigits 10 k) number :=
      not_writesNumber_of_mem List.mem_cons_self (by decide) (by decide) (by decide)
    rw [written]
    exact iff_of_false noNumber (by omega)
  · rw [written, Text.writesNumber_toDigits_iff]
    omega

/-! ## Doubles -/

theorem mem_positional (d : Binary64.Digits) : '.' ∈ d.positional true := by
  rw [Binary64.Digits.positional]
  dsimp only
  split
  · simp
  · split
    · simp
    · simp

theorem mem_scientific (d : Binary64.Digits) : 'e' ∈ d.scientific := by
  have mark : 'e' ∈ if d.point - 1 < 0 then ['e', '-'] else ['e', '+'] := by
    split
    · exact List.mem_cons_self
    · exact List.mem_cons_self
  exact List.mem_append_left _ (List.mem_append_right _ mark)

theorem exists_mark_arrange (d : Binary64.Digits) :
    ∃ c ∈ doubleLayout.arrange d, c ∈ ['.', 'e', 'N', 'i'] := by
  simp only [Binary64.Layout.arrange, doubleLayout]
  split
  · exact ⟨'.', mem_positional d, by simp⟩
  · exact ⟨'e', mem_scientific d, by simp⟩

/-- In the text of a double there is a point, an exponent or a word. -/
theorem exists_mark_renderDouble (x : Binary64) :
    ∃ c ∈ (renderDouble x).toList, c ∈ ['.', 'e', 'N', 'i'] := by
  rw [renderDouble, String.toList_ofList, Binary64.render]
  cases x.magnitude with
  | nan => exact ⟨'N', by simp, by simp⟩
  | infinite => exact ⟨'i', by simp, by simp⟩
  | finite significand exponent =>
    obtain ⟨c, there, mark⟩ := exists_mark_arrange
      (Binary64.shortestDigits doubleLayout.tie significand exponent)
    exact ⟨c, List.mem_append_right _ there, mark⟩

theorem not_writesNumber_renderDouble (x : Binary64) (number : Nat) :
    ¬ WritesNumber (renderDouble x).toList number := by
  obtain ⟨c, there, mark⟩ := exists_mark_renderDouble x
  simp only [List.mem_cons, List.not_mem_nil, or_false] at mark
  rcases mark with rfl | rfl | rfl | rfl <;>
    exact not_writesNumber_of_mem there (by decide) (by decide) (by decide)

end PbrTelemetry.Json
