import PbrTelemetry.Text.Blank
import PbrTelemetry.Text.Reader

/-!
# Numbers in text

Digits without a zero in front are the digits of the number that they write
(`toDigits_valueOfDigits`), so a number has one text of this form.

A number below `2 ^ 64` may be read from more texts than that one: leading zeros, one plus sign and
blanks at both ends do not count.  `WritesNumber` says which texts these are, and
`word?_trim_eq_some_iff` that no others are read and that nothing is lost.
-/

namespace PbrTelemetry.Text

variable {c : Char} {text : List Char} {n : Nat} {word : UInt64}

/-! ## Digits -/

theorem isDigit_toDigits (n : Nat) : ∀ c ∈ Nat.toDigits 10 n, c.isDigit = true :=
  fun _ member => Nat.isDigit_of_mem_toDigits (by omega) (by omega) member

theorem exists_toDigits (n : Nat) :
    ∃ c others, Nat.toDigits 10 n = c :: others ∧ c.isDigit = true := by
  obtain ⟨c, others, written⟩ := List.exists_cons_of_ne_nil (Nat.toDigits_ne_nil (b := 10) (n := n))
  exact ⟨c, others, written, isDigit_toDigits n c (by simp [written])⟩

theorem toDigits_head (positive : 0 < n) :
    ∃ c others, Nat.toDigits 10 n = c :: others ∧ c ≠ '0' := by
  induction n using Nat.strongRecOn with
  | ind n ih =>
    rw [Nat.toDigits_eq_if (by omega)]
    split
    · next small =>
      refine ⟨_, [], rfl, ?_⟩
      have digits : ∀ n < 10, 0 < n → n.digitChar ≠ '0' := by decide
      exact digits n small positive
    · obtain ⟨c, others, written, nonzero⟩ := ih (n / 10) (by omega) (by omega)
      exact ⟨c, _, by rw [written]; rfl, nonzero⟩

theorem valueOfDigits_toDigits (n : Nat) : valueOfDigits (Nat.toDigits 10 n) = n :=
  Nat.ofDigitChars_ten_toDigits

theorem isDigit_iff : c.isDigit = true ↔ 48 ≤ c.toNat ∧ c.toNat ≤ 57 := by
  simp only [Char.isDigit, Bool.and_eq_true, decide_eq_true_eq]
  exact Iff.rfl

theorem digitValue_lt (digit : c.isDigit = true) : digitValue c < 10 := by
  obtain ⟨-, high⟩ := isDigit_iff.mp digit
  have zero : '0'.toNat = 48 := rfl
  rw [digitValue]
  omega

theorem digitChar_digitValue (digit : c.isDigit = true) : (digitValue c).digitChar = c := by
  have code : ∀ value < 10, value.digitChar.toNat = 48 + value := by decide
  obtain ⟨low, -⟩ := isDigit_iff.mp digit
  have zero : '0'.toNat = 48 := rfl
  apply Char.toNat_inj.mp
  rw [code _ (digitValue_lt digit), digitValue]
  omega

/-- Digits behind a positive number make a larger number of them all. -/
theorem toDigits_append (positive : 0 < n) (digits : ∀ c ∈ text, c.isDigit = true) :
    Nat.toDigits 10 n ++ text
      = Nat.toDigits 10 (text.foldl (fun n c => 10 * n + digitValue c) n) := by
  induction text generalizing n with
  | nil => simp
  | cons c rest ih =>
    obtain ⟨first, others⟩ := List.forall_mem_cons.mp digits
    have small := digitValue_lt first
    have joined := Nat.toDigits_append_toDigits (b := 10) (by omega) positive small
    rw [Nat.toDigits_of_lt_base small, digitChar_digitValue first] at joined
    calc Nat.toDigits 10 n ++ c :: rest
      _ = (Nat.toDigits 10 n ++ [c]) ++ rest := by simp
      _ = Nat.toDigits 10 (10 * n + digitValue c) ++ rest := by rw [joined]
      _ = Nat.toDigits 10 (rest.foldl (fun n c => 10 * n + digitValue c) (10 * n + digitValue c)) :=
        ih (by omega) others

/-- Digits without a zero in front are the digits of the number that they write. -/
theorem toDigits_valueOfDigits (digits : ∀ d ∈ c :: text, d.isDigit = true) (nonzero : c ≠ '0') :
    Nat.toDigits 10 (valueOfDigits (c :: text)) = c :: text := by
  obtain ⟨first, others⟩ := List.forall_mem_cons.mp digits
  have itself := digitChar_digitValue first
  have positive : 0 < digitValue c := by
    apply Nat.pos_of_ne_zero
    intro zero
    rw [zero] at itself
    exact nonzero itself.symm
  have single : Nat.toDigits 10 (digitValue c) = [c] := by
    rw [Nat.toDigits_of_lt_base (digitValue_lt first), itself]
  have joined := toDigits_append positive others
  rw [single, List.singleton_append] at joined
  rw [valueOfDigits, List.foldl_cons, Nat.mul_zero, Nat.zero_add, ← joined]

/-! ## Blanks -/

theorem isBlank_of_isDigit (digit : c.isDigit = true) : isBlank c = false := by
  obtain ⟨above, below⟩ := isDigit_iff.mp digit
  simp only [isBlank, blankRanges, List.any_eq_false, Bool.and_eq_true, decide_eq_true_eq]
  intro range member
  simp only [List.mem_cons, List.not_mem_nil, or_false] at member
  -- No range of blanks meets the digits
  rcases member with rfl | rfl | rfl | rfl | rfl | rfl | rfl | rfl | rfl | rfl <;> simp <;> omega

theorem exists_trim (text : List Char) :
    ∃ before after, text = before ++ trim text ++ after ∧ (∀ c ∈ before, isBlank c = true) ∧
      ∀ c ∈ after, isBlank c = true := by
  refine ⟨text.takeWhile isBlank,
    ((text.dropWhile isBlank).reverse.takeWhile isBlank).reverse, ?_, ?_, ?_⟩
  · have back : trim text ++ ((text.dropWhile isBlank).reverse.takeWhile isBlank).reverse
        = text.dropWhile isBlank := by
      rw [trim, ← List.reverse_append, List.takeWhile_append_dropWhile, List.reverse_reverse]
    rw [List.append_assoc, back, List.takeWhile_append_dropWhile]
  · exact fun c member => List.all_eq_true.mp List.all_takeWhile c member
  · exact fun c member => List.all_eq_true.mp List.all_takeWhile c (List.mem_reverse.mp member)

theorem dropWhile_isBlank {blanks after : List Char} (blank : ∀ c ∈ blanks, isBlank c = true)
    (filled : text ≠ []) (visible : ∀ c ∈ text, isBlank c = false) :
    (blanks ++ text ++ after).dropWhile isBlank = text ++ after := by
  rw [List.append_assoc, List.dropWhile_append_of_pos blank]
  obtain ⟨c, rest, rfl⟩ := List.exists_cons_of_ne_nil filled
  have first := visible c List.mem_cons_self
  simp [first]

theorem trim_padded {before after : List Char} (blankBefore : ∀ c ∈ before, isBlank c = true)
    (blankAfter : ∀ c ∈ after, isBlank c = true) (filled : text ≠ [])
    (visible : ∀ c ∈ text, isBlank c = false) : trim (before ++ text ++ after) = text := by
  have back : (after.reverse ++ text.reverse ++ []).dropWhile isBlank = text.reverse ++ [] :=
    dropWhile_isBlank (fun c member => blankAfter c (List.mem_reverse.mp member))
      (by simpa using filled) (fun c member => visible c (List.mem_reverse.mp member))
  rw [List.append_nil, List.append_nil] at back
  rw [trim, dropWhile_isBlank blankBefore filled visible, List.reverse_append, back,
    List.reverse_reverse]

/-! ## Numbers of 64 bits -/

theorem digitsValue?_eq_some_iff :
    digitsValue? text = some n ↔
      text ≠ [] ∧ (∀ c ∈ text, c.isDigit = true) ∧ valueOfDigits text = n := by
  rw [digitsValue?]
  cases text with
  | nil => simp
  | cons c rest => grind [List.all_eq_true]

/-- The text is digits that write the number, behind a plus sign or not. -/
def IsNumeral (text : List Char) (n : Nat) : Prop :=
  ∃ sign digits, text = sign ++ digits ∧ (sign = [] ∨ sign = ['+']) ∧ digits ≠ [] ∧
    (∀ c ∈ digits, c.isDigit = true) ∧ valueOfDigits digits = n

/-- The text is a numeral among blanks. -/
def WritesNumber (text : List Char) (n : Nat) : Prop :=
  ∃ before numeral after, text = before ++ numeral ++ after ∧ (∀ c ∈ before, isBlank c = true) ∧
    (∀ c ∈ after, isBlank c = true) ∧ IsNumeral numeral n

theorem IsNumeral.ne_nil (numeral : IsNumeral text n) : text ≠ [] := by
  obtain ⟨sign, digits, rfl, -, filled, -, -⟩ := numeral
  exact List.append_ne_nil_of_right_ne_nil sign filled

theorem IsNumeral.char (numeral : IsNumeral text n) (member : c ∈ text) :
    c = '+' ∨ c.isDigit = true := by
  obtain ⟨sign, digits, rfl, signed, -, allDigits, -⟩ := numeral
  rcases List.mem_append.mp member with inSign | inDigits
  · rcases signed with rfl | rfl
    · cases inSign
    · exact .inl (List.mem_singleton.mp inSign)
  · exact .inr (allDigits c inDigits)

theorem IsNumeral.visible (numeral : IsNumeral text n) : ∀ c ∈ text, isBlank c = false := by
  intro c member
  rcases numeral.char member with rfl | digit
  · decide
  · exact isBlank_of_isDigit digit

theorem isNumeral_toDigits (n : Nat) : IsNumeral (Nat.toDigits 10 n) n :=
  ⟨[], _, rfl, .inl rfl, Nat.toDigits_ne_nil, isDigit_toDigits n, valueOfDigits_toDigits n⟩

theorem digitsValue?_word :
    ((digitsValue? text).bind fun n =>
      if n < Nat.pow 2 64 then some (UInt64.ofNat n) else none) = some word ↔
    digitsValue? text = some word.toNat := by
  have small : word.toNat < Nat.pow 2 64 := word.toNat_lt
  rw [Option.bind_eq_some_iff]
  constructor
  · rintro ⟨n, found, fits⟩
    split at fits
    · next below =>
      cases fits
      rw [found, UInt64.toNat_ofNat_of_lt' below]
    · cases fits
  · intro found
    exact ⟨word.toNat, found, by rw [if_pos small, UInt64.ofNat_toNat]⟩

/-- The numbers below `2 ^ 64` are read from their numerals. -/
theorem word?_eq_some_iff : word? text = some word ↔ IsNumeral text word.toNat := by
  have noDigit : ¬ '+'.isDigit = true := by decide
  unfold word?
  split
  · next rest =>
    refine digitsValue?_word.trans (digitsValue?_eq_some_iff.trans ?_)
    constructor
    · exact fun ⟨filled, digits, value⟩ => ⟨['+'], rest, rfl, .inr rfl, filled, digits, value⟩
    · rintro ⟨sign, digits, same, rfl | rfl, filled, allDigits, value⟩
      · rw [List.nil_append] at same
        subst same
        exact absurd (allDigits '+' List.mem_cons_self) noDigit
      · cases same
        exact ⟨filled, allDigits, value⟩
  · next _ unsigned =>
    refine digitsValue?_word.trans (digitsValue?_eq_some_iff.trans ?_)
    constructor
    · exact fun ⟨filled, digits, value⟩ => ⟨[], text, rfl, .inl rfl, filled, digits, value⟩
    · rintro ⟨sign, digits, rfl, rfl | rfl, filled, allDigits, value⟩
      · exact ⟨filled, allDigits, value⟩
      · exact absurd rfl (unsigned digits)

theorem isNumeral_trim_iff : IsNumeral (trim text) n ↔ WritesNumber text n := by
  constructor
  · intro numeral
    obtain ⟨before, after, padded, blankBefore, blankAfter⟩ := exists_trim text
    exact ⟨before, trim text, after, padded, blankBefore, blankAfter, numeral⟩
  · rintro ⟨before, numeral, after, rfl, blankBefore, blankAfter, isNumeral⟩
    rw [trim_padded blankBefore blankAfter isNumeral.ne_nil isNumeral.visible]
    exact isNumeral

/-- A number below `2 ^ 64` is read from the texts that write it, and from no others. -/
theorem word?_trim_eq_some_iff :
    word? (trim text) = some word ↔ WritesNumber text word.toNat :=
  word?_eq_some_iff.trans isNumeral_trim_iff

theorem IsNumeral.unique {m : Nat} (first : IsNumeral text n) (second : IsNumeral text m) :
    n = m := by
  have noDigit : ¬ '+'.isDigit = true := by decide
  obtain ⟨sign, digits, rfl, signed, -, allDigits, rfl⟩ := first
  obtain ⟨otherSign, others, same, otherSigned, -, allOthers, rfl⟩ := second
  rcases signed with rfl | rfl
  · rcases otherSigned with rfl | rfl
    · rw [List.nil_append, List.nil_append] at same
      rw [same]
    · rw [List.nil_append] at same
      exact absurd (allDigits '+' (by simp [same])) noDigit
  · rcases otherSigned with rfl | rfl
    · rw [List.nil_append] at same
      exact absurd (allOthers '+' (by simp [← same])) noDigit
    · rw [List.append_cancel_left same]

theorem WritesNumber.unique {m : Nat} (first : WritesNumber text n)
    (second : WritesNumber text m) : n = m :=
  (isNumeral_trim_iff.mpr first).unique (isNumeral_trim_iff.mpr second)

/-- A text with a character in it that no numeral has, and that is no blank, writes no number. -/
theorem not_writesNumber_of_mem (there : c ∈ text)
    (noSign : c ≠ '+') (noDigit : c.isDigit = false) (visible : isBlank c = false) :
    ¬ WritesNumber text n := by
  rintro ⟨before, numeral, after, rfl, blankBefore, blankAfter, isNumeral⟩
  simp only [List.mem_append] at there
  rcases there with (inBefore | inNumeral) | inAfter
  · rw [blankBefore c inBefore] at visible
    cases visible
  · rcases isNumeral.char inNumeral with sign | digit
    · exact noSign sign
    · rw [digit] at noDigit
      cases noDigit
  · rw [blankAfter c inAfter] at visible
    cases visible

theorem writesNumber_toDigits (n : Nat) : WritesNumber (Nat.toDigits 10 n) n :=
  ⟨[], _, [], (List.append_nil _).symm, List.forall_mem_nil _, List.forall_mem_nil _,
    isNumeral_toDigits n⟩

theorem writesNumber_toDigits_iff {m : Nat} : WritesNumber (Nat.toDigits 10 n) m ↔ m = n := by
  constructor
  · exact fun writes => writes.unique (writesNumber_toDigits n)
  · rintro rfl
    exact writesNumber_toDigits m

theorem word?_trim_toDigits (word : UInt64) :
    word? (trim (Nat.toDigits 10 word.toNat)) = some word :=
  word?_trim_eq_some_iff.mpr (writesNumber_toDigits word.toNat)

end PbrTelemetry.Text
