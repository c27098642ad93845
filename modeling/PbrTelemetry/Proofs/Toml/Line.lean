import PbrTelemetry.Proofs.Toml.Quote
import PbrTelemetry.Proofs.Toml.Scalar
import PbrTelemetry.Toml.Printer

/-!
# Lines are read back

A line that is written is read as one line, whatever lines follow it: a pair with the value that
it was written for (`reads_pair`, `IsValue`), a header (`reads_header`, `reads_element`), or nothing
(`reads_blank`).  Texts that are put together from lines are read as these lines (`Reads.append`),
and make up one tree (`Reads.parse?`).
-/

namespace PbrTelemetry.Toml

variable {c mark : Char} {text written rest : List Char} {name : String} {node : Node}
  {first : Line} {found others : List Line} {fuel : Nat}

/-! ## Names -/

structure IsBareName (name : String) : Prop where
  filled : name.toList ≠ []
  letters : name.toList.all isBare = true

instance : Decidable (IsBareName name) :=
  decidable_of_iff (name.toList ≠ [] ∧ name.toList.all isBare = true)
    ⟨fun ⟨filled, letters⟩ => ⟨filled, letters⟩, fun ⟨filled, letters⟩ => ⟨filled, letters⟩⟩

theorem IsBareName.isBare (bare : IsBareName name) : ∀ c ∈ name.toList, isBare c = true :=
  List.all_eq_true.mp bare.letters

theorem ne_of_isBare (bare : isBare c = true) (other : isBare mark = false) : c ≠ mark := by
  rintro rfl
  rw [bare] at other
  cases other

theorem skipBlanks_cons (visible : isBlank c = false) : skipBlanks (c :: text) = c :: text :=
  List.dropWhile_cons_of_neg (by simp [visible])

theorem isBlank_of_isBare (bare : isBare c = true) : isBlank c = false := by
  have space := ne_of_isBare bare (by decide : isBare ' ' = false)
  have tab := ne_of_isBare bare (by decide : isBare '\t' = false)
  simp [isBlank, space, tab]

theorem simpleKey_bare (bare : IsBareName name) (ends : ∀ c ∈ rest.head?, isBare c = false) :
    simpleKey (name.toList ++ rest) = some (name, rest) := by
  have stop : rest.takeWhile isBare = [] ∧ rest.dropWhile isBare = rest := by
    cases rest with
    | nil => exact ⟨rfl, rfl⟩
    | cons c rest =>
      have last := ends c rfl
      simp [last]
  have taken : (name.toList ++ rest).takeWhile isBare = name.toList := by
    rw [List.takeWhile_append_of_pos bare.isBare, stop.1, List.append_nil]
  have dropped : (name.toList ++ rest).dropWhile isBare = rest := by
    rw [List.dropWhile_append_of_pos bare.isBare, stop.2]
  obtain ⟨c, letters, letter⟩ := List.exists_cons_of_ne_nil bare.filled
  have first : isBare c = true := bare.isBare c (by simp [letter])
  rw [simpleKey.eq_def]
  split
  · next same =>
    rw [letter] at same
    exact absurd (List.cons.inj same).1 (ne_of_isBare first (by decide))
  · next same =>
    rw [letter] at same
    exact absurd (List.cons.inj same).1 (ne_of_isBare first (by decide))
  · have whole : String.ofList (c :: letters) = name := by rw [← letter, String.ofList_toList]
    rw [taken, dropped, letter]
    exact congrArg (fun name => some (name, rest)) whole

theorem key_bare (bare : IsBareName name) (ends : ∀ c ∈ rest.head?, isBare c = false)
    (last : ∀ more, skipBlanks rest ≠ '.' :: more) :
    key (name.toList ++ rest) = some (⟨[], name⟩, skipBlanks rest) := by
  obtain ⟨c, letters, letter⟩ := List.exists_cons_of_ne_nil bare.filled
  have visible : isBlank c = false := isBlank_of_isBare (bare.isBare c (by simp [letter]))
  have start : skipBlanks (name.toList ++ rest) = name.toList ++ rest := by
    rw [letter]
    exact skipBlanks_cons visible
  rw [key, keyLimit, dottedKey, start, simpleKey_bare bare ends]
  simp only [Option.bind_eq_bind, Option.bind_some]
  rfl

/-! ## Values -/

/-- The text is read as this value in front of a line break, and starts with no blank. -/
structure IsValue (written : List Char) (node : Node) : Prop where
  reads : ∀ rest, value nestingLimit (written ++ '\n' :: rest) = some (node, '\n' :: rest)
  visible : ∃ c others, written = c :: others ∧ isBlank c = false

theorem isValue_flag (flag : Bool) :
    IsValue (if flag then "true" else "false").toList (.boolean flag) := by
  cases flag with
  | true => exact ⟨fun _ => rfl, _, _, rfl, rfl⟩
  | false => exact ⟨fun _ => rfl, _, _, rfl, rfl⟩

theorem isValue_emptyArray : IsValue ['[', ']'] (.array []) :=
  ⟨fun _ => rfl, _, _, rfl, rfl⟩

theorem isValue_toDigits {n : Nat} (fits : n < 2 ^ 63) :
    IsValue (Nat.toDigits 10 n) (.integer n) where
  reads := value_toDigits fits nestingLimit
  visible := by
    obtain ⟨c, others, written, digit⟩ := Text.exists_toDigits n
    refine ⟨c, others, written, ?_⟩
    have bare : isBare c = true := by simp [isBare, Char.isAlphanum, digit]
    exact isBlank_of_isBare bare

theorem renderText_head (text : List Char) :
    ∃ quote others, renderText text = quote :: others ∧ (quote = '"' ∨ quote = '\'') := by
  rw [renderText]
  split
  · exact ⟨_, _, rfl, .inl rfl⟩
  · exact ⟨_, _, rfl, .inr rfl⟩
  · exact ⟨_, _, rfl, .inl rfl⟩
  · exact ⟨_, _, rfl, .inr rfl⟩

theorem isValue_renderText (text : String) : IsValue (renderText text.toList) (.string text) := by
  obtain ⟨quote, others, head, isQuote⟩ := renderText_head text.toList
  have quoted : ∀ text, value nestingLimit (quote :: text)
      = (quotedString (quote :: text)).map fun read => (.string read.1, read.2) := by
    rcases isQuote with rfl | rfl <;> exact fun _ => rfl
  refine ⟨fun rest => ?_, quote, others, head, ?_⟩
  · have read : quotedString (renderText text.toList ++ '\n' :: rest)
        = some (String.ofList text.toList, '\n' :: rest) :=
      quotedString_renderText (by simp) (by simp)
    rw [head, List.cons_append] at read
    rw [head, List.cons_append, quoted, read, String.ofList_toList]
    rfl
  · rcases isQuote with rfl | rfl <;> rfl

/-! ## Lines -/

/-- The text is read as these lines, whatever lines follow it. -/
def Reads (text : List Char) (found : List Line) : Prop :=
  ∃ steps ≤ text.length, ∀ fuel rest,
    lines? (fuel + steps) (text ++ rest) = (lines? fuel rest).map (found ++ ·)

theorem Reads.nil : Reads [] [] :=
  ⟨0, Nat.le_refl 0, fun fuel rest => by simp⟩

theorem Reads.append {first second : List Char} (before : Reads first found)
    (behind : Reads second others) : Reads (first ++ second) (found ++ others) := by
  obtain ⟨firstSteps, firstEnough, firstRead⟩ := before
  obtain ⟨secondSteps, secondEnough, secondRead⟩ := behind
  refine ⟨secondSteps + firstSteps, ?_, fun fuel rest => ?_⟩
  · rw [List.length_append]
    omega
  · rw [← Nat.add_assoc, List.append_assoc, firstRead, secondRead, Option.map_map]
    simp [Function.comp_def]

theorem reads_blank : Reads ['\n'] [] :=
  ⟨1, Nat.le_refl 1, fun fuel rest => by simp [lines?, lineTail?, skipBlanks, isBlank, lineBreak?]⟩

theorem lineTail?_of_isBare (bare : isBare c = true) : lineTail? (c :: text) = none := by
  have hash := ne_of_isBare bare (by decide : isBare '#' = false)
  have newline := ne_of_isBare bare (by decide : isBare '\n' = false)
  have carriageReturn := ne_of_isBare bare (by decide : isBare '\r' = false)
  rw [lineTail?, skipBlanks_cons (isBlank_of_isBare bare)]
  simp [hash, lineBreak?_of_ne ⟨newline, carriageReturn⟩]

theorem Reads.single (visible : isBlank c = false) (noTail : ∀ rest, lineTail? (c :: rest) = none)
    (read : ∀ rest, line (c :: (text ++ '\n' :: rest)) = some (first, '\n' :: rest)) :
    Reads (c :: (text ++ ['\n'])) [first] := by
  refine ⟨1, by simp, fun fuel rest => ?_⟩
  have shape : c :: (text ++ ['\n']) ++ rest = c :: (text ++ '\n' :: rest) := by simp
  have behind : lineTail? ('\n' :: rest) = some rest := rfl
  rw [shape, lines?, noTail, skipBlanks_cons visible, read]
  · simp only [Option.bind_eq_bind, Option.bind_some, behind]
    cases lines? fuel rest <;> rfl
  · simp

theorem line_of_isBare (bare : isBare c = true) :
    line (c :: text) = (pair (value nestingLimit) (c :: text)).map fun ((key, value), rest) =>
      (.pair key value, rest) := by
  have bracket := ne_of_isBare bare (by decide : isBare '[' = false)
  rw [line]
  · rintro more ⟨⟩
    exact bracket rfl
  · rintro more ⟨⟩
    exact bracket rfl

theorem reads_pair (bare : IsBareName name) (isValue : IsValue written node) :
    Reads (renderPair name written) [.pair ⟨[], name⟩ node] := by
  obtain ⟨c, letters, letter⟩ := List.exists_cons_of_ne_nil bare.filled
  have first : isBare c = true := bare.isBare c (by simp [letter])
  obtain ⟨mark, others, head, visible⟩ := isValue.visible
  have read (rest : List Char) :
      line (c :: (letters ++ ' ' :: '=' :: ' ' :: written ++ '\n' :: rest))
        = some (.pair ⟨[], name⟩ node, '\n' :: rest) := by
    have keyed : key (name.toList ++ ' ' :: '=' :: ' ' :: (written ++ '\n' :: rest))
        = some (⟨[], name⟩, '=' :: ' ' :: (written ++ '\n' :: rest)) :=
      key_bare bare (by simp [isBare]) (by simp [skipBlanks, isBlank])
    have start : skipBlanks (' ' :: (written ++ '\n' :: rest)) = written ++ '\n' :: rest := by
      rw [head]
      exact skipBlanks_cons visible
    rw [letter] at keyed
    rw [List.append_assoc, line_of_isBare first]
    simp only [List.cons_append] at keyed ⊢
    rw [pair, keyed]
    simp only [Option.bind_eq_bind, Option.bind_some, start, isValue.reads]
    rfl
  have shape : renderPair name written
      = c :: (letters ++ ' ' :: '=' :: ' ' :: written ++ ['\n']) := by
    simp [renderPair, letter]
  rw [shape]
  exact .single (isBlank_of_isBare first) (fun _ => lineTail?_of_isBare first) read

theorem lineTail?_bracket : lineTail? ('[' :: text) = none := by
  rw [lineTail?, skipBlanks_cons (by decide)]
  exact lineBreak?_of_ne (by decide)

theorem key_bracket (bare : IsBareName name) (rest : List Char) :
    key (name.toList ++ ']' :: rest) = some (⟨[], name⟩, ']' :: rest) :=
  key_bare bare (by simp [isBare]) (by simp [skipBlanks, isBlank])

theorem reads_header (bare : IsBareName name) :
    Reads (renderHeader name) [.header (.table ⟨[], name⟩)] := by
  have read (rest : List Char) : line ('[' :: (name.toList ++ [']'] ++ '\n' :: rest))
      = some (.header (.table ⟨[], name⟩), '\n' :: rest) := by
    obtain ⟨c, letters, letter⟩ := List.exists_cons_of_ne_nil bare.filled
    have bracket := ne_of_isBare (bare.isBare c (by simp [letter])) (by decide : isBare '[' = false)
    have keyed := key_bracket bare ('\n' :: rest)
    rw [List.append_assoc, List.singleton_append, line, keyed]
    · rfl
    · rw [letter]
      rintro more ⟨⟩
      exact bracket rfl
  have shape : renderHeader name = '[' :: (name.toList ++ [']'] ++ ['\n']) := by
    simp [renderHeader]
  rw [shape]
  exact .single (by decide) (fun _ => lineTail?_bracket) read

theorem reads_element (bare : IsBareName name) :
    Reads (renderElementHeader name) [.header (.element ⟨[], name⟩)] := by
  have read (rest : List Char) : line ('[' :: ('[' :: name.toList ++ [']', ']'] ++ '\n' :: rest))
      = some (.header (.element ⟨[], name⟩), '\n' :: rest) := by
    have keyed := key_bracket bare (']' :: '\n' :: rest)
    rw [List.cons_append, List.cons_append, List.append_assoc, line]
    simp only [List.cons_append, List.nil_append, keyed, Option.bind_eq_bind, Option.bind_some]
    rfl
  have shape : renderElementHeader name = '[' :: ('[' :: name.toList ++ [']', ']'] ++ ['\n']) := by
    simp [renderElementHeader]
  rw [shape]
  exact .single (by decide) (fun _ => lineTail?_bracket) read

theorem Reads.parse? (reads : Reads text found) (noMark : ∀ c ∈ text.head?, c.toNat ≠ 0xFEFF) :
    parse? text = tree? (blocks found).1 (blocks found).2 := by
  have unmarked : dropOrderMark text = text := by
    cases text with
    | nil => rfl
    | cons c text => rw [dropOrderMark, if_neg (noMark c rfl)]
  obtain ⟨steps, enough, read⟩ := reads
  have all : lines? (text.length + 1) text = some found := by
    have fuel : text.length + 1 = (text.length - steps) + 1 + steps := by omega
    have whole := read (text.length - steps + 1) []
    rw [List.append_nil] at whole
    rw [fuel, whole]
    simp [lines?]
  rw [Toml.parse?, unmarked]
  simp only [all, Option.bind_eq_bind, Option.bind_some]

end PbrTelemetry.Toml
