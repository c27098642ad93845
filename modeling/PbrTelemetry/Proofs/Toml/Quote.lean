import PbrTelemetry.Toml.Printer
import PbrTelemetry.Toml.Quote

/-!
# Quoted text is read back

Every text is read back from the quotes that it is written in, with any character in it
(`quotedString_renderText`).  A character stands for itself or behind a backslash (`IsWritten`),
and in three quotes up to two may stand in a row, so those in front of the closing ones are read
together with them.
-/

namespace PbrTelemetry.Toml

open Text (hexNumber)

/-! ## Characters -/

theorem hexNumber_append {high count n : Nat} {digits : List Char}
    (read : hexNumber high count digits = some (n, [])) (rest : List Char) :
    hexNumber high count (digits ++ rest) = some (n, rest) := by
  induction count generalizing high digits with
  | zero =>
    cases read
    rfl
  | succ count ih =>
    cases digits with
    | nil => cases read
    | cons digit digits =>
      obtain ⟨value, known, others⟩ := Option.bind_eq_some_iff.mp read
      rw [List.cons_append, hexNumber, known]
      exact ih others

theorem hexNumber_fourDigits : ∀ n < 128, hexNumber 0 4 (fourDigits n) = some (n, []) := by
  decide +kernel

theorem numberedChar_fourDigits {c : Char} (code : needsCode c = true) (rest : List Char) :
    numberedChar 4 (fourDigits c.toNat ++ rest) = some (c, rest) := by
  have ascii : c.toNat < 128 := by
    simp only [needsCode, Bool.or_eq_true, Bool.and_eq_true, decide_eq_true_eq] at code
    omega
  have valid : c.toNat.isValidChar := by
    simp only [Nat.isValidChar]
    omega
  rw [numberedChar, hexNumber_append (hexNumber_fourDigits _ ascii)]
  simp [scalar?, valid]

theorem isPlain_of_not_needsCode {c : Char} (uncoded : needsCode c = false) (inLine : c ≠ '\n') :
    isPlain c = true := by
  have space : ' ' ≤ c ↔ 32 ≤ c.toNat := Iff.rfl
  simp only [needsCode, isPlain, Bool.or_eq_false_iff, Bool.and_eq_false_imp, Bool.or_eq_true,
    Bool.and_eq_true, decide_eq_true_eq, decide_eq_false_iff_not, space] at uncoded ⊢
  obtain ⟨control, delete⟩ := uncoded
  by_cases tab : c = '\t'
  · exact .inl tab
  · exact .inr ⟨Nat.le_of_not_lt fun low => control ⟨Nat.le_of_lt_succ low, tab⟩ inLine, delete⟩

theorem ne_carriageReturn_of_not_needsCode {c : Char} (uncoded : needsCode c = false) :
    c ≠ '\r' := by
  rintro rfl
  cases uncoded

/-- How a character is written in double quotes behind `run` quotes, and the run it leaves. -/
inductive IsWritten (multiline : Bool) (run : Nat) (c : Char) : List Char → Nat → Prop
  | plain (plain : isPlain c = true) (unquoted : c ≠ '"') (unescaped : c ≠ '\\')
      (inLine : c ≠ '\n' ∧ c ≠ '\r') : IsWritten multiline run c [c] 0
  | newline (several : multiline = true) (same : c = '\n') : IsWritten multiline run c ['\n'] 0
  | quote (several : multiline = true) (room : run < 2) (same : c = '"') :
      IsWritten multiline run c ['"'] (run + 1)
  | escaped {mark : Char} {code : List Char}
      (letter : mark ∈ ['b', 't', 'n', 'f', 'r', '\\', 'u', '"'])
      (read : ∀ rest, escape (mark :: (code ++ rest)) = some (c, rest)) :
      IsWritten multiline run c ('\\' :: mark :: code) 0

theorem isWritten_escapeChar (multiline : Bool) (run : Nat) {c : Char} (unquoted : c ≠ '"') :
    IsWritten multiline run c (escapeChar multiline c) 0 := by
  have byNumber {n : Nat} (same : c.toNat = n) : Char.ofNat n = c := by
    rw [← same, Char.ofNat_toNat]
  by_cases backspace : c.toNat = 8
  · rw [escapeChar, if_pos backspace]
    exact .escaped (by decide) fun rest => by rw [← byNumber backspace]; rfl
  rw [escapeChar, if_neg backspace]
  by_cases tab : c = '\t'
  · rw [if_pos tab]
    exact .escaped (by decide) fun rest => by rw [tab]; rfl
  rw [if_neg tab]
  by_cases newline : c = '\n'
  · rw [if_pos newline]
    cases multiline with
    | true => exact .newline rfl newline
    | false => exact .escaped (by decide) fun rest => by rw [newline]; rfl
  rw [if_neg newline]
  by_cases formFeed : c.toNat = 12
  · rw [if_pos formFeed]
    exact .escaped (by decide) fun rest => by rw [← byNumber formFeed]; rfl
  rw [if_neg formFeed]
  by_cases carriageReturn : c = '\r'
  · rw [if_pos carriageReturn]
    exact .escaped (by decide) fun rest => by rw [carriageReturn]; rfl
  rw [if_neg carriageReturn]
  by_cases backslash : c = '\\'
  · rw [if_pos backslash]
    exact .escaped (by decide) fun rest => by rw [backslash]; rfl
  rw [if_neg backslash]
  by_cases code : needsCode c = true
  · rw [if_pos code]
    exact .escaped (by decide) (numberedChar_fourDigits code)
  rw [if_neg code]
  exact .plain (isPlain_of_not_needsCode (by simpa using code) newline) unquoted backslash
    ⟨newline, carriageReturn⟩

theorem escapeText_cons (multiline : Bool) (run : Nat) (c : Char) (text : List Char) :
    ∃ code next, IsWritten multiline run c code next ∧
      escapeText multiline run (c :: text) = code ++ escapeText multiline next text := by
  by_cases quote : c = '"'
  · by_cases room : multiline = true ∧ run < 2
    · exact ⟨['"'], run + 1, .quote room.1 room.2 quote, by
        rw [escapeText, if_pos quote, if_pos room, List.singleton_append]⟩
    · have escaped (rest : List Char) : escape ('"' :: ([] ++ rest)) = some (c, rest) := by
        rw [quote]
        rfl
      exact ⟨['\\', '"'], 0, .escaped (by decide) escaped, by
        rw [escapeText, if_pos quote, if_neg room, List.cons_append, List.singleton_append]⟩
  · exact ⟨_, 0, isWritten_escapeChar multiline run quote, by rw [escapeText, if_neg quote]⟩

/-! ## Text on one line -/

section

variable {text rest code : List Char} {c mark : Char} {fuel run : Nat}

theorem basicBody_plain (plain : isPlain c = true) (unquoted : c ≠ '"') (unescaped : c ≠ '\\') :
    basicBody (fuel + 1) (c :: text)
      = (basicBody fuel text).map fun (body, rest) => (c :: body, rest) := by
  rw [basicBody, if_pos plain]
  · cases basicBody fuel text <;> rfl
  · exact unquoted
  · exact unescaped

theorem basicBody_escape (read : escape code = some (c, text)) :
    basicBody (fuel + 1) ('\\' :: code)
      = (basicBody fuel text).map fun (body, rest) => (c :: body, rest) := by
  rw [basicBody, read]
  cases h : basicBody fuel text <;> simp [h]

theorem basicBody_escapeText (run : Nat) (enough : text.length < fuel) :
    basicBody fuel (escapeText false run text ++ '"' :: rest) = some (text, rest) := by
  induction text generalizing fuel run with
  | nil =>
    cases fuel with
    | zero => cases enough
    | succ fuel => rfl
  | cons c text ih =>
    cases fuel with
    | zero => cases enough
    | succ fuel =>
      have read (run : Nat) := ih run (Nat.lt_of_succ_lt_succ enough)
      obtain ⟨code, next, written, same⟩ := escapeText_cons false run c text
      rw [same, List.append_assoc]
      cases written with
      | plain plain unquoted unescaped _ =>
        rw [List.singleton_append, basicBody_plain plain unquoted unescaped, read]
        rfl
      | newline several => cases several
      | quote several => cases several
      | escaped _ escaped =>
        rw [List.cons_append, List.cons_append, basicBody_escape (escaped _), read]
        rfl

theorem literalBody_append (uncoded : ∀ c ∈ text, needsCode c = false)
    (inLine : '\n' ∉ text) (unquoted : '\'' ∉ text) :
    literalBody (text ++ '\'' :: rest) = some (text, rest) := by
  induction text with
  | nil => rfl
  | cons c text ih =>
    obtain ⟨first, others⟩ := List.forall_mem_cons.mp uncoded
    obtain ⟨noBreak, noBreaks⟩ := not_or.mp (mt List.mem_cons.mpr inLine)
    obtain ⟨noQuote, noQuotes⟩ := not_or.mp (mt List.mem_cons.mpr unquoted)
    have plain := isPlain_of_not_needsCode first (Ne.symm noBreak)
    rw [List.cons_append, literalBody, if_pos plain, ih others noBreaks noQuotes]
    · rfl
    · exact Ne.symm noQuote

/-! ## Text of several lines -/

theorem lineBreak?_of_ne (inLine : c ≠ '\n' ∧ c ≠ '\r') : lineBreak? (c :: text) = none := by
  rw [lineBreak?.eq_def]
  split
  · next same => exact absurd (List.cons.inj same).1 inLine.1
  · next same => exact absurd (List.cons.inj same).1 inLine.2
  · rfl

theorem continuation?_of_letter (letter : mark ∈ ['b', 't', 'n', 'f', 'r', '\\', 'u', '"']) :
    continuation? (mark :: text) = none := by
  have visible : isBlank mark = false ∧ mark ≠ '\n' ∧ mark ≠ '\r' := by
    simp only [List.mem_cons, List.not_mem_nil, or_false] at letter
    rcases letter with rfl | rfl | rfl | rfl | rfl | rfl | rfl | rfl <;> decide
  rw [continuation?, skipBlanks, List.dropWhile_cons_of_neg (by simp [visible.1]),
    lineBreak?_of_ne visible.2]
  rfl

theorem multilineBasicBody_plain (plain : isPlain c = true) (unescaped : c ≠ '\\')
    (inLine : c ≠ '\n' ∧ c ≠ '\r') (few : ∀ others, c = '"' → text ≠ '"' :: '"' :: others) :
    multilineBasicBody (fuel + 1) (c :: text)
      = (multilineBasicBody fuel text).map fun (body, rest) => (c :: body, rest) := by
  rw [multilineBasicBody, lineBreak?_of_ne inLine]
  · simp only [plain, if_pos]
    cases multilineBasicBody fuel text <;> rfl
  · rintro others quote rfl
    exact few _ quote rfl
  · rintro others quote rfl
    exact few _ quote rfl
  · rintro others quote rfl
    exact few _ quote rfl
  · exact unescaped

theorem multilineBasicBody_newline :
    multilineBasicBody (fuel + 1) ('\n' :: text)
      = (multilineBasicBody fuel text).map fun (body, rest) => ('\n' :: body, rest) := by
  rw [multilineBasicBody, lineBreak?]
  · cases h : multilineBasicBody fuel text <;> simp [h]
  · simp
  · simp
  · simp
  · simp

theorem multilineBasicBody_escape (letter : mark ∈ ['b', 't', 'n', 'f', 'r', '\\', 'u', '"'])
    (read : escape (mark :: code) = some (c, text)) :
    multilineBasicBody (fuel + 1) ('\\' :: mark :: code)
      = (multilineBasicBody fuel text).map fun (body, rest) => (c :: body, rest) := by
  rw [multilineBasicBody, continuation?_of_letter letter]
  simp only [read]
  cases h : multilineBasicBody fuel text <;> simp [h]

/-- Where a quote has to be escaped, or is none, a character is not written as a quote. -/
theorem escapeText_head (multiline : Bool) (run : Nat) (text : List Char)
    (next : ¬ (multiline = true ∧ run < 2) ∨ c ≠ '"') :
    ∃ mark others, escapeText multiline run (c :: text) = mark :: others ∧ mark ≠ '"' := by
  obtain ⟨code, run, written, same⟩ := escapeText_cons multiline run c text
  cases written with
  | plain _ unquoted _ _ => exact ⟨c, _, same, unquoted⟩
  | newline => exact ⟨'\n', _, same, by decide⟩
  | quote several room quote => exact absurd next (by simp [several, room, quote])
  | escaped => exact ⟨'\\', _, same, by decide⟩

/-- A text that goes on behind a quote does not go on with two more. -/
theorem escapeText_ne_quotes (filled : text ≠ []) (behind : run = 1 ∨ run = 2)
    (goesOn : run = 1 → text ≠ ['"']) (more others : List Char) :
    escapeText true run text ++ more ≠ '"' :: '"' :: others := by
  obtain ⟨c, text, rfl⟩ := List.exists_cons_of_ne_nil filled
  intro same
  by_cases next : run = 2 ∨ c ≠ '"'
  · obtain ⟨mark, written, head, noQuote⟩ := escapeText_head true run text
      (next.imp_left fun second => by simp [second])
    rw [head, List.cons_append] at same
    exact noQuote (List.cons.inj same).1
  · obtain ⟨noSecond, quote⟩ := not_or.mp next
    obtain rfl := behind.resolve_right noSecond
    obtain rfl := Decidable.not_not.mp quote
    cases text with
    | nil => exact goesOn rfl rfl
    | cons d text =>
      obtain ⟨mark, written, head, noQuote⟩ :=
        escapeText_head (c := d) true 2 text (.inl (by decide))
      rw [escapeText, if_pos rfl, if_pos (by decide), head, List.cons_append] at same
      exact noQuote (List.cons.inj (List.cons.inj same).2).1

theorem multilineBasicBody_close (fuel : Nat) (behind : ∀ others, rest ≠ '"' :: others) :
    multilineBasicBody (fuel + 1) ('"' :: '"' :: '"' :: rest) = some ([], rest) ∧
    multilineBasicBody (fuel + 1) ('"' :: '"' :: '"' :: '"' :: rest) = some (['"'], rest) ∧
    multilineBasicBody (fuel + 1) ('"' :: '"' :: '"' :: '"' :: '"' :: rest)
      = some (['"', '"'], rest) := by
  refine ⟨?_, ?_, ?_⟩
  · rw [multilineBasicBody]
    · rintro others rfl
      exact behind _ rfl
    · rintro others rfl
      exact behind _ rfl
  · rw [multilineBasicBody]
    rintro others rfl
    exact behind _ rfl
  · rw [multilineBasicBody]

theorem multilineBasicBody_escapeText (few : run ≤ 2) (behind : ∀ others, rest ≠ '"' :: others)
    (enough : text.length < fuel) :
    multilineBasicBody fuel (escapeText true run text ++ '"' :: '"' :: '"' :: rest)
      = some (text, rest) := by
  induction text generalizing fuel run with
  | nil =>
    cases fuel with
    | zero => cases enough
    | succ fuel => exact (multilineBasicBody_close fuel behind).1
  | cons c text ih =>
    cases fuel with
    | zero => cases enough
    | succ fuel =>
      have fewer := Nat.lt_of_succ_lt_succ enough
      obtain ⟨-, closeOne, closeTwo⟩ := multilineBasicBody_close fuel behind
      obtain ⟨code, next, written, same⟩ := escapeText_cons true run c text
      have read (few : next ≤ 2) : multilineBasicBody fuel
          (escapeText true next text ++ '"' :: '"' :: '"' :: rest) = some (text, rest) :=
        ih few fewer
      rw [same, List.append_assoc]
      cases written with
      | plain plain unquoted unescaped inLine =>
        rw [List.singleton_append, multilineBasicBody_plain plain unescaped inLine
          (fun _ quote => absurd quote unquoted), read (Nat.zero_le _)]
        rfl
      | newline _ newline =>
        rw [List.singleton_append, multilineBasicBody_newline, read (Nat.zero_le _), newline]
        rfl
      | quote _ room quote =>
        subst quote
        -- Quotes in front of the closing ones are read with them
        by_cases last : text = []
        · subst last
          exact closeOne
        by_cases lastTwo : run + 1 = 1 ∧ text = ['"']
        · obtain ⟨first, rfl⟩ := lastTwo
          obtain rfl : run = 0 := by omega
          exact closeTwo
        have apart := escapeText_ne_quotes last (by omega : run + 1 = 1 ∨ run + 1 = 2)
          (fun first same => lastTwo ⟨first, same⟩) ('"' :: '"' :: '"' :: rest)
        rw [List.singleton_append, multilineBasicBody_plain (by decide) (by decide) (by decide)
          (fun others _ => apart _), read (by omega)]
        rfl
      | escaped letter escaped =>
        rw [List.cons_append, List.cons_append, multilineBasicBody_escape letter (escaped _),
          read (Nat.zero_le _)]
        rfl

/-! ### In single quotes -/

theorem le_longestRun (mark : Char) (run : Nat) (text : List Char) :
    run ≤ longestRun mark run text := by
  induction text generalizing run with
  | nil => exact Nat.le_refl _
  | cons c text ih =>
    rw [longestRun]
    split
    · exact Nat.le_of_succ_le (ih (run + 1))
    · exact Nat.le_max_left _ _

theorem multilineLiteralBody_plain (plain : isPlain c = true) (inLine : c ≠ '\n' ∧ c ≠ '\r')
    (few : ∀ others, c = '\'' → text ≠ '\'' :: '\'' :: others) :
    multilineLiteralBody (fuel + 1) (c :: text)
      = (multilineLiteralBody fuel text).map fun (body, rest) => (c :: body, rest) := by
  rw [multilineLiteralBody, lineBreak?_of_ne inLine]
  · simp only [plain, if_pos]
    cases multilineLiteralBody fuel text <;> rfl
  · rintro others quote rfl
    exact few _ quote rfl
  · rintro others quote rfl
    exact few _ quote rfl
  · rintro others quote rfl
    exact few _ quote rfl

theorem multilineLiteralBody_newline :
    multilineLiteralBody (fuel + 1) ('\n' :: text)
      = (multilineLiteralBody fuel text).map fun (body, rest) => ('\n' :: body, rest) := by
  rw [multilineLiteralBody, lineBreak?]
  · cases h : multilineLiteralBody fuel text <;> simp [h]
  · simp
  · simp
  · simp

theorem multilineLiteralBody_close (fuel : Nat) (behind : ∀ others, rest ≠ '\'' :: others) :
    multilineLiteralBody (fuel + 1) ('\'' :: '\'' :: '\'' :: rest) = some ([], rest) ∧
    multilineLiteralBody (fuel + 1) ('\'' :: '\'' :: '\'' :: '\'' :: rest)
      = some (['\''], rest) ∧
    multilineLiteralBody (fuel + 1) ('\'' :: '\'' :: '\'' :: '\'' :: '\'' :: rest)
      = some (['\'', '\''], rest) := by
  refine ⟨?_, ?_, ?_⟩
  · rw [multilineLiteralBody]
    · rintro others rfl
      exact behind _ rfl
    · rintro others rfl
      exact behind _ rfl
  · rw [multilineLiteralBody]
    rintro others rfl
    exact behind _ rfl
  · rw [multilineLiteralBody]

/-- A text without three quotes in a row does not go on with two behind a quote. -/
theorem append_ne_quotes (filled : text ≠ []) (goesOn : text ≠ ['\''])
    (few : longestRun '\'' (run + 1) text ≤ 2) (more others : List Char) :
    text ++ more ≠ '\'' :: '\'' :: others := by
  intro same
  match text with
  | [] => exact filled rfl
  | [c] =>
    obtain ⟨rfl, -⟩ := List.cons.inj same
    exact goesOn rfl
  | c :: d :: text =>
    obtain ⟨rfl, tail⟩ := List.cons.inj same
    obtain ⟨rfl, -⟩ := List.cons.inj tail
    rw [longestRun, if_pos rfl, longestRun, if_pos rfl] at few
    have three := Nat.le_trans (le_longestRun _ _ _) few
    omega

theorem multilineLiteralBody_append (uncoded : ∀ c ∈ text, needsCode c = false)
    (few : longestRun '\'' run text ≤ 2) (behind : ∀ others, rest ≠ '\'' :: others)
    (enough : text.length < fuel) :
    multilineLiteralBody fuel (text ++ '\'' :: '\'' :: '\'' :: rest) = some (text, rest) := by
  induction text generalizing fuel run with
  | nil =>
    cases fuel with
    | zero => cases enough
    | succ fuel => exact (multilineLiteralBody_close fuel behind).1
  | cons c text ih =>
    cases fuel with
    | zero => cases enough
    | succ fuel =>
      have fewer := Nat.lt_of_succ_lt_succ enough
      obtain ⟨first, others⟩ := List.forall_mem_cons.mp uncoded
      obtain ⟨-, closeOne, closeTwo⟩ := multilineLiteralBody_close fuel behind
      rw [longestRun] at few
      by_cases quote : c = '\''
      · subst quote
        rw [if_pos rfl] at few
        have read := ih others few fewer
        by_cases last : text = []
        · subst last
          exact closeOne
        by_cases lastTwo : text = ['\'']
        · subst lastTwo
          exact closeTwo
        have apart := append_ne_quotes last lastTwo few ('\'' :: '\'' :: '\'' :: rest)
        rw [List.cons_append, multilineLiteralBody_plain (by decide) (by decide)
          (fun others _ => apart _), read]
        rfl
      · rw [if_neg quote] at few
        have read := ih others (Nat.le_trans (Nat.le_max_right _ _) few) fewer
        by_cases newline : c = '\n'
        · rw [List.cons_append, newline, multilineLiteralBody_newline, read]
          rfl
        · rw [List.cons_append, multilineLiteralBody_plain (isPlain_of_not_needsCode first newline)
            ⟨newline, ne_carriageReturn_of_not_needsCode first⟩
            (fun _ same => absurd same quote), read]
          rfl

end

/-! ## Text in every form -/

theorem not_mem_of_longestRun {mark : Char} {run : Nat} {text : List Char}
    (absent : longestRun mark run text = 0) : mark ∉ text := by
  induction text generalizing run with
  | nil => simp
  | cons c text ih =>
    rw [longestRun] at absent
    split at absent
    · exact absurd (le_longestRun mark (run + 1) text) (by omega)
    · next other =>
      have tail := ih (Nat.max_eq_zero_iff.mp absent).2
      rintro (_ | ⟨_, member⟩)
      · exact other rfl
      · exact tail member

theorem Quotes.of_literal {text : List Char} (quotes : Quotes.of text = .literal) :
    (∀ c ∈ text, needsCode c = false) ∧ '\n' ∉ text ∧ '\'' ∉ text := by
  simp only [Quotes.of] at quotes
  split at quotes
  · cases quotes
  split at quotes
  · next suits =>
    obtain ⟨uncoded, singles, inLine⟩ := suits
    refine ⟨by simpa using uncoded, by simpa using inLine, not_mem_of_longestRun singles⟩
  split at quotes
  · cases quotes
  split at quotes
  · cases quotes
  split at quotes <;> cases quotes

theorem Quotes.of_multilineLiteral {text : List Char}
    (quotes : Quotes.of text = .multilineLiteral) :
    (∀ c ∈ text, needsCode c = false) ∧ longestRun '\'' 0 text ≤ 2 := by
  simp only [Quotes.of] at quotes
  split at quotes
  · cases quotes
  split at quotes
  · cases quotes
  split at quotes
  · cases quotes
  split at quotes
  · next suits => exact ⟨by simpa using suits.1, suits.2⟩
  split at quotes <;> cases quotes

section

variable {text rest : List Char}

theorem dropLineBreak_openingBreak {body : List Char}
    (sameLine : '\n' ∉ text → lineBreak? body = none) :
    dropLineBreak (openingBreak text ++ body) = body := by
  by_cases several : '\n' ∈ text
  · simp [openingBreak, several, dropLineBreak, lineBreak?]
  · simp [openingBreak, several, dropLineBreak, sameLine several]

theorem lineBreak?_escapeText (inLine : '\n' ∉ text) :
    lineBreak? (escapeText true 0 text ++ '"' :: rest) = none := by
  cases text with
  | nil => exact lineBreak?_of_ne (by decide)
  | cons c text =>
    obtain ⟨noBreak, -⟩ := not_or.mp (mt List.mem_cons.mpr inLine)
    obtain ⟨code, next, written, same⟩ := escapeText_cons true 0 c text
    rw [same]
    cases written with
    | plain _ _ _ inLine => exact lineBreak?_of_ne inLine
    | newline _ newline => exact absurd newline.symm noBreak
    | quote => exact lineBreak?_of_ne (by decide)
    | escaped => exact lineBreak?_of_ne (by decide)

theorem lineBreak?_append (uncoded : ∀ c ∈ text, needsCode c = false) (inLine : '\n' ∉ text) :
    lineBreak? (text ++ '\'' :: rest) = none := by
  cases text with
  | nil => exact lineBreak?_of_ne (by decide)
  | cons c text =>
    obtain ⟨noBreak, -⟩ := not_or.mp (mt List.mem_cons.mpr inLine)
    have noReturn := ne_carriageReturn_of_not_needsCode (uncoded c List.mem_cons_self)
    exact lineBreak?_of_ne ⟨Ne.symm noBreak, noReturn⟩

theorem length_le_escapeText (multiline : Bool) (run : Nat) (text : List Char) :
    text.length ≤ (escapeText multiline run text).length := by
  induction text generalizing run with
  | nil => exact Nat.le_refl 0
  | cons c text ih =>
    obtain ⟨code, next, written, same⟩ := escapeText_cons multiline run c text
    have others := ih next
    rw [same]
    cases written <;> simp only [List.length_cons, List.length_append] <;> omega

/-! ### One form at a time -/

theorem quotedString_basic (behind : ∀ others, rest ≠ '"' :: others) :
    quotedString ('"' :: (escapeText false 0 text ++ '"' :: rest))
      = some (String.ofList text, rest) := by
  have noTriple : ∀ others, escapeText false 0 text ++ '"' :: rest ≠ '"' :: '"' :: others := by
    intro others same
    cases text with
    | nil => exact behind _ (List.cons.inj same).2
    | cons c text =>
      obtain ⟨mark, written, head, noQuote⟩ :=
        escapeText_head (c := c) false 0 text (.inl (by decide))
      rw [head] at same
      exact noQuote (List.cons.inj same).1
  have enough : text.length < (escapeText false 0 text ++ '"' :: rest).length + 1 := by
    have body := length_le_escapeText false 0 text
    simp only [List.length_append]
    omega
  rw [quotedString, lineString, basicBody_escapeText 0 enough]
  · rfl
  · exact fun others same => noTriple _ (List.cons.inj same).2
  · rintro others ⟨⟩

theorem quotedString_literal (uncoded : ∀ c ∈ text, needsCode c = false) (inLine : '\n' ∉ text)
    (unquoted : '\'' ∉ text) (behind : ∀ others, rest ≠ '\'' :: others) :
    quotedString ('\'' :: (text ++ '\'' :: rest)) = some (String.ofList text, rest) := by
  have noTriple : ∀ others, text ++ '\'' :: rest ≠ '\'' :: '\'' :: others := by
    intro others same
    cases text with
    | nil => exact behind _ (List.cons.inj same).2
    | cons c text =>
      obtain ⟨rfl, -⟩ := List.cons.inj same
      exact unquoted List.mem_cons_self
  rw [quotedString, lineString, literalBody_append uncoded inLine unquoted]
  · rfl
  · rintro others ⟨⟩
  · exact fun others same => noTriple _ (List.cons.inj same).2

theorem quotedString_multilineBasic (behind : ∀ others, rest ≠ '"' :: others) :
    quotedString ('"' :: '"' :: '"' ::
        (openingBreak text ++ (escapeText true 0 text ++ '"' :: '"' :: '"' :: rest)))
      = some (String.ofList text, rest) := by
  have enough :
      text.length < (escapeText true 0 text ++ '"' :: '"' :: '"' :: rest).length + 1 := by
    have body := length_le_escapeText true 0 text
    simp only [List.length_append]
    omega
  rw [quotedString, dropLineBreak_openingBreak lineBreak?_escapeText,
    multilineBasicBody_escapeText (Nat.zero_le _) behind enough]
  rfl

theorem quotedString_multilineLiteral (uncoded : ∀ c ∈ text, needsCode c = false)
    (few : longestRun '\'' 0 text ≤ 2) (behind : ∀ others, rest ≠ '\'' :: others) :
    quotedString ('\'' :: '\'' :: '\'' ::
        (openingBreak text ++ (text ++ '\'' :: '\'' :: '\'' :: rest)))
      = some (String.ofList text, rest) := by
  have enough : text.length < (text ++ '\'' :: '\'' :: '\'' :: rest).length + 1 := by
    simp only [List.length_append]
    omega
  rw [quotedString, dropLineBreak_openingBreak (lineBreak?_append uncoded),
    multilineLiteralBody_append uncoded few behind enough]
  rfl

/-- A quoted text is read back as long as no further quote follows it. -/
theorem quotedString_renderText (noDouble : ∀ others, rest ≠ '"' :: others)
    (noSingle : ∀ others, rest ≠ '\'' :: others) :
    quotedString (renderText text ++ rest) = some (String.ofList text, rest) := by
  rw [renderText]
  cases quotes : Quotes.of text with
  | basic =>
    simp only [List.cons_append, List.append_assoc, List.nil_append]
    exact quotedString_basic noDouble
  | literal =>
    obtain ⟨uncoded, inLine, unquoted⟩ := Quotes.of_literal quotes
    simp only [List.cons_append, List.append_assoc, List.nil_append]
    exact quotedString_literal uncoded inLine unquoted noSingle
  | multilineBasic =>
    simp only [List.cons_append, List.append_assoc, List.nil_append]
    exact quotedString_multilineBasic noDouble
  | multilineLiteral =>
    obtain ⟨uncoded, few⟩ := Quotes.of_multilineLiteral quotes
    simp only [List.cons_append, List.append_assoc, List.nil_append]
    exact quotedString_multilineLiteral uncoded few noSingle

end

end PbrTelemetry.Toml
