import PbrTelemetry.Proofs.Path.Segments

/-!
# The grammar of path texts

`PathElem.Spells` and `Path.Spells` say which texts are paths, and of which elements.  For every
other text, `Path.Divides` says what its segments are and `PathElem.Malformed` what is wrong with
one of them.  Neither mentions how a text is read.

A segment without slashes is read if and only if the grammar has it
(`PathElem.parse_eq_ok_iff`, `PathElem.parse_eq_error_iff`), and the segments of a text are the one
way to divide it at its slashes (`Path.divides_iff`).  `Path.parse_exact` puts them together.
-/

namespace PbrTelemetry

/-! ## The grammar -/

def Text.Plain (marks text : List Char) : Prop := text ≠ [] ∧ ∀ mark ∈ marks, mark ∉ text

-- The instance for a bounded quantifier is named, lest all characters be tried
instance (marks text : List Char) : Decidable (Text.Plain marks text) :=
  haveI : Decidable (∀ mark ∈ marks, mark ∉ text) := List.decidableBAll _ _
  inferInstanceAs (Decidable (_ ∧ _))

namespace PathElem

/-- The segments that are elements: a name, or a name with a key and its value. -/
inductive Spells : List Char → PathElem → Prop where
  | bare {name : List Char} (named : Text.Plain ['/', '['] name) :
      Spells name { name := String.ofList name }
  | keyed {name key value : List Char} (named : Text.Plain ['/', '[', ']'] name)
      (keyed : Text.Plain ['/', '=', ']'] key) (valued : Text.Plain ['/', ']'] value) :
      Spells (keyedSegment name key value)
        { name := String.ofList name
          keys := TextMap.empty.insert (String.ofList key) (String.ofList value) }

/-- What stands between the brackets is no key with a value: there is no equals sign, or nothing
before the first one, or nothing behind it. -/
def NoPair (pair : List Char) : Prop :=
  '=' ∉ pair ∨ (∃ value, pair = '=' :: value) ∨ ∃ key, '=' ∉ key ∧ pair = key ++ ['=']

inductive Malformed : List Char → PathFault → Prop where
  | empty : Malformed [] .emptyElement
  | unclosed {name rest : List Char} (first : '[' ∉ name) (unclosed : ']' ∈ name ∨ ']' ∉ rest) :
      Malformed (name ++ '[' :: rest) .missingClosingBracket
  | trailing {name pair after : List Char} (first : '[' ∉ name) (ordered : ']' ∉ name)
      (closed : ']' ∉ pair) (trailing : after ≠ []) :
      Malformed (name ++ '[' :: (pair ++ ']' :: after)) .textAfterKey
  | unnamed {pair : List Char} (closed : ']' ∉ pair) :
      Malformed ('[' :: (pair ++ [']'])) .emptyName
  | noPair {name pair : List Char} (named : Text.Plain ['[', ']'] name) (closed : ']' ∉ pair)
      (noPair : NoPair pair) : Malformed (name ++ '[' :: (pair ++ [']'])) .malformedKey

end PathElem

def Text.IsOptionalSlash (text : List Char) : Prop := text = [] ∨ text = ['/']

inductive Path.Spells : List Char → List PathElem → Prop where
  | none {text : List Char} (blank : Text.IsOptionalSlash text) : Spells text []
  | segments {leading trailing : List Char} {segments : List (List Char)} {elems : List PathElem}
      (first : Text.IsOptionalSlash leading) (last : Text.IsOptionalSlash trailing)
      (nonempty : segments ≠ []) (each : List.Forall₂ PathElem.Spells segments elems) :
      Spells (leading ++ ['/'].intercalate segments ++ trailing) elems

/-- The segments of a text: what stands between its slashes.  A slash at an end of the text belongs
to no segment, so a segment at an end is empty only if two slashes stand there. -/
structure Path.Divides (text : List Char) (segments : List (List Char)) : Prop where
  nonempty : segments ≠ []
  whole : ∀ segment ∈ segments, '/' ∉ segment
  joined : ∃ body,
    (text = '/' :: body ∨ text = body ∧ body.head? ≠ some '/') ∧
    (body = ['/'].intercalate segments ++ ['/'] ∨
      body = ['/'].intercalate segments ∧ (['/'].intercalate segments).getLast? ≠ some '/')

/-! ## One segment -/

namespace PathElem

variable {segment name key value pair : List Char} {elem : PathElem} {fault : PathFault}

theorem Spells.no_slash (spells : Spells segment elem) : '/' ∉ segment := by
  cases spells with
  | bare named => exact named.2 '/' (by simp)
  | keyed named keyed valued =>
    simp [keyedSegment, named.2 '/', keyed.2 '/', valued.2 '/']

theorem Spells.ne_nil (spells : Spells segment elem) : segment ≠ [] := by
  cases spells with
  | bare named => exact named.1
  | keyed named keyed valued => simp [keyedSegment]

theorem Spells.parse (spells : Spells segment elem) : PathElem.parse segment = .ok elem := by
  cases spells with
  | bare named =>
    have unopened : Text.cut '[' segment = none := Text.cut_eq_none_iff.mpr (named.2 '[' (by simp))
    simp [PathElem.parse, named.1, unopened]
  | keyed named keyed valued =>
    have heads : Heads _ _ :=
      { name_ne_nil := named.1
        name_no_open := named.2 '[' (by simp)
        name_no_close := named.2 ']' (by simp)
        key_ne_nil := keyed.1
        key_no_equals := keyed.2 '=' (by simp)
        key_no_close := keyed.2 ']' (by simp) }
    exact parse_keyed heads valued.1 (valued.2 ']' (by simp))

theorem parseKey_of_noPair (noPair : NoPair pair) :
    parseKey name pair = .error .malformedKey := by
  rcases noPair with absent | ⟨value, rfl⟩ | ⟨key, absent, rfl⟩
  · simp [parseKey, Text.cut_eq_none_iff.mpr absent]
  · simp [parseKey, Text.cut]
  · simp [parseKey, Text.cut_append absent]

theorem Malformed.parse (malformed : Malformed segment fault) :
    PathElem.parse segment = .error fault := by
  cases malformed with
  | empty => rfl
  | unclosed first unclosed =>
    rw [parse_opened first]
    rcases unclosed with early | absent
    · rw [if_pos early]
    · rw [Text.cut_eq_none_iff.mpr absent, ite_self]
  | trailing first ordered closed trailing =>
    rw [parse_opened first, if_neg ordered, Text.cut_append closed]
    exact if_pos trailing
  | unnamed closed =>
    rw [← List.nil_append ('[' :: _), parse_opened List.not_mem_nil, Text.cut_append closed]
    rfl
  | noPair named closed noPair =>
    rw [parse_opened (named.2 '[' (by simp)), if_neg (named.2 ']' (by simp)),
      Text.cut_append closed]
    simp [named.1, parseKey_of_noPair noPair]

theorem noPair_or_pair (pair : List Char) :
    NoPair pair ∨
      ∃ key value, pair = key ++ '=' :: value ∧ key ≠ [] ∧ '=' ∉ key ∧ value ≠ [] := by
  by_cases equals : '=' ∈ pair
  · obtain ⟨key, value, rfl, before⟩ := List.eq_append_cons_of_mem equals
    by_cases keyless : key = []
    · subst keyless
      exact .inl (.inr (.inl ⟨value, rfl⟩))
    by_cases valueless : value = []
    · subst valueless
      exact .inl (.inr (.inr ⟨key, before, rfl⟩))
    exact .inr ⟨key, value, rfl, keyless, before, valueless⟩
  · exact .inl (.inl equals)

/-- The grammar leaves no segment out. -/
theorem spells_or_malformed (whole : '/' ∉ segment) :
    (∃ elem, Spells segment elem) ∨ ∃ fault, Malformed segment fault := by
  -- The first opening bracket, the first closing one behind it and the first equals sign between
  -- them divide the segment, and every fault is about what one of these parts is missing
  by_cases opened : '[' ∈ segment
  · obtain ⟨name, rest, rfl, first⟩ := List.eq_append_cons_of_mem opened
    by_cases unclosed : ']' ∈ name ∨ ']' ∉ rest
    · exact .inr ⟨_, .unclosed first unclosed⟩
    obtain ⟨ordered, closing⟩ : ']' ∉ name ∧ ']' ∈ rest := by simpa using unclosed
    obtain ⟨pair, after, rfl, closed⟩ := List.eq_append_cons_of_mem closing
    by_cases trailing : after = []
    · subst trailing
      by_cases unnamed : name = []
      · subst unnamed
        exact .inr ⟨_, .unnamed closed⟩
      rcases noPair_or_pair pair with noPair | ⟨key, value, rfl, keyed, before, valued⟩
      · exact .inr ⟨_, .noPair ⟨unnamed, by simp [first, ordered]⟩ closed noPair⟩
      · simp only [List.mem_append, List.mem_cons, not_or] at whole closed
        have keyedText : name ++ '[' :: (key ++ '=' :: value ++ [']'])
            = keyedSegment name key value := by
          simp [keyedSegment]
        rw [keyedText]
        exact .inl ⟨_, .keyed ⟨unnamed, by simp [first, ordered, whole]⟩
          ⟨keyed, by simp [before, closed, whole]⟩ ⟨valued, by simp [closed, whole]⟩⟩
    · exact .inr ⟨_, .trailing first ordered closed trailing⟩
  · by_cases empty : segment = []
    · subst empty
      exact .inr ⟨_, .empty⟩
    · have named : Text.Plain ['/', '['] segment := ⟨empty, by simp [whole, opened]⟩
      exact .inl ⟨_, .bare named⟩

theorem parse_eq_ok_iff (whole : '/' ∉ segment) :
    PathElem.parse segment = .ok elem ↔ Spells segment elem := by
  constructor
  · intro parsed
    -- There is one result, so the other case of the grammar cannot be the one at hand
    rcases spells_or_malformed whole with ⟨found, spells⟩ | ⟨fault, malformed⟩
    · cases parsed.symm.trans spells.parse
      exact spells
    · cases parsed.symm.trans malformed.parse
  · exact Spells.parse

theorem parse_eq_error_iff (whole : '/' ∉ segment) :
    PathElem.parse segment = .error fault ↔ Malformed segment fault := by
  constructor
  · intro failed
    rcases spells_or_malformed whole with ⟨elem, spells⟩ | ⟨found, malformed⟩
    · cases failed.symm.trans spells.parse
    · cases failed.symm.trans malformed.parse
      exact malformed
  · exact Malformed.parse

end PathElem

/-! ## The segments of a text -/

namespace Path

variable {body : List Char} {segments : List (List Char)} {elems : List PathElem} {path : Path}

theorem divides_iff :
    Divides body segments ↔
      Text.pieces '/' (Text.dropTrailing '/' (Text.dropLeading '/' body)) = segments := by
  rw [Text.pieces_eq_iff]
  constructor
  · rintro ⟨nonempty, whole, inner, first, last⟩
    rw [Text.dropLeading_eq_iff.mpr first, Text.dropTrailing_eq_iff.mpr last]
    exact ⟨nonempty, whole, rfl⟩
  · rintro ⟨nonempty, whole, joined⟩
    refine ⟨nonempty, whole, _, Text.dropLeading_eq_iff.mp rfl, ?_⟩
    rw [joined]
    exact Text.dropTrailing_eq_iff.mp rfl

theorem each_occupied (each : List.Forall₂ PathElem.Spells segments elems) :
    ∀ segment ∈ segments, segment ≠ [] ∧ '/' ∉ segment :=
  ((List.forall₂_and_left _ _).mp
    (each.imp fun _ _ spells => ⟨⟨spells.ne_nil, spells.no_slash⟩, spells⟩)).1

/-- The text of elements neither begins nor ends with a slash, for no segment is empty. -/
theorem ends_of_each (nonempty : segments ≠ [])
    (each : List.Forall₂ PathElem.Spells segments elems) :
    ['/'].intercalate segments ≠ [] ∧ (['/'].intercalate segments).head? ≠ some '/' ∧
      (['/'].intercalate segments).getLast? ≠ some '/' := by
  have occupied := each_occupied each
  have divided : Text.pieces '/' (['/'].intercalate segments) = segments :=
    Text.pieces_eq_iff.mpr ⟨nonempty, fun segment member => (occupied segment member).2, rfl⟩
  apply Text.ends_of_pieces
  rw [divided]
  exact fun member => (occupied [] member).1 rfl

/-- An optional slash in front of elements and one behind them are no part of a segment. -/
theorem divides_of_each {leading trailing : List Char} (first : Text.IsOptionalSlash leading)
    (last : Text.IsOptionalSlash trailing) (nonempty : segments ≠ [])
    (each : List.Forall₂ PathElem.Spells segments elems) :
    Divides (leading ++ ['/'].intercalate segments ++ trailing) segments := by
  obtain ⟨filled, front, back⟩ := ends_of_each nonempty each
  refine ⟨nonempty, fun segment member => (each_occupied each segment member).2,
    ['/'].intercalate segments ++ trailing, ?_, ?_⟩
  · rcases first with rfl | rfl
    · rw [List.head?_append_of_ne_nil _ filled]
      exact .inr ⟨rfl, front⟩
    · exact .inl (by simp)
  · rcases last with rfl | rfl
    · exact .inr ⟨List.append_nil _, back⟩
    · exact .inl rfl

theorem spells_iff (occupied : ¬ Text.IsOptionalSlash body) :
    Spells body elems ↔
      ∃ segments, Divides body segments ∧ List.Forall₂ PathElem.Spells segments elems := by
  constructor
  · intro spells
    cases spells with
    | none blank => exact absurd blank occupied
    | segments first last nonempty each =>
      exact ⟨_, divides_of_each first last nonempty each, each⟩
  · rintro ⟨segments, ⟨nonempty, -, inner, front, back⟩, each⟩
    have leading : ∃ leading, Text.IsOptionalSlash leading ∧ body = leading ++ inner := by
      rcases front with rfl | ⟨rfl, -⟩
      · exact ⟨['/'], .inr rfl, rfl⟩
      · exact ⟨[], .inl rfl, rfl⟩
    have trailing : ∃ trailing, Text.IsOptionalSlash trailing ∧
        inner = ['/'].intercalate segments ++ trailing := by
      rcases back with rfl | ⟨rfl, -⟩
      · exact ⟨['/'], .inr rfl, rfl⟩
      · exact ⟨[], .inl rfl, (List.append_nil _).symm⟩
    obtain ⟨leading, first, rfl⟩ := leading
    obtain ⟨trailing, last, rfl⟩ := trailing
    rw [← List.append_assoc]
    exact .segments first last nonempty each

theorem spells_blank (blank : Text.IsOptionalSlash body) : Spells body elems ↔ elems = [] := by
  constructor
  · intro spells
    cases spells with
    | none _ => rfl
    | segments first last nonempty each =>
      obtain ⟨filled, front, -⟩ := ends_of_each nonempty each
      obtain ⟨c, rest, joined⟩ := List.exists_cons_of_ne_nil filled
      rw [joined] at blank front
      -- The first segment has a character that is no slash, and there is no room for one
      have slash : c = '/' := by
        rcases blank with empty | root
        · simp at empty
        · have member : c ∈ ['/'] := by
            rw [← root]
            simp
          simpa using member
      exact absurd (congrArg some slash) front
  · rintro rfl
    exact .none blank

/-! ## Whole texts -/

theorem parse_blank {text : String} (blank : Text.IsOptionalSlash text.toList) :
    Path.parse text = .ok {} := by
  rcases blank with empty | root
  · simp [Path.parse, empty, Text.dropLeading]
  · simp [Path.parse, root, Text.dropLeading]

theorem parse_eq {text : String} (occupied : ¬ Text.IsOptionalSlash text.toList)
    (divides : Divides text.toList segments) :
    Path.parse text =
      match segments.mapM PathElem.parse with
      | .ok elems => .ok { elems }
      | .error fault => .error { text, fault } := by
  have filled : Text.dropLeading '/' text.toList ≠ [] := by
    intro empty
    rcases Text.dropLeading_eq_iff.mp empty with root | ⟨none, -⟩
    · exact occupied (.inr root)
    · exact occupied (.inl none)
  cases read : segments.mapM PathElem.parse with
  | ok elems => simp [Path.parse, filled, divides_iff.mp divides, read]
  | error fault => simp [Path.parse, filled, divides_iff.mp divides, read]

theorem exists_divides (body : List Char) : ∃ segments, Divides body segments :=
  ⟨_, divides_iff.mpr rfl⟩

theorem Divides.unique {others : List (List Char)} (first : Divides body segments)
    (second : Divides body others) : segments = others :=
  (divides_iff.mp first).symm.trans (divides_iff.mp second)

theorem mapM_parse_eq_ok_iff (whole : ∀ segment ∈ segments, '/' ∉ segment) :
    segments.mapM PathElem.parse = .ok elems ↔ List.Forall₂ PathElem.Spells segments elems := by
  rw [mapM_eq_ok_iff]
  constructor
  · intro read
    have each := (List.forall₂_and_left _ _).mpr ⟨whole, read⟩
    exact each.imp fun _ _ ⟨slashless, parsed⟩ => (PathElem.parse_eq_ok_iff slashless).mp parsed
  · exact fun each => each.imp fun _ _ => PathElem.Spells.parse

theorem mapM_parse_eq_error_iff {fault : PathFault}
    (whole : ∀ segment ∈ segments, '/' ∉ segment) :
    segments.mapM PathElem.parse = .error fault ↔
      ∃ before bad after, segments = before ++ bad :: after ∧
        (∀ segment ∈ before, ∃ elem, PathElem.Spells segment elem) ∧
        PathElem.Malformed bad fault := by
  rw [mapM_eq_error_iff]
  constructor
  · rintro ⟨before, bad, after, rfl, readable, failed⟩
    refine ⟨before, bad, after, rfl, ?_, ?_⟩
    · intro segment member
      obtain ⟨elem, parsed⟩ := readable segment member
      exact ⟨elem, (PathElem.parse_eq_ok_iff (whole segment (by simp [member]))).mp parsed⟩
    · exact (PathElem.parse_eq_error_iff (whole bad (by simp))).mp failed
  · rintro ⟨before, bad, after, rfl, spelled, malformed⟩
    refine ⟨before, bad, after, rfl, ?_, malformed.parse⟩
    intro segment member
    obtain ⟨elem, spells⟩ := spelled segment member
    exact ⟨elem, spells.parse⟩

theorem parse_eq_ok_iff_spells {text : String} :
    Path.parse text = .ok path ↔
      path.origin = "" ∧ path.target = "" ∧ Spells text.toList path.elems := by
  obtain ⟨origin, elems, target⟩ := path
  by_cases blank : Text.IsOptionalSlash text.toList
  · simp only [parse_blank blank, spells_blank blank, Except.ok.injEq, Path.mk.injEq]
    grind
  · obtain ⟨segments, divides⟩ := exists_divides text.toList
    rw [parse_eq blank divides, spells_iff blank]
    constructor
    · intro parsed
      cases read : segments.mapM PathElem.parse with
      | error fault => simp [read] at parsed
      | ok found =>
        rw [read] at parsed
        cases parsed
        exact ⟨rfl, rfl, segments, divides, (mapM_parse_eq_ok_iff divides.whole).mp read⟩
    · rintro ⟨rfl, rfl, others, same, each⟩
      cases divides.unique same
      rw [(mapM_parse_eq_ok_iff divides.whole).mpr each]

end Path

/-- A text is read as a path if and only if the grammar has it, and as the elements that the grammar
says.  Otherwise the error has the text, and the fault of its leftmost malformed segment. -/
theorem Path.parse_exact (text : String) :
    (∀ path, Path.parse text = .ok path ↔
      path.origin = "" ∧ path.target = "" ∧ Path.Spells text.toList path.elems) ∧
    (∀ error, Path.parse text = .error error ↔
      error.text = text ∧ ¬ Text.IsOptionalSlash text.toList ∧
        ∃ before bad after, Path.Divides text.toList (before ++ bad :: after) ∧
          (∀ segment ∈ before, ∃ elem, PathElem.Spells segment elem) ∧
          PathElem.Malformed bad error.fault) := by
  refine ⟨fun path => Path.parse_eq_ok_iff_spells, ?_⟩
  rintro ⟨reported, fault⟩
  constructor
  · intro failed
    have occupied : ¬ Text.IsOptionalSlash text.toList := by
      intro blank
      cases failed.symm.trans (Path.parse_blank blank)
    obtain ⟨segments, divides⟩ := Path.exists_divides text.toList
    rw [Path.parse_eq occupied divides] at failed
    cases read : segments.mapM PathElem.parse with
    | ok elems => simp [read] at failed
    | error found =>
      rw [read] at failed
      cases failed
      obtain ⟨before, bad, after, rfl, leftmost⟩ :=
        (Path.mapM_parse_eq_error_iff divides.whole).mp read
      exact ⟨rfl, occupied, before, bad, after, divides, leftmost⟩
  · rintro ⟨rfl, occupied, before, bad, after, divides, leftmost⟩
    have failed := (Path.mapM_parse_eq_error_iff divides.whole).mpr
      ⟨before, bad, after, rfl, leftmost⟩
    rw [Path.parse_eq occupied divides, failed]

example : Path.parse "a[k=x=[y]/b]/" = .ok { elems := [
    { name := "a", keys := TextMap.empty.insert "k" "x=[y" }, { name := "b]" }] } := by
  decide +kernel

end PbrTelemetry
