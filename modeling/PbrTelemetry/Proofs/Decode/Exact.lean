import Mathlib.Data.List.Basic
import PbrTelemetry.Counter
import PbrTelemetry.Proofs.Decode.Outcome
import PbrTelemetry.Proofs.Json.Number

/-!
# Exact numbers

A number of a record is the one that the last leaf with its key writes, or zero if no leaf has the
key.  A leaf that writes no number of 64 bits is refused with its text (`Counter.numbers_exact`).

On its way a number is written as text and read again.  `LeafValue.writesNumber_text_iff` says that
nothing is lost or gained there: the text of a leaf writes a number just in case the leaf itself
does.  The one exception are scalar doubles, which are written like integers if they are whole.
-/

namespace PbrTelemetry

open Json (leafText)
open Text (WritesNumber not_writesNumber_of_mem)

/-! ## What a leaf writes -/

namespace LeafValue

/-- The leaf writes the number: as an integer, or as text with digits, an optional plus sign and
blanks around. -/
def Writes (leaf : LeafValue) (n : Nat) : Prop :=
  match leaf with
  | .scalar (.uint value) => value.toNat = n
  | .scalar (.int value) => value.toInt = n
  | .scalar (.string text) => WritesNumber text.toList n
  | .json (.integer value) => value = n
  | .json (.string text) => WritesNumber text.toList n
  | _ => False

def isScalarDouble : LeafValue → Bool
  | .scalar (.double _) => true
  | _ => false

variable {leaf : LeafValue} {n : Nat}

theorem not_writesNumber_word (text : String)
    (word : text ∈ ["true", "false", "null", TypedValue.unsupportedText]) :
    ¬ WritesNumber text.toList n := by
  have letter : ∀ text ∈ ["true", "false", "null", TypedValue.unsupportedText],
      'u' ∈ text.toList ∨ 'l' ∈ text.toList := by
    decide
  rcases letter text word with there | there
  · exact not_writesNumber_of_mem there (by decide) (by decide) (by decide)
  · exact not_writesNumber_of_mem there (by decide) (by decide) (by decide)

theorem writesNumber_scalarText_iff {value : TypedValue}
    (noDouble : (scalar value).isScalarDouble = false) :
    WritesNumber value.scalarText.toList n ↔ (scalar value).Writes n := by
  cases value with
  | uint value =>
    rw [TypedValue.scalarText, String.toList_ofList, Text.writesNumber_toDigits_iff]
    exact eq_comm
  | int value => exact Json.writesNumber_renderInteger_iff
  | string text => exact Iff.rfl
  | bool value => cases value <;> exact iff_of_false (not_writesNumber_word _ (by decide)) id
  | double value => cases noDouble
  | _ => exact iff_of_false (not_writesNumber_word TypedValue.unsupportedText (by decide)) id

/-- The text of a leaf of a tree writes the number that the leaf writes. -/
theorem writesNumber_leafText_iff {leaf : Json} :
    WritesNumber (leafText leaf).toList n ↔ (json leaf).Writes n := by
  cases leaf with
  | integer value => exact Json.writesNumber_renderInteger_iff
  | string text => exact Iff.rfl
  | double value => exact iff_of_false (Json.not_writesNumber_renderDouble value n) id
  | bool value => cases value <;> exact iff_of_false (not_writesNumber_word _ (by decide)) id
  | null | array _ | object _ => exact iff_of_false (not_writesNumber_word "null" (by decide)) id

theorem writesNumber_text_iff (noDouble : leaf.isScalarDouble = false) :
    WritesNumber leaf.text.toList n ↔ leaf.Writes n := by
  cases leaf with
  | scalar value => exact writesNumber_scalarText_iff noDouble
  | json leaf => exact writesNumber_leafText_iff

/-- A number of 64 bits is read from the text of the leaves that write it. -/
theorem word?_text_eq_some_iff {word : UInt64} (noDouble : leaf.isScalarDouble = false) :
    Text.word? (Text.trim leaf.text.toList) = some word ↔ leaf.Writes word.toNat :=
  Text.word?_trim_eq_some_iff.trans (writesNumber_text_iff noDouble)

end LeafValue

/-! ## What stands under a key -/

/-- The number is the one that the last leaf of the key writes, or zero if no leaf has the key. -/
def Counts (leaves : List (String × LeafValue)) (key : String) (word : UInt64) : Prop :=
  (∀ leaf ∈ leaves, leaf.1 ≠ key) ∧ word = 0 ∨
    ∃ leaf, IsLastEntry key leaf leaves ∧ leaf.Writes word.toNat

/-- The last leaf of the key has this text and writes no number of 64 bits. -/
def Refused (leaves : List (String × LeafValue)) (key text : String) : Prop :=
  ∃ leaf, IsLastEntry key leaf leaves ∧ leaf.text = text ∧ ∀ word : UInt64, ¬ leaf.Writes word.toNat

/-- The last leaf of the key is not a double as a scalar. -/
def NoDouble (leaves : List (String × LeafValue)) (key : String) : Prop :=
  ∀ leaf, IsLastEntry key leaf leaves → leaf.isScalarDouble = false

theorem noDouble_of_forall {leaves : List (String × LeafValue)}
    (none : ∀ leaf ∈ leaves, leaf.2.isScalarDouble = false) (key : String) :
    NoDouble leaves key := by
  rintro leaf ⟨before, after, rfl, -⟩
  exact none (key, leaf) (by simp)

/-- The map has under the key the text of the last leaf with it. -/
def Shows (map : FlatMap) (leaves : List (String × LeafValue)) (key : String) : Prop :=
  map.get? key = (findEntry key leaves.reverse).map LeafValue.text

section Fields

variable {leaves : List (String × LeafValue)} {map : FlatMap} {key : String} {word : UInt64}

theorem wordField_eq_ok_iff (shows : Shows map leaves key) (noDouble : NoDouble leaves key) :
    FlatMap.wordField map key = .ok word ↔ Counts leaves key word := by
  rw [FlatMap.wordField, shows, Counts, ← findEntry_reverse_eq_none_iff]
  simp only [← findEntry_reverse_eq_some_iff]
  cases found : findEntry key leaves.reverse with
  | none => simp [eq_comm]
  | some leaf =>
    have single := noDouble leaf (findEntry_reverse_eq_some_iff.mp found)
    simp only [Option.map_some, Option.some.injEq, exists_eq_left', reduceCtorEq, false_and,
      false_or, ← LeafValue.word?_text_eq_some_iff single]
    cases Text.word? (Text.trim leaf.text.toList) with
    | none => simp
    | some word => simp

theorem wordField_eq_error_iff (shows : Shows map leaves key) (noDouble : NoDouble leaves key)
    {error : DecodeError} :
    FlatMap.wordField map key = .error error ↔
      ∃ text, error = .conversion key text ∧ Refused leaves key text := by
  rw [FlatMap.wordField, shows]
  simp only [Refused, ← findEntry_reverse_eq_some_iff]
  cases found : findEntry key leaves.reverse with
  | none => simp
  | some leaf =>
    have single := noDouble leaf (findEntry_reverse_eq_some_iff.mp found)
    simp only [Option.map_some, Option.some.injEq, exists_eq_left',
      ← LeafValue.word?_text_eq_some_iff single]
    cases Text.word? (Text.trim leaf.text.toList) with
    | none => simp [eq_comm]
    | some word => simp

end Fields

/-! ## The four numbers of a record -/

namespace PbrStat

/-- The number fields with their keys, in the order in which they are read. -/
def numberFields : List (String × (PbrStat → UInt64)) :=
  [(leaves.byteCount, byteCount), (leaves.packetCount, packetCount), (leaves.seconds, seconds),
    (leaves.nanoseconds, nanoseconds)]

def numberKeys : List String := numberFields.map Prod.fst

def fault? (map : FlatMap) (key : String) : Option DecodeError :=
  match FlatMap.wordField map key with
  | .ok _ => none
  | .error error => some error

variable {map : FlatMap} {key : String} {error : DecodeError} {stat : PbrStat}

theorem fault?_eq_some_iff :
    fault? map key = some error ↔ FlatMap.wordField map key = .error error := by
  rw [fault?]
  cases FlatMap.wordField map key with
  | ok word => simp
  | error other => simp

/-- Either the first number field that is no number is at fault, or all of them are read. -/
theorem ofMap_cases (map : FlatMap) :
    (∃ error, ofMap map = .error error ∧ numberKeys.findSome? (fault? map) = some error) ∨
    ∃ stat, ofMap map = .ok stat ∧
      ∀ field ∈ numberFields, FlatMap.wordField map field.1 = .ok (field.2 stat) := by
  simp only [ofMap, numberKeys, numberFields, List.map_cons, List.map_nil, List.findSome?_cons,
    List.forall_mem_cons, fault?]
  cases byteCountRead : FlatMap.wordField map leaves.byteCount with
  | error error => exact .inl ⟨error, rfl, rfl⟩
  | ok byteCount =>
    cases packetCountRead : FlatMap.wordField map leaves.packetCount with
    | error error => exact .inl ⟨error, rfl, rfl⟩
    | ok packetCount =>
      cases secondsRead : FlatMap.wordField map leaves.seconds with
      | error error => exact .inl ⟨error, rfl, rfl⟩
      | ok seconds =>
        cases nanosecondsRead : FlatMap.wordField map leaves.nanoseconds with
        | error error => exact .inl ⟨error, rfl, rfl⟩
        | ok nanoseconds =>
          exact .inr ⟨_, rfl, rfl, rfl, rfl, rfl, List.forall_mem_nil _⟩

theorem wordField_of_ofMap (read : ofMap map = .ok stat) :
    ∀ field ∈ numberFields, FlatMap.wordField map field.1 = .ok (field.2 stat) := by
  rcases ofMap_cases map with ⟨other, failed, -⟩ | ⟨found, ok, all⟩
  · cases read.symm.trans failed
  · cases read.symm.trans ok
    exact all

end PbrStat

/-! ## Responses -/

def SubscribeResponse.decodedLeaves : SubscribeResponse → List (String × LeafValue)
  | .update notification => notification.decodedLeaves
  | _ => []

/-- The field is the first one that is refused, and this is its text. -/
def FirstRefused (leaves : List (String × LeafValue)) (key text : String) : Prop :=
  ∃ before after, PbrStat.numberKeys = before ++ key :: after ∧ Refused leaves key text ∧
    ∀ earlier ∈ before, ∀ other, ¬ Refused leaves earlier other

/-- Either no number field is refused and there is a record, or the first one that is refused ends
it. -/
theorem ofMap_refused_cases {leaves : List (String × LeafValue)} {map : FlatMap}
    (shows : ∀ key ∈ PbrStat.numberKeys, Shows map leaves key)
    (noDouble : ∀ key ∈ PbrStat.numberKeys, NoDouble leaves key) :
    ((∀ key ∈ PbrStat.numberKeys, ∀ text, ¬ Refused leaves key text) ∧
      ∃ stat, PbrStat.ofMap map = .ok stat) ∨
    ∃ key text, FirstRefused leaves key text ∧
      PbrStat.ofMap map = .error (.conversion key text) := by
  have faulty : ∀ key ∈ PbrStat.numberKeys, ∀ error, PbrStat.fault? map key = some error ↔
      ∃ text, error = .conversion key text ∧ Refused leaves key text :=
    fun key member error => PbrStat.fault?_eq_some_iff.trans
      (wordField_eq_error_iff (shows key member) (noDouble key member))
  -- The fields before the first fault are read, so none of them is refused
  have sound : ∀ key ∈ PbrStat.numberKeys, PbrStat.fault? map key = none →
      ∀ text, ¬ Refused leaves key text := by
    intro key member none text refused
    rw [(faulty key member _).mpr ⟨text, rfl, refused⟩] at none
    cases none
  rcases PbrStat.ofMap_cases map with ⟨error, read, first⟩ | ⟨stat, read, all⟩
  · obtain ⟨before, key, after, fields, fault, none⟩ := List.findSome?_eq_some_iff.mp first
    have member : key ∈ PbrStat.numberKeys := fields ▸ List.mem_append_cons_self
    have members : ∀ earlier ∈ before, earlier ∈ PbrStat.numberKeys :=
      fun earlier there => fields ▸ List.mem_append_left _ there
    obtain ⟨text, rfl, refused⟩ := (faulty key member error).mp fault
    exact .inr ⟨key, text, ⟨before, after, fields, refused,
      fun earlier there => sound earlier (members earlier there) (none earlier there)⟩, read⟩
  · refine .inl ⟨?_, stat, read⟩
    rw [PbrStat.numberKeys, List.forall_mem_map]
    intro field member
    apply sound field.1 (List.mem_map_of_mem member)
    rw [PbrStat.fault?, all field member]

/-- In the map of a notification the number fields stand as in its leaves. -/
theorem Notification.shows_of_flatten {notification : Notification} {origin : String}
    {map : FlatMap} (flat : notification.flatten origin = .ok map) :
    ∀ key ∈ PbrStat.numberKeys, Shows map notification.decodedLeaves key := by
  have apart : ∀ key ∈ PbrStat.numberKeys, ruleNameKey ≠ key ∧ policyNameKey ≠ key := by decide
  intro key member
  obtain ⟨noRule, noPolicy⟩ := apart key member
  obtain ⟨-, policy, rule, -, -, rfl⟩ := eq_of_flatten_ok flat
  rw [Shows, TextMap.get?_insert, if_neg noRule, TextMap.get?_insert, if_neg noPolicy, leafMap,
    TextMap.get?_ofList, LeafValue.entries, ← List.map_reverse, findEntry_map]

namespace Counter

variable {counter : Counter}

theorem checkResponse_of_flatten {notification : Notification} {map : FlatMap}
    (flat : notification.flatten counter.origin = .ok map) :
    counter.checkResponse (.update notification) = PbrStat.ofMap map := by
  rw [checkResponse, flat]
  rfl

theorem exists_of_checkResponse {response : SubscribeResponse} {stat : PbrStat}
    (checked : counter.checkResponse response = .ok stat) :
    ∃ notification map, response = .update notification ∧
      notification.flatten counter.origin = .ok map ∧ PbrStat.ofMap map = .ok stat := by
  cases response with
  | update notification =>
    cases flat : notification.flatten counter.origin with
    | error error =>
      rw [checkResponse, flat] at checked
      cases checked
    | ok map =>
      rw [checkResponse_of_flatten flat] at checked
      exact ⟨notification, map, rfl, flat, checked⟩
  | empty | sync _ | error _ => cases checked

/-- The numbers of a record are those of its leaves, and a response is refused for the first leaf
that has none, with its text.  From JSON only the digits of an integer, behind a minus sign or not,
are read as that integer. -/
theorem numbers_exact (counter : Counter) (response : SubscribeResponse)
    (noDouble : ∀ key ∈ PbrStat.numberKeys, NoDouble response.decodedLeaves key) :
    (∀ stat, counter.checkResponse response = .ok stat →
      ∀ field ∈ PbrStat.numberFields, Counts response.decodedLeaves field.1 (field.2 stat)) ∧
    (∀ notification map, response = .update notification →
      notification.flatten counter.origin = .ok map →
      ((∀ key ∈ PbrStat.numberKeys, ∀ text, ¬ Refused response.decodedLeaves key text) ∧
        ∃ stat, counter.checkResponse response = .ok stat) ∨
      ∃ key text, FirstRefused response.decodedLeaves key text ∧
        counter.checkResponse response = .error (.conversion key text)) ∧
    ∀ text rest n, Json.number text = some (.integer n, rest) ↔
      text = (Json.renderInteger n).toList ++ rest ∧ -2 ^ 63 ≤ n ∧ n < 2 ^ 64 ∧
        Json.EndsNumber rest := by
  refine ⟨?_, ?_, fun text rest n => Json.number_eq_integer_iff⟩
  · intro stat checked field member
    obtain ⟨notification, map, rfl, flat, read⟩ := exists_of_checkResponse checked
    have inKeys : field.1 ∈ PbrStat.numberKeys := List.mem_map_of_mem member
    exact (wordField_eq_ok_iff (Notification.shows_of_flatten flat field.1 inKeys)
      (noDouble field.1 inKeys)).mp (PbrStat.wordField_of_ofMap read field member)
  · rintro notification map rfl flat
    rw [checkResponse_of_flatten flat]
    exact ofMap_refused_cases (Notification.shows_of_flatten flat) noDouble

/-- A notification in which a text for the bytes is followed by a payload and by the seconds. -/
def measured (payload : String) (seconds : Int64) : Notification where
  prefixPath := some
    { origin := pbrOrigin
      elems :=
        [{ name := "policy-map", keys := TextMap.empty.insert "policy-name" "web" },
         { name := "rule-name", keys := TextMap.empty.insert "rule-name" "deny" }] }
  update :=
    [{ path := some { elems := [{ name := "fib-stats" }, { name := "byte-count" }] }
       val := some (.string "many") },
     { path := some {}, val := some (.jsonIetf payload.toUTF8.data.toList) },
     { path := some
        { elems := [{ name := "fib-stats" }, { name := "collection-timestamp" },
            { name := "seconds" }] }
       val := some (.int seconds) }]

def greatestPayload : String :=
  "\x7b\"fib-stats\": \x7b\"byte-count\": \" +007\\u3000\", " ++
    "\"packet-count\": 18446744073709551615\x7d\x7d"

def tooGreatPayload : String :=
  "\x7b\"fib-stats\": \x7b\"byte-count\": 0, " ++
    "\"packet-count\": \"18446744073709551616 \"\x7d\x7d"

theorem numbers_exact_greatest :
    (∃ stat, checkResponse {} (.update (measured greatestPayload 5)) = .ok stat ∧
      stat.byteCount = 7 ∧ stat.packetCount = 18446744073709551615 ∧ stat.seconds = 5 ∧
      stat.nanoseconds = 0 ∧ ∀ field ∈ PbrStat.numberFields,
        Counts (measured greatestPayload 5).decodedLeaves field.1 (field.2 stat)) ∧
    FirstRefused (measured tooGreatPayload (-1)).decodedLeaves PbrStat.leaves.packetCount
      "18446744073709551616 " := by
  have single : ∀ notification ∈ [measured greatestPayload 5, measured tooGreatPayload (-1)],
      ∀ leaf ∈ notification.decodedLeaves, leaf.2.isScalarDouble = false := by decide +kernel
  have noDouble : ∀ notification ∈ [measured greatestPayload 5, measured tooGreatPayload (-1)],
      ∀ key ∈ PbrStat.numberKeys, NoDouble notification.decodedLeaves key :=
    fun notification member key _ => noDouble_of_forall (single notification member) key
  have read : checkResponse {} (.update (measured greatestPayload 5)) = .ok
      { policyName := "web", ruleName := "deny", byteCount := 7
        packetCount := 18446744073709551615, seconds := 5, nanoseconds := 0, pathGroup := ""
        action := "" } := by
    decide +kernel
  have flat : (measured tooGreatPayload (-1)).flatten pbrOrigin = .ok (TextMap.ofList
      [(PbrStat.leaves.byteCount, "0"), (PbrStat.leaves.packetCount, "18446744073709551616 "),
        (PbrStat.leaves.seconds, "-1"), (policyNameKey, "web"), (ruleNameKey, "deny")]) := by
    decide +kernel
  have refused : checkResponse {} (.update (measured tooGreatPayload (-1)))
      = .error (.conversion PbrStat.leaves.packetCount "18446744073709551616 ") := by
    decide +kernel
  constructor
  · exact ⟨_, read, rfl, rfl, rfl, rfl,
      (numbers_exact {} (.update _) (noDouble _ List.mem_cons_self)).1 _ read⟩
  · rcases (numbers_exact {} (.update _)
      (noDouble _ (List.mem_cons_of_mem _ List.mem_cons_self))).2.1
      _ _ rfl flat with ⟨-, stat, found⟩ | ⟨key, text, first, same⟩
    · cases refused.symm.trans found
    · cases refused.symm.trans same
      exact first

end Counter

end PbrTelemetry
