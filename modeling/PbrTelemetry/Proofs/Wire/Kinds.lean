import PbrTelemetry.Proofs.Text.Utf8
import PbrTelemetry.Proofs.Wire.Merge
import PbrTelemetry.Wire.Decode

/-!
# Fields of each kind

What each kind of field contributes: which fields a message must know to have it, and what merging
it makes of a message that does not have it yet.  A scalar with its default value is not written, so
merging that value must not change anything.
-/

namespace PbrTelemetry.Wire

/-! ## Scalars -/

@[simp] theorem textOfBytes?_bytesOfText (text : String) :
    textOfBytes? (bytesOfText text) = some text :=
  Text.fromUTF8?_utf8 text

@[simp] theorem wordOfBool_eq_zero {value : Bool} : wordOfBool value = 0 ↔ value = false := by
  cases value with
  | false => decide
  | true => decide

@[simp] theorem int32OfWord_wordOfInt32 (n : Int32) : int32OfWord (wordOfInt32 n) = n := by
  apply Int32.toBitVec_inj.mp
  show (n.toBitVec.signExtend 64).setWidth 32 = n.toBitVec
  ext i small
  have inside : i < 64 := by omega
  rw [BitVec.getElem_setWidth, BitVec.getLsbD_signExtend]
  simp [small, inside, BitVec.getLsbD_eq_getElem]

/-! ## The fields of a kind -/

section

variable {P : Field → Prop} {number : Nat}

theorem forall_mem_unless {default : Prop} [Decidable default] {field : Field} :
    (∀ written ∈ (if default then [] else [field]), P written) ↔ (¬ default → P field) := by
  split
  · next isDefault => simp [isDefault]
  · next isOther => simp [isOther]

@[simp] theorem forall_mem_textField {text : String} :
    (∀ field ∈ textField number text, P field) ↔
      (text ≠ "" → P ⟨number, .bytes (bytesOfText text)⟩) :=
  forall_mem_unless

@[simp] theorem forall_mem_bytesField {bytes : List UInt8} :
    (∀ field ∈ bytesField number bytes, P field) ↔ (bytes ≠ [] → P ⟨number, .bytes bytes⟩) :=
  forall_mem_unless

@[simp] theorem forall_mem_wordField {word : UInt64} :
    (∀ field ∈ wordField number word, P field) ↔ (word ≠ 0 → P ⟨number, .varint word⟩) :=
  forall_mem_unless

@[simp] theorem forall_mem_optionalField {β : Type} {fields : β → List Field} {value : Option β} :
    (∀ field ∈ optionalField number fields value, P field) ↔
      (∀ message ∈ value, P (messageField number (fields message))) := by
  cases value with
  | none => simp [optionalField]
  | some message => simp [optionalField]

end

section

variable {α : Type} {shape : Shape α} {number : Nat}

@[simp] theorem Shape.knows_bytes {content : List UInt8} :
    shape.Knows ⟨number, .bytes content⟩ ↔
      number ∈ shape.numbers ∧ 0 < number ∧ number < 2 ^ 29 := by
  constructor
  · intro knows
    exact ⟨knows.number, knows.plain.positive, knows.plain.below⟩
  · rintro ⟨known, positive, below⟩
    exact ⟨known, positive, below, ⟨nofun, nofun⟩, fun _ => ⟨content, rfl⟩⟩

@[simp] theorem Shape.knows_messageField {fields : List Field} :
    shape.Knows (messageField number fields) ↔
      number ∈ shape.numbers ∧ 0 < number ∧ number < 2 ^ 29 :=
  knows_bytes

def Payload.isNumber : Payload → Bool
  | .varint _ | .fixed64 _ | .fixed32 _ => true
  | .bytes _ | .groupStart | .groupEnd => false

theorem Shape.knows_number {payload : Payload} (isNumber : payload.isNumber = true) :
    shape.Knows ⟨number, payload⟩ ↔
      number ∈ shape.numbers ∧ 0 < number ∧ number < 2 ^ 29 ∧ number ∉ shape.framed := by
  constructor
  · intro knows
    refine ⟨knows.number, knows.plain.positive, knows.plain.below, ?_⟩
    intro framed
    obtain ⟨content, same⟩ := knows.plain.bytes (decide_eq_true framed)
    cases same
    cases isNumber
  · rintro ⟨known, positive, below, unframed⟩
    have ungrouped : payload ≠ .groupStart ∧ payload ≠ .groupEnd := by
      constructor <;> rintro rfl <;> cases isNumber
    exact ⟨known, positive, below, ungrouped,
      fun framed => absurd (of_decide_eq_true framed) unframed⟩

@[simp] theorem Shape.knows_varint {word : UInt64} :
    shape.Knows ⟨number, .varint word⟩ ↔
      number ∈ shape.numbers ∧ 0 < number ∧ number < 2 ^ 29 ∧ number ∉ shape.framed :=
  knows_number rfl

@[simp] theorem Shape.knows_fixed32 {bits : UInt32} :
    shape.Knows ⟨number, .fixed32 bits⟩ ↔
      number ∈ shape.numbers ∧ 0 < number ∧ number < 2 ^ 29 ∧ number ∉ shape.framed :=
  knows_number rfl

@[simp] theorem Shape.knows_fixed64 {bits : UInt64} :
    shape.Knows ⟨number, .fixed64 bits⟩ ↔
      number ∈ shape.numbers ∧ 0 < number ∧ number < 2 ^ 29 ∧ number ∉ shape.framed :=
  knows_number rfl

@[simp] theorem Field.isSmall_messageField {fields : List Field} :
    (messageField number fields).IsSmall ↔ (Field.writeAll fields).length < 2 ^ 64 := by
  simp [Field.IsSmall, messageField]

end

/-! ## Merging the fields of a kind -/

section

variable {σ : Type} {absorb : σ → Field → Option σ} {start done : σ} {number : Nat}

/-- A field that is left out by default is not missed if merging it would have changed nothing. -/
theorem foldlM_unless {default : Prop} [Decidable default] {field : Field}
    (unchanged : default → absorb start field = some start)
    (merged : absorb start field = some done) :
    (if default then [] else [field]).foldlM absorb start = some done := by
  split
  · next isDefault => exact (unchanged isDefault).symm.trans merged
  · simp [merged]

theorem foldlM_textField {text : String}
    (unchanged : absorb start ⟨number, .bytes (bytesOfText "")⟩ = some start)
    (merged : absorb start ⟨number, .bytes (bytesOfText text)⟩ = some done) :
    (textField number text).foldlM absorb start = some done := by
  apply foldlM_unless _ merged
  rintro rfl
  exact unchanged

theorem foldlM_bytesField {bytes : List UInt8}
    (unchanged : absorb start ⟨number, .bytes []⟩ = some start)
    (merged : absorb start ⟨number, .bytes bytes⟩ = some done) :
    (bytesField number bytes).foldlM absorb start = some done := by
  apply foldlM_unless _ merged
  rintro rfl
  exact unchanged

theorem foldlM_wordField {word : UInt64}
    (unchanged : absorb start ⟨number, .varint 0⟩ = some start)
    (merged : absorb start ⟨number, .varint word⟩ = some done) :
    (wordField number word).foldlM absorb start = some done := by
  apply foldlM_unless _ merged
  rintro rfl
  exact unchanged

end

/-! ## Merging nested messages -/

section

variable {α σ : Type} {shape : Nat → Shape α} {fields : α → List Field} {nesting : α → Nat}
  {default : α} {depth number : Nat} {absorb : σ → Field → Option σ}

/-- An optional message is rebuilt.  `put` is the message around it, with it or without. -/
theorem Shape.Faithful.foldlM_optional (faithful : Shape.Faithful shape fields nesting default)
    (put : Option α → σ)
    (merges : ∀ content, absorb (put none) ⟨number, .bytes content⟩
      = (mergeOptional shape depth default none content).map put)
    {value : Option α}
    (small : ∀ message ∈ value, (Field.writeAll (fields message)).length < 2 ^ 64)
    (shallow : ∀ message ∈ value, nesting message < depth) :
    (optionalField number fields value).foldlM absorb (put none) = some (put value) := by
  cases value with
  | none => rfl
  | some message =>
    have merged := faithful.mergeNested_writeAll (small message rfl) (shallow message rfl)
    have absorbed : absorb (put none) (messageField number (fields message))
        = some (put (some message)) := by
      rw [messageField, merges, mergeOptional, Option.getD_none, merged]
      rfl
    simp [optionalField, absorbed]

/-- A list of messages is rebuilt one by one.  `put` is the message around those that were merged.
-/
theorem Shape.Faithful.foldlM_repeated (faithful : Shape.Faithful shape fields nesting default)
    (put : List α → σ)
    (merges : ∀ before content, absorb (put before) ⟨number, .bytes content⟩
      = (mergeNested shape depth default content).map fun message => put (before ++ [message]))
    {messages : List α}
    (small : ∀ message ∈ messages, (Field.writeAll (fields message)).length < 2 ^ 64)
    (shallow : ∀ message ∈ messages, nesting message < depth) :
    (messages.map fun message => messageField number (fields message)).foldlM absorb (put [])
      = some (put messages) := by
  suffices general : ∀ before,
      (messages.map fun message => messageField number (fields message)).foldlM absorb (put before)
        = some (put (before ++ messages)) by
    exact general []
  induction messages with
  | nil => simp
  | cons message rest ih =>
    obtain ⟨smallFirst, smallRest⟩ := List.forall_mem_cons.mp small
    obtain ⟨shallowFirst, shallowRest⟩ := List.forall_mem_cons.mp shallow
    intro before
    have merged := faithful.mergeNested_writeAll smallFirst shallowFirst
    rw [List.map_cons, List.foldlM_cons, messageField, merges, merged]
    simpa using ih smallRest shallowRest (before ++ [message])

theorem Shape.Faithful.mergeOptional_lt (faithful : Shape.Faithful shape fields nesting default)
    {value result : Option α} {bytes : List UInt8}
    (merged : mergeOptional shape depth default value bytes = some result)
    (bounded : ∀ message ∈ value, nesting message < depth) :
    ∀ message ∈ result, nesting message < depth := by
  obtain ⟨message, nested, rfl⟩ := Option.map_eq_some_iff.mp merged
  have start : nesting (value.getD default) ≤ depth - 1 := by
    cases value with
    | none =>
      rw [Option.getD_none, faithful.flat]
      exact Nat.zero_le _
    | some old => exact Nat.le_sub_one_of_lt (bounded old rfl)
  rintro _ ⟨⟩
  exact faithful.mergeNested_lt nested start

end

end PbrTelemetry.Wire
