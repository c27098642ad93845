import PbrTelemetry.Counter
import PbrTelemetry.Proofs.Wire.Grammar
import PbrTelemetry.Proofs.Wire.Merge
import PbrTelemetry.Proofs.Wire.Value

/-!
# Fields that a message does not declare

Targets send more than the messages here declare.  Such a field is passed over with all that it
holds: merging it changes nothing, and fails exactly if it takes more levels than are left
(`Shape.merge_undeclared`).  Since fields are merged one after the other (`Shape.merge_append`),
such fields may stand between any others, and in any message inside of a message
(`Kind.Extends.merge`).

`SubscribeResponse.decode?_extends` is about whole responses.  Even a number takes a level, which
the innermost of a hundred messages does not have (`SubscribeResponse.decode?_extends_deep`).
-/

namespace PbrTelemetry.Wire

open PbrTelemetry.Wire.Field

/-! ## Passing over fields -/

section

variable {α : Type} {shape : Shape α} {depth levels more number : Nat}
  {state next final : Progress α} {fields others : List Field} {payload : Payload}

theorem Progress.step_declared {field : Field} (outside : state.groups = [])
    (declared : field.number ∈ shape.numbers)
    (stepped : Progress.step shape depth state field = some next) : next.groups = [] := by
  rw [Progress.step, if_pos ⟨by simp [outside], declared⟩] at stepped
  obtain ⟨value, -, rfl⟩ := Option.map_eq_some_iff.mp stepped
  exact outside

theorem Progress.step_passed {field : Field}
    (passed : state.groups ≠ [] ∨ field.number ∉ shape.numbers) :
    Progress.step shape depth state field = state.skip depth field := by
  rw [Progress.step, if_neg]
  rintro ⟨outside, declared⟩
  cases passed with
  | inl inside => exact inside (List.isEmpty_iff.mp outside)
  | inr undeclared => exact undeclared declared

theorem Progress.skip_scalar (scalar : IsScalar payload) :
    state.skip depth ⟨number, payload⟩
      = if 1 ≤ depth - state.groups.length then some state else none := by
  have room : 1 ≤ depth - state.groups.length ↔ state.groups.length < depth := by omega
  obtain ⟨noStart, noEnd⟩ := scalar
  simp only [room]
  cases payload with
  | groupStart => exact absurd rfl noStart
  | groupEnd => exact absurd rfl noEnd
  | _ => rfl

/-- The fields change nothing, and are refused exactly if they take more levels than are left. -/
def Progress.Passes (shape : Shape α) (depth : Nat) (state : Progress α) (levels : Nat)
    (fields : List Field) : Prop :=
  fields.foldlM (Progress.step shape depth) state
    = if levels ≤ depth - state.groups.length then some state else none

theorem Progress.Passes.append (first : Passes shape depth state levels fields)
    (second : Passes shape depth state more others) :
    Passes shape depth state (max levels more) (fields ++ others) := by
  rw [Passes, List.foldlM_append, first]
  by_cases room : levels ≤ depth - state.groups.length
  · rw [if_pos room, Option.bind_eq_bind, Option.bind_some, second]
    simp only [Nat.max_le, room, true_and]
  · rw [if_neg room, if_neg (by omega)]
    rfl

theorem Progress.passes_scalar (scalar : IsScalar payload)
    (passed : state.groups ≠ [] ∨ number ∉ shape.numbers) :
    Passes shape depth state 1 [⟨number, payload⟩] := by
  rw [Passes, List.foldlM_cons, Progress.step_passed passed, Progress.skip_scalar scalar]
  split <;> rfl

/-- A group takes one level more than its fields. -/
theorem Progress.passes_group
    (inside : Passes shape depth { state with groups := number :: state.groups } levels fields)
    (passed : state.groups ≠ [] ∨ number ∉ shape.numbers) :
    Passes shape depth state (levels + 1)
      (⟨number, .groupStart⟩ :: (fields ++ [⟨number, .groupEnd⟩])) := by
  have opening : Progress.step shape depth state ⟨number, .groupStart⟩
      = if state.groups.length < depth then some { state with groups := number :: state.groups }
        else none := by
    rw [Progress.step_passed passed]
    rfl
  have closing : Progress.step shape depth { state with groups := number :: state.groups }
      ⟨number, .groupEnd⟩ = some state := by
    rw [Progress.step_passed (.inl (by simp))]
    simp [Progress.skip]
  rw [Passes, List.foldlM_cons, opening]
  by_cases room : state.groups.length < depth
  · rw [if_pos room, Option.bind_eq_bind, Option.bind_some, List.foldlM_append, inside,
      List.length_cons]
    by_cases roomInside : levels ≤ depth - (state.groups.length + 1)
    · rw [if_pos roomInside, if_pos (by omega)]
      simp [closing]
    · rw [if_neg roomInside, if_neg (by omega)]
      rfl
  · rw [if_neg room, if_neg (by omega)]
    rfl

theorem Field.AreBalanced.passes (balanced : AreBalanced levels fields)
    (inside : state.groups ≠ []) : Progress.Passes shape depth state levels fields := by
  induction balanced generalizing state with
  | nil => rfl
  | scalar scalar _ ih => exact (Progress.passes_scalar scalar (.inl inside)).append (ih inside)
  | group _ _ ihInner ihOthers =>
    exact (Progress.passes_group (ihInner (by simp)) (.inl inside)).append (ihOthers inside)

theorem Field.IsWhole.passes (whole : IsWhole number levels fields)
    (passed : state.groups ≠ [] ∨ number ∉ shape.numbers) :
    Progress.Passes shape depth state levels fields := by
  cases whole with
  | scalar scalar => exact Progress.passes_scalar scalar passed
  | group filled => exact Progress.passes_group (filled.passes (by simp)) passed

theorem Progress.step_scalar (scalar : IsScalar payload)
    (stepped : Progress.step shape depth state ⟨number, payload⟩ = some next) :
    next.groups = state.groups := by
  by_cases declared : state.groups = [] ∧ number ∈ shape.numbers
  · rw [Progress.step_declared declared.1 declared.2 stepped, declared.1]
  · rw [Progress.step_passed (Decidable.not_and_iff_not_or_not.mp declared),
      Progress.skip_scalar scalar] at stepped
    split at stepped <;> cases stepped
    rfl

/-- Whether a group is passed over or its marks are declared, no group is left open. -/
theorem Field.AreBalanced.groups_eq (balanced : AreBalanced levels fields)
    (ran : fields.foldlM (Progress.step shape depth) state = some final) :
    final.groups = state.groups := by
  induction balanced generalizing state final with
  | nil =>
    cases ran
    rfl
  | scalar scalar _ ih =>
    obtain ⟨next, stepped, ran⟩ := Option.bind_eq_some_iff.mp ran
    rw [ih ran, Progress.step_scalar scalar stepped]
  | @group number _ _ inner others filled _ ihInner ihOthers =>
    rw [List.foldlM_append] at ran
    obtain ⟨closed, ranGroup, ranOthers⟩ := Option.bind_eq_some_iff.mp ran
    rw [ihOthers ranOthers]
    by_cases declared : state.groups = [] ∧ number ∈ shape.numbers
    · obtain ⟨opened, stepped, ranGroup⟩ := Option.bind_eq_some_iff.mp ranGroup
      rw [List.foldlM_append] at ranGroup
      obtain ⟨filled, ranInner, ranLast⟩ := Option.bind_eq_some_iff.mp ranGroup
      obtain ⟨last, closing, same⟩ := Option.bind_eq_some_iff.mp ranLast
      cases same
      have outside : filled.groups = [] :=
        (ihInner ranInner).trans (Progress.step_declared declared.1 declared.2 stepped)
      rw [Progress.step_declared outside declared.2 closing, declared.1]
    · rw [Progress.passes_group (filled.passes (by simp))
        (Decidable.not_and_iff_not_or_not.mp declared)] at ranGroup
      split at ranGroup <;> cases ranGroup
      rfl

end

/-! ## Merging bytes in parts -/

namespace Shape

variable {α : Type} {shape : Shape α} {depth levels number form : Nat} {value : α}
  {bytes key length content : List UInt8}

theorem merge_of_reads {fields : List Field}
    (reads : Reads (fun n => n ∈ shape.framed) 0 bytes fields 0) :
    shape.merge depth value bytes = shape.mergeFields depth value fields := by
  rw [merge, reads.readAll]
  rfl

theorem merge_append (complete : IsComplete shape.framed bytes) (rest : List UInt8) :
    shape.merge depth value (bytes ++ rest)
      = (shape.merge depth value bytes).bind fun value => shape.merge depth value rest := by
  obtain ⟨levels, fields, balanced, reads⟩ := complete.reads
  rw [merge_of_reads reads, merge, reads.readAll_append]
  simp only [mergeFields, Option.bind_eq_bind]
  cases ran : fields.foldlM (Progress.step shape depth) { value, groups := [] } with
  | none =>
    cases readAll (fun n => n ∈ shape.framed) rest with
    | none => rfl
    | some others => simp [List.foldlM_append, ran]
  | some final =>
    obtain ⟨merged, groups⟩ := final
    obtain rfl : groups = [] := balanced.groups_eq ran
    cases read : readAll (fun n => n ∈ shape.framed) rest with
    | none => simp [merge, read]
    | some others => simp [merge, mergeFields, read, List.foldlM_append, ran]

/-- A field that is not declared changes nothing where enough levels are left for it. -/
theorem merge_undeclared (field : IsField number levels bytes)
    (undeclared : number ∉ shape.numbers) (unframed : number ∉ shape.framed) :
    shape.merge depth value bytes = if levels ≤ depth then some value else none := by
  obtain ⟨fields, whole, reads⟩ :=
    field.reads (fun n => n ∈ shape.framed) (decide_eq_false unframed)
  rw [merge_of_reads reads, mergeFields, whole.passes (.inr undeclared)]
  simp only [List.length_nil, Nat.sub_zero]
  split <;> rfl

theorem merge_framed (keyed : IsKey key number form) (frames : form = 2 ∨ number ∈ shape.framed)
    (sized : IsVarint length content.length) (declared : number ∈ shape.numbers) :
    shape.merge depth value (key ++ (length ++ content))
      = shape.absorb value ⟨number, .bytes content⟩ := by
  have reads :=
    keyed.reads_framed (fun n => n ∈ shape.framed) (frames.imp_right decide_eq_true) sized
  rw [merge_of_reads reads, mergeFields, List.foldlM_cons, Progress.step, if_pos ⟨rfl, declared⟩]
  cases shape.absorb value ⟨number, .bytes content⟩ with
  | none => rfl
  | some merged => rfl

end Shape

end PbrTelemetry.Wire

namespace PbrTelemetry

open Wire

/-! ## The messages of a response -/

inductive Kind where
  | response
  | notification
  | update
  | path
  | pathElem
  | pathKey
  | typedValue
  | decimal
  | leafList
  | any
  | targetError
  deriving DecidableEq, Repr

namespace Kind

def Message : Kind → Type
  | response => SubscribeResponse
  | notification => Notification
  | update => Update
  | path => Path
  | pathElem => PathElem
  | pathKey => String × String
  | typedValue => TypedValue
  | decimal => Decimal64
  | leafList => List TypedValue
  | any => AnyMessage
  | targetError => TargetError

def shape : (kind : Kind) → Nat → Shape kind.Message
  | response => SubscribeResponse.shape
  | notification => Notification.shape
  | update => Update.shape
  | path => Path.shape
  | pathElem => PathElem.shape
  | pathKey => PathElem.keyShape
  | typedValue => TypedValue.shape
  | decimal => Decimal64.shape
  | leafList => TypedValue.leafListShape
  | any => AnyMessage.shape
  | targetError => TargetError.shape

def declared : Kind → List Nat
  | response => [1, 3, 4]
  | notification => [1, 2, 4, 5, 6]
  | update => [1, 3, 4]
  | path => [2, 3, 4]
  | pathElem | pathKey | decimal | any => [1, 2]
  | typedValue => [1, 2, 3, 4, 5, 6, 7, 8, 9, 10, 11, 12, 13, 14]
  | leafList => [1]
  | targetError => [1, 2, 3]

def framed : Kind → List Nat
  | pathElem => [2]
  | _ => []

inductive Holds : Kind → Nat → Kind → Prop
  | notification : Holds response 1 notification
  | targetError : Holds response 4 targetError
  | prefixPath : Holds notification 2 path
  | update : Holds notification 4 update
  | deletedPath : Holds notification 5 path
  | updatedPath : Holds update 1 path
  | value : Holds update 3 typedValue
  | elem : Holds path 3 pathElem
  | key : Holds pathElem 2 pathKey
  | decimal : Holds typedValue 7 decimal
  | leafList : Holds typedValue 8 leafList
  | any : Holds typedValue 9 any
  | element : Holds leafList 1 typedValue
  | errorData : Holds targetError 3 any

variable {kind inner : Kind} {number depth room : Nat}

@[simp] theorem shape_numbers : (kind.shape depth).numbers = kind.declared := by
  cases kind with
  | typedValue =>
    rw [shape, TypedValue.shape_eq]
    rfl
  | _ => rfl

@[simp] theorem shape_framed : (kind.shape depth).framed = kind.framed := by
  cases kind with
  | typedValue =>
    rw [shape, TypedValue.shape_eq]
    rfl
  | _ => rfl

theorem mem_declared_of_framed (member : number ∈ kind.framed) : number ∈ kind.declared := by
  cases kind with
  | pathElem =>
    obtain rfl := List.mem_singleton.mp member
    decide
  | _ => cases member

theorem Holds.declared (holds : Holds kind number inner) : number ∈ kind.declared := by
  cases holds <;> decide

/-- What is merged from the bytes of a field depends on the message that they are, and not on the
bytes. -/
theorem Holds.absorb (holds : Holds kind number inner) (depth : Nat) (value : kind.Message) :
    ∃ (start : inner.Message) (put : inner.Message → kind.Message), ∀ content,
      (kind.shape depth).absorb value ⟨number, .bytes content⟩
        = (Shape.mergeNested inner.shape depth start content).map put := by
  cases holds with
  | notification => exact ⟨_, SubscribeResponse.update, fun _ => rfl⟩
  | targetError => exact ⟨_, SubscribeResponse.error, fun _ => rfl⟩
  | prefixPath => exact ⟨_, _, fun _ => Option.map_map _ _ _⟩
  | update => exact ⟨_, _, fun _ => rfl⟩
  | deletedPath => exact ⟨_, _, fun _ => rfl⟩
  | updatedPath => exact ⟨_, _, fun _ => Option.map_map _ _ _⟩
  | value => exact ⟨_, _, fun _ => Option.map_map _ _ _⟩
  | elem => exact ⟨_, _, fun _ => rfl⟩
  | key => exact ⟨_, _, fun _ => rfl⟩
  | decimal =>
    rw [shape, TypedValue.shape_eq]
    exact ⟨_, TypedValue.decimal, fun _ => rfl⟩
  | leafList =>
    rw [shape, TypedValue.shape_eq]
    exact ⟨_, TypedValue.leafList, fun _ => rfl⟩
  | any =>
    rw [shape, TypedValue.shape_eq]
    exact ⟨_, TypedValue.any, fun _ => rfl⟩
  | element => exact ⟨_, _, fun _ => rfl⟩
  | errorData => exact ⟨_, _, fun _ => Option.map_map _ _ _⟩

/-! ## Messages with more fields -/

/-- The bytes `after` are a message of this kind, `before`, with further fields between its own and
those of the messages inside of it, none of which the message around declares.  Where they stand in
the outermost message, `room` levels are left for them. -/
inductive Extends : Kind → Nat → List UInt8 → List UInt8 → Prop
  | same {kind : Kind} {room : Nat} {bytes : List UInt8} : Extends kind room bytes bytes
  | insert {kind : Kind} {room number levels : Nat} {inserted before after : List UInt8}
      (field : IsField number levels inserted) (undeclared : number ∉ kind.declared)
      (fits : levels ≤ room) (others : Extends kind room before after) :
      Extends kind room before (inserted ++ after)
  | keep {kind : Kind} {room : Nat} {field before after : List UInt8}
      (complete : IsComplete kind.framed field) (others : Extends kind room before after) :
      Extends kind room (field ++ before) (field ++ after)
  | nested {kind inner : Kind} {room number form : Nat}
      {key length content newLength newContent before after : List UInt8}
      (holds : Holds kind number inner) (keyed : IsKey key number form)
      (frames : form = 2 ∨ number ∈ kind.framed)
      (sized : IsVarint length content.length) (resized : IsVarint newLength newContent.length)
      (extended : Extends inner room content newContent)
      (others : Extends kind (room + 1) before after) :
      Extends kind (room + 1) (key ++ (length ++ content) ++ before)
        (key ++ (newLength ++ newContent) ++ after)

theorem Holds.number_lt (holds : Holds kind number inner) : 0 < number ∧ number < 2 ^ 29 := by
  cases holds <;> decide

theorem Extends.write {content newContent : List UInt8} (holds : Holds kind number inner)
    (small : content.length < 2 ^ 64) (newSmall : newContent.length < 2 ^ 64)
    (extended : Extends inner room content newContent) :
    Extends kind (room + 1) (Field.write ⟨number, .bytes content⟩)
      (Field.write ⟨number, .bytes newContent⟩) := by
  obtain ⟨positive, below⟩ := holds.number_lt
  have key : IsKey (writeVarint (8 * number + 2)) number 2 :=
    isKey_writeVarint positive below (by decide)
  have alone : Extends kind (room + 1)
      (writeVarint (8 * number + 2) ++ (writeVarint content.length ++ content) ++ [])
      (writeVarint (8 * number + 2) ++ (writeVarint newContent.length ++ newContent) ++ []) :=
    .nested holds key (.inl rfl) (isVarint_writeVarint small) (isVarint_writeVarint newSmall)
      extended .same
  simpa [Field.write, Payload.write, Payload.form] using alone

theorem isComplete_of_frames {key length content : List UInt8} {form : Nat}
    (keyed : IsKey key number form) (frames : form = 2 ∨ number ∈ kind.framed)
    (sized : IsVarint length content.length) :
    IsComplete kind.framed (key ++ (length ++ content)) := by
  by_cases member : number ∈ kind.framed
  · exact .framed keyed member sized
  · obtain rfl := frames.resolve_right member
    exact .plain (.scalar keyed (.framed sized)) member

theorem Extends.merge {before after : List UInt8} (extended : Extends kind room before after)
    {value result : kind.Message}
    (merged : (kind.shape room).merge room value before = some result) :
    (kind.shape room).merge room value after = some result := by
  induction extended with
  | same => exact merged
  | @insert kind room number levels inserted before after field undeclared fits _ ih =>
    have unframed : number ∉ kind.framed := fun member => undeclared (mem_declared_of_framed member)
    have passed : (kind.shape room).merge room value inserted = some value := by
      rw [Shape.merge_undeclared field (by simpa using undeclared) (by simpa using unframed),
        if_pos fits]
    rw [Shape.merge_append (by simpa using IsComplete.plain field unframed), passed]
    exact ih merged
  | @keep kind room field before after complete _ ih =>
    rw [Shape.merge_append (by simpa using complete)] at merged ⊢
    obtain ⟨value, first, others⟩ := Option.bind_eq_some_iff.mp merged
    rw [first]
    exact ih others
  | @nested kind inner room number form key length content newLength newContent before after
      holds keyed frames sized resized _ _ ihInner ih =>
    obtain ⟨start, put, absorb⟩ := holds.absorb (room + 1) value
    have declared : number ∈ (kind.shape (room + 1)).numbers := by simpa using holds.declared
    have framed : form = 2 ∨ number ∈ (kind.shape (room + 1)).framed := by simpa using frames
    rw [Shape.merge_append (by simpa using isComplete_of_frames keyed frames sized),
      Shape.merge_framed keyed framed sized declared, absorb] at merged
    rw [Shape.merge_append (by simpa using isComplete_of_frames keyed frames resized),
      Shape.merge_framed keyed framed resized declared, absorb]
    obtain ⟨value, first, others⟩ := Option.bind_eq_some_iff.mp merged
    obtain ⟨message, inside, rfl⟩ := Option.map_eq_some_iff.mp first
    have same : Shape.mergeNested inner.shape (room + 1) start newContent = some message :=
      ihInner inside
    rw [same]
    exact ih others

end Kind

/-! ## Responses with more fields -/

namespace SubscribeResponse

/-- A response that is read is still read, and yields the same, with any fields in it that its
messages do not declare, as long as no field needs a level beyond the last one. -/
theorem decode?_extends {before after : List UInt8} {response : SubscribeResponse}
    (decoded : decode? before = some response)
    (extended : Kind.Extends .response nestingLimit before after) :
    decode? after = some response ∧ ∀ counter : Counter,
      (decode? after).map counter.checkResponse = (decode? before).map counter.checkResponse := by
  have same : decode? after = some response := extended.merge decoded
  refine ⟨same, fun counter => ?_⟩
  rw [same, decoded]

theorem decode?_extends_group :
    decode? [10, 2, 8, 5] = some (.update { timestamp := 5 }) ∧
    decode? [16, 0, 10, 6, 27, 8, 7, 28, 8, 5] = some (.update { timestamp := 5 }) := by
  have decoded : decode? [10, 2, 8, 5] = some (.update { timestamp := 5 }) := rfl
  have number : IsField 2 1 ([16] ++ [0]) :=
    .scalar (.byte rfl (by decide) (by decide) (by decide)) (.varint (.byte rfl (by decide)))
  have inner : IsKey [8] 1 0 := .byte rfl (by decide) (by decide) (by decide)
  have group : IsField 3 2 ([27] ++ ([8] ++ [7] ++ []) ++ [28]) :=
    .group (.byte rfl (by decide) (by decide) (by decide))
      (.scalar inner (.varint (.byte rfl (by decide))) .nil)
      (.byte rfl (by decide) (by decide) (by decide))
  have inside : Kind.Extends .notification 99 [8, 5] [27, 8, 7, 28, 8, 5] :=
    .insert group (by decide) (by decide) .same
  have extended : Kind.Extends .response nestingLimit ([10] ++ ([2] ++ [8, 5]) ++ [])
      ([16, 0] ++ ([10] ++ ([6] ++ [27, 8, 7, 28, 8, 5]) ++ [])) :=
    .insert number (by decide) (by decide)
      (.nested .notification (.byte rfl (by decide) (by decide) (by decide)) (.inl rfl)
        (.byte rfl (by decide)) (.byte rfl (by decide)) inside .same)
  exact ⟨decoded, (decode?_extends decoded extended).1⟩

def inLeafLists : Nat → List UInt8 → List UInt8
  | 0, value => value
  | count + 1, value => Field.write ⟨8, .bytes (Field.write ⟨1, .bytes (inLeafLists count value)⟩)⟩

def deepest (content : List UInt8) : List UInt8 :=
  Field.write ⟨1, .bytes (Field.write ⟨4, .bytes (Field.write ⟨3, .bytes
    (inLeafLists 48 (Field.write ⟨8, .bytes content⟩))⟩)⟩)⟩

theorem extends_inLeafLists {count room : Nat} {value newValue : List UInt8}
    (small : (inLeafLists count value).length < 2 ^ 64)
    (newSmall : (inLeafLists count newValue).length < 2 ^ 64)
    (extended : Kind.Extends .typedValue room value newValue) :
    Kind.Extends .typedValue (room + 2 * count) (inLeafLists count value)
      (inLeafLists count newValue) := by
  induction count with
  | zero => exact extended
  | succ count ih =>
    -- The list holds the element, and the element what is inside of it
    have shorter (value : List UInt8) (small : (inLeafLists (count + 1) value).length < 2 ^ 64) :
        (Field.write ⟨1, .bytes (inLeafLists count value)⟩).length < 2 ^ 64 ∧
        (inLeafLists count value).length < 2 ^ 64 := by
      have list : (Field.write ⟨1, .bytes (inLeafLists count value)⟩).length
          ≤ (inLeafLists (count + 1) value).length := Field.length_content_le rfl
      have element : (inLeafLists count value).length
          ≤ (Field.write ⟨1, .bytes (inLeafLists count value)⟩).length :=
        Field.length_content_le rfl
      omega
    obtain ⟨listSmall, elementSmall⟩ := shorter value small
    obtain ⟨newListSmall, newElementSmall⟩ := shorter newValue newSmall
    have element := ih elementSmall newElementSmall
    exact .write .leafList listSmall newListSmall
      (.write .element elementSmall newElementSmall element)

/-- The innermost of a hundred messages has no level left, not even for a number. -/
theorem decode?_extends_deep :
    (∃ response, decode? (deepest []) = some response) ∧
    Kind.Extends .response (nestingLimit + 1) (deepest []) (deepest [16, 0]) ∧
    decode? (deepest [16, 0]) = none := by
  have number : IsField 2 1 ([16] ++ [0]) :=
    .scalar (.byte rfl (by decide) (by decide) (by decide)) (.varint (.byte rfl (by decide)))
  have list : Kind.Extends .leafList 1 [] [16, 0] :=
    .insert number (by decide) (by decide) .same
  have value : Kind.Extends .typedValue 2 (Field.write ⟨8, .bytes []⟩)
      (Field.write ⟨8, .bytes [16, 0]⟩) :=
    .write .leafList (by decide) (by decide) list
  have wrapped : Kind.Extends .typedValue (2 + 2 * 48)
      (inLeafLists 48 (Field.write ⟨8, .bytes []⟩))
      (inLeafLists 48 (Field.write ⟨8, .bytes [16, 0]⟩)) :=
    extends_inLeafLists (by decide +kernel) (by decide +kernel) value
  have extended : Kind.Extends .response (nestingLimit + 1) (deepest []) (deepest [16, 0]) :=
    .write .notification (by decide +kernel) (by decide +kernel)
      (.write .update (by decide +kernel) (by decide +kernel)
        (.write .value (by decide +kernel) (by decide +kernel) wrapped))
  exact ⟨Option.isSome_iff_exists.mp (by decide +kernel), extended,
    Option.isNone_iff_eq_none.mp (by decide +kernel)⟩

end SubscribeResponse

end PbrTelemetry
