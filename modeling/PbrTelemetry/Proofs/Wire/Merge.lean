import PbrTelemetry.Proofs.Wire.Field
import PbrTelemetry.Wire.Encode

/-!
# Messages are read back

A message is read back from its fields if merging them one after the other rebuilds it
(`Shape.Faithful`).  What a message consists of is shown once for each kind of message; reading,
framing, nesting and the depth limit are dealt with here.

`Shape.Faithful.merge_writeAll` says that a message that nests no deeper than levels are left is
read back.  `Shape.Faithful.merge_le` says that no other message is ever read, from any bytes: each
field that is merged keeps the nesting below the levels that are left.
-/

namespace PbrTelemetry.Wire

/-! ## Levels -/

/-- How many levels messages take that nest inside of another one, given their own nesting. -/
def levels (nestings : List Nat) : Nat := nestings.foldr (fun n deepest => max (n + 1) deepest) 0

theorem levels_le_iff {nestings : List Nat} {depth : Nat} :
    levels nestings ≤ depth ↔ ∀ n ∈ nestings, n < depth := by
  induction nestings with
  | nil => simp [levels]
  | cons n rest ih =>
    rw [levels] at ih
    simp only [levels, List.foldr_cons, List.forall_mem_cons, ← ih]
    omega

/-! ## Fields that a message knows -/

structure Shape.Knows {α : Type} (shape : Shape α) (field : Field) : Prop where
  number : field.number ∈ shape.numbers
  plain : field.IsPlain fun n => n ∈ shape.framed

namespace Shape

variable {α : Type} {shape : Shape α} {depth : Nat} {value start result : α} {fields : List Field}

theorem foldlM_step (known : ∀ field ∈ fields, shape.Knows field) (depth : Nat) (value : α) :
    fields.foldlM (Progress.step shape depth) { value, groups := [] }
      = (fields.foldlM shape.absorb value).map fun value => { value, groups := [] } := by
  induction fields generalizing value with
  | nil => rfl
  | cons field rest ih =>
    obtain ⟨first, others⟩ := List.forall_mem_cons.mp known
    have taken : Progress.step shape depth { value, groups := [] } field
        = (shape.absorb value field).map fun value => { value, groups := [] } := by
      rw [Progress.step, if_pos ⟨rfl, first.number⟩]
    rw [List.foldlM_cons, List.foldlM_cons, taken]
    cases shape.absorb value field with
    | none => rfl
    | some value => exact ih others value

theorem merge_writeAll (known : ∀ field ∈ fields, shape.Knows field)
    (small : ∀ field ∈ fields, field.IsSmall) (depth : Nat) (value : α) :
    shape.merge depth value (Field.writeAll fields) = fields.foldlM shape.absorb value := by
  rw [merge, Field.readAll_writeAll (fun field member => (known field member).plain) small]
  simp only [Option.bind_eq_bind, Option.bind_some, mergeFields, foldlM_step known]
  cases fields.foldlM shape.absorb value with
  | none => rfl
  | some value => rfl

/-! ## What merging keeps -/

/-- No field that is merged destroys the property. -/
def Keeps (shape : Shape α) (P : α → Prop) : Prop :=
  ∀ value field result, P value → shape.absorb value field = some result → P result

theorem Keeps.step {P : α → Prop} (keeps : shape.Keeps P) {state next : Progress α} {field : Field}
    (stepped : Progress.step shape depth state field = some next) (holds : P state.value) :
    P next.value := by
  rw [Progress.step] at stepped
  split at stepped
  · obtain ⟨value, absorbed, rfl⟩ := Option.map_eq_some_iff.mp stepped
    exact keeps _ _ _ holds absorbed
  · -- A field that is passed over changes the groups at most
    rw [Progress.skip] at stepped
    split at stepped
    · cases stepped
    · split at stepped <;> cases stepped
      exact holds
    · split at stepped <;> cases stepped
      exact holds
    · split at stepped <;> cases stepped
      exact holds

theorem Keeps.foldlM {P : α → Prop} (keeps : shape.Keeps P) {state final : Progress α}
    (ran : fields.foldlM (Progress.step shape depth) state = some final) (holds : P state.value) :
    P final.value := by
  induction fields generalizing state with
  | nil =>
    cases ran
    exact holds
  | cons field rest ih =>
    obtain ⟨next, stepped, ran⟩ := Option.bind_eq_some_iff.mp ran
    exact ih ran (keeps.step stepped holds)

theorem Keeps.merge {P : α → Prop} (keeps : shape.Keeps P) {bytes : List UInt8}
    (merged : shape.merge depth start bytes = some result) (holds : P start) : P result := by
  obtain ⟨fields, -, merged⟩ := Option.bind_eq_some_iff.mp merged
  obtain ⟨final, ran, closed⟩ := Option.bind_eq_some_iff.mp merged
  split at closed
  · cases closed
    exact keeps.foldlM ran holds
  · cases closed

/-- A nested message nests less deeply than levels are left around it. -/
theorem mergeNested_lt {shape : Nat → Shape α} {nesting : α → Nat} {bytes : List UInt8}
    (keeps : ∀ inner, depth = inner + 1 → (shape inner).Keeps (nesting · ≤ inner))
    (merged : mergeNested shape depth start bytes = some result)
    (bounded : nesting start ≤ depth - 1) : nesting result < depth := by
  cases depth with
  | zero => cases merged
  | succ inner =>
    have kept : nesting result ≤ inner := (keeps inner rfl).merge merged bounded
    exact Nat.lt_succ_of_le kept

/-! ## Faithful messages -/

/-- The message is rebuilt from its fields where enough levels are left, and merging never makes one
that nests deeper. -/
structure Faithful (shape : Nat → Shape α) (fields : α → List Field) (nesting : α → Nat)
    (default : α) : Prop where
  known : ∀ depth value, ∀ field ∈ fields value, (shape depth).Knows field
  rebuild : ∀ depth value, (∀ field ∈ fields value, field.IsSmall) → nesting value ≤ depth →
    (fields value).foldlM (shape depth).absorb default = some value
  keeps : ∀ depth, (shape depth).Keeps (nesting · ≤ depth)
  flat : nesting default = 0

section

variable {shape : Nat → Shape α} {fields : α → List Field} {nesting : α → Nat} {default : α}

theorem Faithful.merge_writeAll (faithful : Faithful shape fields nesting default)
    (short : (Field.writeAll (fields value)).length < 2 ^ 64) (shallow : nesting value ≤ depth) :
    (shape depth).merge depth default (Field.writeAll (fields value)) = some value := by
  have small := Field.isSmall_of_length short
  rw [Shape.merge_writeAll (faithful.known depth value) small]
  exact faithful.rebuild depth value small shallow

theorem Faithful.merge_le (faithful : Faithful shape fields nesting default) {bytes : List UInt8}
    (merged : (shape depth).merge depth default bytes = some value) : nesting value ≤ depth :=
  (faithful.keeps depth).merge merged (by rw [faithful.flat]; exact Nat.zero_le depth)

theorem Faithful.mergeNested_writeAll (faithful : Faithful shape fields nesting default)
    (short : (Field.writeAll (fields value)).length < 2 ^ 64) (shallow : nesting value < depth) :
    mergeNested shape depth default (Field.writeAll (fields value)) = some value := by
  cases depth with
  | zero => exact absurd shallow (Nat.not_lt_zero _)
  | succ inner => exact faithful.merge_writeAll short (Nat.le_of_lt_succ shallow)

theorem Faithful.mergeNested_lt (faithful : Faithful shape fields nesting default)
    {bytes : List UInt8} (merged : mergeNested shape depth start bytes = some result)
    (bounded : nesting start ≤ depth - 1) : nesting result < depth :=
  Shape.mergeNested_lt (fun inner _ => faithful.keeps inner) merged bounded

end

end Shape

end PbrTelemetry.Wire
