import PbrTelemetry.Proofs.Wire.Kinds

/-!
# Typed values are read back

A leaf list holds typed values, so values and leaf lists are dealt with together: what is written is
rebuilt by induction on the value (`TypedValue.rebuild`), and what is read keeps its nesting by
induction on the levels that are left (`TypedValue.keeps`).  A leaf list takes one level for itself
and one more for each element.
-/

namespace PbrTelemetry

open Wire

mutual

def TypedValue.nesting : TypedValue → Nat
  | .decimal _ | .any _ => 1
  | .leafList elements => TypedValue.elementsNesting elements + 1
  | _ => 0

def TypedValue.elementsNesting : List TypedValue → Nat
  | [] => 0
  | element :: rest => max (element.nesting + 1) (TypedValue.elementsNesting rest)

end

/-! ## Decimal numbers and messages of other types -/

theorem Decimal64.shape_faithful :
    Shape.Faithful Decimal64.shape Decimal64.fields (fun _ => 0) {} where
  known depth decimal := by
    simp only [Decimal64.fields, List.forall_mem_append, forall_mem_wordField,
      Shape.knows_varint]
    simp [shape]
  rebuild depth decimal small _ := by
    have digits : (wordField 1 decimal.digits.toUInt64).foldlM (shape depth).absorb {}
        = some { digits := decimal.digits } :=
      foldlM_wordField rfl (by simp [shape])
    have precision : (wordField 2 decimal.precision.toUInt64).foldlM (shape depth).absorb
        { digits := decimal.digits } = some decimal :=
      foldlM_wordField rfl (by simp [shape])
    rw [Decimal64.fields, List.foldlM_append, digits]
    exact precision
  keeps depth _ _ _ _ _ := Nat.zero_le depth
  flat := rfl

theorem AnyMessage.shape_faithful :
    Shape.Faithful AnyMessage.shape AnyMessage.fields (fun _ => 0) {} where
  known depth any := by
    simp only [AnyMessage.fields, List.forall_mem_append, forall_mem_textField,
      forall_mem_bytesField, Shape.knows_bytes]
    simp [shape]
  rebuild depth any small _ := by
    have typeUrl : (textField 1 any.typeUrl).foldlM (shape depth).absorb {}
        = some { typeUrl := any.typeUrl } :=
      foldlM_textField (by simp [shape]) (by simp [shape])
    have value : (bytesField 2 any.value).foldlM (shape depth).absorb { typeUrl := any.typeUrl }
        = some any :=
      foldlM_bytesField rfl rfl
    rw [AnyMessage.fields, List.foldlM_append, typeUrl]
    exact value
  keeps depth _ _ _ _ _ := Nat.zero_le depth
  flat := rfl

/-! ## Values and leaf lists -/

namespace TypedValue

/-- A leaf list as a message of its own. -/
def leafListShape (depth : Nat) : Shape (List TypedValue) :=
  elementShape (Shape.mergeNested TypedValue.shape depth .unset)

/-- A leaf list is merged like any nested message. -/
theorem shape_eq (depth : Nat) :
    TypedValue.shape depth = shapeWith (Shape.mergeNested leafListShape depth) depth := by
  match depth with
  | 0 => rfl
  | 1 => rfl
  | depth + 2 => rfl

theorem known (depth : Nat) (value : TypedValue) :
    ∀ field ∈ value.fields, (TypedValue.shape depth).Knows field := by
  rw [shape_eq]
  cases value with
  | unset => simp [fields]
  | _ => simp [fields, shapeWith]

theorem known_elements (depth : Nat) (elements : List TypedValue) :
    ∀ field ∈ elementFields elements, (leafListShape depth).Knows field := by
  induction elements with
  | nil => simp [elementFields]
  | cons element rest ih =>
    rw [elementFields, List.forall_mem_cons, Shape.knows_messageField]
    exact ⟨by simp [leafListShape, elementShape], ih⟩

mutual

theorem rebuild (value : TypedValue) (depth : Nat) (small : ∀ field ∈ value.fields, field.IsSmall)
    (shallow : value.nesting ≤ depth) :
    value.fields.foldlM (TypedValue.shape depth).absorb .unset = some value := by
  rw [shape_eq]
  match value with
  | .decimal number =>
    simp only [fields, List.forall_mem_singleton, Field.isSmall_messageField] at small
    have merged := Decimal64.shape_faithful.mergeNested_writeAll small shallow
    simp [fields, shapeWith, messageField, merged]
  | .any message =>
    simp only [fields, List.forall_mem_singleton, Field.isSmall_messageField] at small
    have merged := AnyMessage.shape_faithful.mergeNested_writeAll small shallow
    simp [fields, shapeWith, messageField, merged]
  | .leafList elements =>
    simp only [fields, List.forall_mem_singleton, Field.isSmall_messageField] at small
    rw [nesting] at shallow
    obtain ⟨inner, rfl⟩ := Nat.exists_eq_add_one_of_ne_zero (Nat.ne_zero_of_lt shallow)
    have parts := Field.isSmall_of_length small
    have merged : Shape.mergeNested leafListShape (inner + 1) []
        (Field.writeAll (elementFields elements)) = some elements := by
      rw [Shape.mergeNested, Shape.merge_writeAll (known_elements inner elements) parts]
      exact rebuild_elements elements inner [] parts (Nat.le_of_succ_le_succ shallow)
    simp [fields, shapeWith, messageField, merged]
  | .unset => rfl
  | .string _ | .int _ | .uint _ | .bool _ | .bytes _ | .float _ | .json _ | .jsonIetf _ | .ascii _
  | .protoBytes _ | .double _ => simp [fields, shapeWith]

theorem rebuild_elements (elements : List TypedValue) (depth : Nat) (before : List TypedValue)
    (small : ∀ field ∈ elementFields elements, field.IsSmall)
    (shallow : elementsNesting elements ≤ depth) :
    (elementFields elements).foldlM (leafListShape depth).absorb before
      = some (before ++ elements) := by
  match elements with
  | [] => simp [elementFields]
  | element :: rest =>
    simp only [elementFields, List.forall_mem_cons, Field.isSmall_messageField] at small
    rw [elementsNesting, Nat.max_le] at shallow
    obtain ⟨inner, rfl⟩ := Nat.exists_eq_add_one_of_ne_zero (Nat.ne_zero_of_lt shallow.1)
    have parts := Field.isSmall_of_length small.1
    have merged : Shape.mergeNested TypedValue.shape (inner + 1) .unset
        (Field.writeAll element.fields) = some element := by
      rw [Shape.mergeNested, Shape.merge_writeAll (known inner element) parts]
      exact rebuild element inner parts (Nat.le_of_succ_le_succ shallow.1)
    have first : (leafListShape (inner + 1)).absorb before (messageField 1 element.fields)
        = some (before ++ [element]) := by
      simp [leafListShape, elementShape, messageField, merged]
    have others := rebuild_elements rest (inner + 1) (before ++ [element]) small.2 shallow.2
    rw [elementFields, List.foldlM_cons, first]
    simpa using others

end

theorem elementsNesting_le_iff {elements : List TypedValue} {depth : Nat} :
    elementsNesting elements ≤ depth ↔ ∀ element ∈ elements, element.nesting < depth := by
  induction elements with
  | nil => simp [elementsNesting]
  | cons element rest ih =>
    rw [elementsNesting, Nat.max_le, ih, List.forall_mem_cons]
    rfl

theorem leafListShape_keeps {depth : Nat}
    (keeps : ∀ inner, depth = inner + 1 → (TypedValue.shape inner).Keeps (nesting · ≤ inner)) :
    (leafListShape depth).Keeps (elementsNesting · ≤ depth) := by
  intro elements field result shallow absorbed
  simp only [leafListShape, elementShape] at absorbed
  split at absorbed
  · obtain ⟨element, merged, rfl⟩ := Option.map_eq_some_iff.mp absorbed
    have room : element.nesting < depth := Shape.mergeNested_lt keeps merged (Nat.zero_le _)
    have before := elementsNesting_le_iff.mp shallow
    apply elementsNesting_le_iff.mpr
    exact List.forall_mem_append.mpr ⟨before, List.forall_mem_singleton.mpr room⟩
  · cases absorbed

theorem keeps (depth : Nat) : (TypedValue.shape depth).Keeps (nesting · ≤ depth) := by
  induction depth using Nat.strongRecOn with
  | ind depth ih =>
  intro value field result shallow absorbed
  rw [shape_eq] at absorbed
  simp only [shapeWith] at absorbed
  split at absorbed
  case h_7 =>
    obtain ⟨number, merged, rfl⟩ := Option.map_eq_some_iff.mp absorbed
    exact Decimal64.shape_faithful.mergeNested_lt merged (Nat.zero_le _)
  case h_8 =>
    obtain ⟨elements, merged, rfl⟩ := Option.map_eq_some_iff.mp absorbed
    have below : ∀ inner, depth = inner + 1 →
        (leafListShape inner).Keeps (elementsNesting · ≤ inner) := by
      rintro inner rfl
      apply leafListShape_keeps
      rintro innermost rfl
      exact ih innermost (by omega)
    have room : elementsNesting elements < depth := by
      apply Shape.mergeNested_lt below merged
      cases value with
      | leafList old => exact Nat.le_sub_one_of_lt shallow
      | _ => exact Nat.zero_le _
    exact room
  case h_9 =>
    obtain ⟨message, merged, rfl⟩ := Option.map_eq_some_iff.mp absorbed
    exact AnyMessage.shape_faithful.mergeNested_lt merged (Nat.zero_le _)
  -- All other members of the choice are scalars
  all_goals
    first
    | obtain ⟨text, -, rfl⟩ := Option.map_eq_some_iff.mp absorbed
      exact Nat.zero_le _
    | cases absorbed <;> exact Nat.zero_le _

theorem shape_faithful :
    Shape.Faithful TypedValue.shape TypedValue.fields TypedValue.nesting .unset where
  known := known
  rebuild depth value := rebuild value depth
  keeps := keeps
  flat := rfl

end TypedValue

end PbrTelemetry
