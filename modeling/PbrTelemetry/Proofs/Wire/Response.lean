import PbrTelemetry.Proofs.Wire.Path
import PbrTelemetry.Proofs.Wire.Value

/-!
# Responses are read back

The messages of a response: updates with a path and a value each, notifications of them, and errors.
-/

namespace PbrTelemetry

open Wire

/-! ## Updates -/

def Update.nesting (update : Update) : Nat :=
  levels (update.path.toList.map Path.nesting ++ update.val.toList.map TypedValue.nesting)

theorem Update.nesting_le_iff {update : Update} {depth : Nat} :
    update.nesting ≤ depth ↔ (∀ path ∈ update.path, path.nesting < depth) ∧
      (∀ val ∈ update.val, val.nesting < depth) := by
  simp only [nesting, levels_le_iff, List.forall_mem_append, List.forall_mem_map,
    Option.mem_toList, Option.mem_def]

theorem Update.shape_faithful :
    Shape.Faithful Update.shape Update.fields Update.nesting {} where
  known depth update := by
    simp only [Update.fields, List.forall_mem_append, forall_mem_optionalField,
      forall_mem_wordField, Shape.knows_messageField, Shape.knows_varint]
    simp [Update.shape]
  rebuild depth update small shallow := by
    simp only [Update.fields, List.forall_mem_append, forall_mem_optionalField,
      Field.isSmall_messageField] at small
    obtain ⟨⟨smallPath, smallVal⟩, -⟩ := small
    obtain ⟨shallowPath, shallowVal⟩ := nesting_le_iff.mp shallow
    have path : (optionalField 1 Path.fields update.path).foldlM (shape depth).absorb {}
        = some { path := update.path } :=
      Path.shape_faithful.foldlM_optional (fun path => ({ path } : Update)) (fun _ => rfl) smallPath
        shallowPath
    have val : (optionalField 3 TypedValue.fields update.val).foldlM (shape depth).absorb
        { path := update.path } = some { path := update.path, val := update.val } :=
      TypedValue.shape_faithful.foldlM_optional
        (fun val => ({ path := update.path, val } : Update)) (fun _ => rfl) smallVal shallowVal
    have duplicates : (wordField 4 update.duplicates.toUInt64).foldlM (shape depth).absorb
        { path := update.path, val := update.val } = some update :=
      foldlM_wordField rfl (by simp [shape])
    rw [Update.fields, List.foldlM_append, List.foldlM_append, path]
    simp only [Option.bind_eq_bind, Option.bind_some, val, duplicates]
  keeps depth update field result shallow absorbed := by
    obtain ⟨shallowPath, shallowVal⟩ := nesting_le_iff.mp shallow
    simp only [shape] at absorbed
    split at absorbed
    · obtain ⟨path, merged, rfl⟩ := Option.map_eq_some_iff.mp absorbed
      have room := Path.shape_faithful.mergeOptional_lt merged shallowPath
      exact nesting_le_iff.mpr ⟨room, shallowVal⟩
    · obtain ⟨val, merged, rfl⟩ := Option.map_eq_some_iff.mp absorbed
      have room := TypedValue.shape_faithful.mergeOptional_lt merged shallowVal
      exact nesting_le_iff.mpr ⟨shallowPath, room⟩
    · cases absorbed
      exact shallow
    · cases absorbed
  flat := rfl

/-! ## Notifications -/

def Notification.nesting (notification : Notification) : Nat :=
  levels (notification.prefixPath.toList.map Path.nesting
    ++ notification.update.map Update.nesting ++ notification.delete.map Path.nesting)

theorem Notification.nesting_le_iff {notification : Notification} {depth : Nat} :
    notification.nesting ≤ depth ↔ (∀ path ∈ notification.prefixPath, path.nesting < depth) ∧
      (∀ update ∈ notification.update, update.nesting < depth) ∧
      (∀ path ∈ notification.delete, path.nesting < depth) := by
  simp only [nesting, levels_le_iff, List.forall_mem_append, List.forall_mem_map,
    Option.mem_toList, Option.mem_def, and_assoc]

theorem Notification.shape_faithful :
    Shape.Faithful Notification.shape Notification.fields Notification.nesting {} where
  known depth notification := by
    simp only [Notification.fields, List.forall_mem_append, List.forall_mem_map,
      forall_mem_optionalField, forall_mem_wordField, Shape.knows_messageField, Shape.knows_varint]
    simp [Notification.shape]
  rebuild depth notification small shallow := by
    obtain ⟨timestamp, prefixPath, updates, deletes, atomic⟩ := notification
    simp only [Notification.fields, List.forall_mem_append, List.forall_mem_map,
      forall_mem_optionalField, Field.isSmall_messageField] at small
    obtain ⟨⟨⟨⟨-, smallPrefix⟩, smallUpdate⟩, smallDelete⟩, -⟩ := small
    obtain ⟨shallowPrefix, shallowUpdate, shallowDelete⟩ := nesting_le_iff.mp shallow
    have atTime : (wordField 1 timestamp.toUInt64).foldlM (shape depth).absorb {}
        = some { timestamp } :=
      foldlM_wordField rfl (by simp [shape])
    have prefixed : (optionalField 2 Path.fields prefixPath).foldlM (shape depth).absorb
        { timestamp } = some { timestamp, prefixPath } :=
      Path.shape_faithful.foldlM_optional
        (fun prefixPath => ({ timestamp, prefixPath } : Notification)) (fun _ => rfl) smallPrefix
        shallowPrefix
    have updated : (updates.map fun update => messageField 4 update.fields).foldlM
        (shape depth).absorb { timestamp, prefixPath }
        = some { timestamp, prefixPath, update := updates } :=
      Update.shape_faithful.foldlM_repeated
        (fun update => ({ timestamp, prefixPath, update } : Notification)) (fun _ _ => rfl)
        smallUpdate shallowUpdate
    have deleted : (deletes.map fun path => messageField 5 path.fields).foldlM
        (shape depth).absorb { timestamp, prefixPath, update := updates }
        = some { timestamp, prefixPath, update := updates, delete := deletes } :=
      Path.shape_faithful.foldlM_repeated
        (fun delete => ({ timestamp, prefixPath, update := updates, delete } : Notification))
        (fun _ _ => rfl) smallDelete shallowDelete
    have closed : (wordField 6 (wordOfBool atomic)).foldlM (shape depth).absorb
        { timestamp, prefixPath, update := updates, delete := deletes }
        = some { timestamp, prefixPath, update := updates, delete := deletes, atomic } :=
      foldlM_wordField rfl (by simp [shape])
    simp only [Notification.fields, List.foldlM_append, Option.bind_eq_bind, Option.bind_some,
      atTime, prefixed, updated, deleted, closed]
  keeps depth notification field result shallow absorbed := by
    obtain ⟨shallowPrefix, shallowUpdate, shallowDelete⟩ := nesting_le_iff.mp shallow
    simp only [shape] at absorbed
    split at absorbed
    · cases absorbed
      exact shallow
    · obtain ⟨path, merged, rfl⟩ := Option.map_eq_some_iff.mp absorbed
      have room := Path.shape_faithful.mergeOptional_lt merged shallowPrefix
      exact nesting_le_iff.mpr ⟨room, shallowUpdate, shallowDelete⟩
    · obtain ⟨update, merged, rfl⟩ := Option.map_eq_some_iff.mp absorbed
      have room := Update.shape_faithful.mergeNested_lt merged (Nat.zero_le _)
      exact nesting_le_iff.mpr ⟨shallowPrefix,
        List.forall_mem_append.mpr ⟨shallowUpdate, List.forall_mem_singleton.mpr room⟩,
        shallowDelete⟩
    · obtain ⟨path, merged, rfl⟩ := Option.map_eq_some_iff.mp absorbed
      have room := Path.shape_faithful.mergeNested_lt merged (Nat.zero_le _)
      exact nesting_le_iff.mpr ⟨shallowPrefix, shallowUpdate,
        List.forall_mem_append.mpr ⟨shallowDelete, List.forall_mem_singleton.mpr room⟩⟩
    · cases absorbed
      exact shallow
    · cases absorbed
  flat := rfl

/-! ## Errors -/

def TargetError.nesting (error : TargetError) : Nat := levels (error.data.toList.map fun _ => 0)

theorem TargetError.nesting_le_iff {error : TargetError} {depth : Nat} :
    error.nesting ≤ depth ↔ ∀ data ∈ error.data, 0 < depth := by
  simp only [nesting, levels_le_iff, List.forall_mem_map, Option.mem_toList,
    Option.mem_def]

theorem TargetError.shape_faithful :
    Shape.Faithful TargetError.shape TargetError.fields TargetError.nesting {} where
  known depth error := by
    simp only [TargetError.fields, List.forall_mem_append, forall_mem_textField,
      forall_mem_optionalField, forall_mem_wordField, Shape.knows_messageField, Shape.knows_varint,
      Shape.knows_bytes]
    simp [TargetError.shape]
  rebuild depth error small shallow := by
    obtain ⟨code, message, data⟩ := error
    simp only [TargetError.fields, List.forall_mem_append, forall_mem_optionalField,
      Field.isSmall_messageField] at small
    have room := nesting_le_iff.mp shallow
    have coded : (wordField 1 code.toUInt64).foldlM (shape depth).absorb {} = some { code } :=
      foldlM_wordField rfl (by simp [shape])
    have worded : (textField 2 message).foldlM (shape depth).absorb { code }
        = some { code, message } :=
      foldlM_textField (by simp [shape]) (by simp [shape])
    have detailed : (optionalField 3 AnyMessage.fields data).foldlM (shape depth).absorb
        { code, message } = some { code, message, data } :=
      AnyMessage.shape_faithful.foldlM_optional
        (fun data => ({ code, message, data } : TargetError)) (fun _ => rfl) small.2 room
    simp only [TargetError.fields, List.foldlM_append, Option.bind_eq_bind, Option.bind_some, coded,
      worded, detailed]
  keeps depth error field result shallow absorbed := by
    simp only [shape] at absorbed
    split at absorbed
    · cases absorbed
      exact shallow
    · obtain ⟨message, -, rfl⟩ := Option.map_eq_some_iff.mp absorbed
      exact shallow
    · obtain ⟨data, merged, rfl⟩ := Option.map_eq_some_iff.mp absorbed
      have room := AnyMessage.shape_faithful.mergeOptional_lt merged (nesting_le_iff.mp shallow)
      exact nesting_le_iff.mpr room
    · cases absorbed
  flat := rfl

/-! ## Responses -/

def SubscribeResponse.nesting : SubscribeResponse → Nat
  | .empty | .sync _ => 0
  | .update notification => notification.nesting + 1
  | .error fault => fault.nesting + 1

theorem SubscribeResponse.shape_faithful :
    Shape.Faithful SubscribeResponse.shape SubscribeResponse.fields SubscribeResponse.nesting
      .empty where
  known depth response := by
    cases response with
    | empty => simp [SubscribeResponse.fields]
    | _ => simp [SubscribeResponse.fields, SubscribeResponse.shape]
  rebuild depth response small shallow := by
    cases response with
    | empty => rfl
    | update notification =>
      simp only [SubscribeResponse.fields, List.forall_mem_singleton,
        Field.isSmall_messageField] at small
      have merged := Notification.shape_faithful.mergeNested_writeAll small shallow
      simp [SubscribeResponse.fields, shape, messageField, merged]
    | sync value => simp [SubscribeResponse.fields, shape]
    | error error =>
      simp only [SubscribeResponse.fields, List.forall_mem_singleton,
        Field.isSmall_messageField] at small
      have merged := TargetError.shape_faithful.mergeNested_writeAll small shallow
      simp [SubscribeResponse.fields, shape, messageField, merged]
  keeps depth response field result shallow absorbed := by
    simp only [shape] at absorbed
    split at absorbed
    · obtain ⟨notification, merged, rfl⟩ := Option.map_eq_some_iff.mp absorbed
      have room : notification.nesting < depth := by
        apply Notification.shape_faithful.mergeNested_lt merged
        cases response with
        | update old => exact Nat.le_sub_one_of_lt shallow
        | _ => exact Nat.zero_le _
      exact room
    · cases absorbed
      exact Nat.zero_le _
    · obtain ⟨error, merged, rfl⟩ := Option.map_eq_some_iff.mp absorbed
      have room : error.nesting < depth := by
        apply TargetError.shape_faithful.mergeNested_lt merged
        cases response with
        | error old => exact Nat.le_sub_one_of_lt shallow
        | _ => exact Nat.zero_le _
      exact room
    · cases absorbed
  flat := rfl

end PbrTelemetry
