import PbrTelemetry.Proofs.Wire.Path

/-!
# Requests are read back

The messages of a request.  None of them holds typed values, so no request nests deeper than five
levels (`SubscribeRequest.nesting_le`).
-/

namespace PbrTelemetry

open Wire

/-! ## Subscriptions -/

def Subscription.nesting (s : Subscription) : Nat := levels (s.path.toList.map Path.nesting)

theorem Subscription.nesting_le_iff {s : Subscription} {depth : Nat} :
    s.nesting ≤ depth ↔ ∀ path ∈ s.path, path.nesting < depth := by
  simp only [nesting, levels_le_iff, List.forall_mem_map, Option.mem_toList, Option.mem_def]

theorem Subscription.shape_faithful :
    Shape.Faithful Subscription.shape Subscription.fields Subscription.nesting {} where
  known depth s := by
    simp only [Subscription.fields, List.forall_mem_append, forall_mem_optionalField,
      forall_mem_wordField, Shape.knows_messageField, Shape.knows_varint]
    simp [Subscription.shape]
  rebuild depth s small shallow := by
    obtain ⟨path, mode, sampleInterval, suppressRedundant, heartbeatInterval⟩ := s
    simp only [Subscription.fields, List.forall_mem_append, forall_mem_optionalField,
      Field.isSmall_messageField] at small
    obtain ⟨⟨⟨⟨smallPath, -⟩, -⟩, -⟩, -⟩ := small
    have shallowPath := nesting_le_iff.mp shallow
    have atPath : (optionalField 1 Path.fields path).foldlM (shape depth).absorb {}
        = some { path } :=
      Path.shape_faithful.foldlM_optional (fun path => ({ path } : Subscription)) (fun _ => rfl)
        smallPath shallowPath
    have moded : (wordField 2 (wordOfInt32 mode)).foldlM (shape depth).absorb { path }
        = some { path, mode } :=
      foldlM_wordField rfl (by simp [shape])
    have sampled : (wordField 3 sampleInterval).foldlM (shape depth).absorb { path, mode }
        = some { path, mode, sampleInterval } :=
      foldlM_wordField rfl rfl
    have suppressed : (wordField 4 (wordOfBool suppressRedundant)).foldlM (shape depth).absorb
        { path, mode, sampleInterval }
        = some { path, mode, sampleInterval, suppressRedundant } :=
      foldlM_wordField rfl (by simp [shape])
    have beating : (wordField 5 heartbeatInterval).foldlM (shape depth).absorb
        { path, mode, sampleInterval, suppressRedundant }
        = some { path, mode, sampleInterval, suppressRedundant, heartbeatInterval } :=
      foldlM_wordField rfl rfl
    simp only [Subscription.fields, List.foldlM_append, Option.bind_eq_bind, Option.bind_some,
      atPath, moded, sampled, suppressed, beating]
  keeps depth s field result shallow absorbed := by
    simp only [shape] at absorbed
    split at absorbed
    · obtain ⟨path, merged, rfl⟩ := Option.map_eq_some_iff.mp absorbed
      have room := Path.shape_faithful.mergeOptional_lt merged (nesting_le_iff.mp shallow)
      exact nesting_le_iff.mpr room
    -- The other fields are numbers
    all_goals
      cases absorbed <;> exact shallow
  flat := rfl

/-! ## Markings and models -/

theorem QosMarking.shape_faithful :
    Shape.Faithful QosMarking.shape QosMarking.fields (fun _ => 0) {} where
  known depth qos := by
    simp only [QosMarking.fields, forall_mem_wordField, Shape.knows_varint]
    simp [shape]
  rebuild depth qos small _ := foldlM_wordField rfl (by simp [shape])
  keeps depth _ _ _ _ _ := Nat.zero_le depth
  flat := rfl

theorem ModelData.shape_faithful :
    Shape.Faithful ModelData.shape ModelData.fields (fun _ => 0) {} where
  known depth model := by
    simp only [ModelData.fields, List.forall_mem_append, forall_mem_textField, Shape.knows_bytes]
    simp [shape]
  rebuild depth model small _ := by
    obtain ⟨name, organization, version⟩ := model
    have named : (textField 1 name).foldlM (shape depth).absorb {} = some { name } :=
      foldlM_textField (by simp [shape]) (by simp [shape])
    have organized : (textField 2 organization).foldlM (shape depth).absorb { name }
        = some { name, organization } :=
      foldlM_textField (by simp [shape]) (by simp [shape])
    have versioned : (textField 3 version).foldlM (shape depth).absorb { name, organization }
        = some { name, organization, version } :=
      foldlM_textField (by simp [shape]) (by simp [shape])
    simp only [ModelData.fields, List.foldlM_append, Option.bind_eq_bind, Option.bind_some, named,
      organized, versioned]
  keeps depth _ _ _ _ _ := Nat.zero_le depth
  flat := rfl

/-! ## Subscription lists -/

def SubscriptionList.nesting (list : SubscriptionList) : Nat :=
  levels (list.prefixPath.toList.map Path.nesting ++ list.subscription.map Subscription.nesting
    ++ list.qos.toList.map (fun _ => 0) ++ list.useModels.map fun _ => 0)

theorem SubscriptionList.nesting_le_iff {list : SubscriptionList} {depth : Nat} :
    list.nesting ≤ depth ↔ (∀ path ∈ list.prefixPath, path.nesting < depth) ∧
      (∀ s ∈ list.subscription, s.nesting < depth) ∧ (∀ qos ∈ list.qos, 0 < depth) ∧
      (∀ model ∈ list.useModels, 0 < depth) := by
  simp only [nesting, levels_le_iff, List.forall_mem_append, List.forall_mem_map,
    Option.mem_toList, Option.mem_def, and_assoc]

theorem SubscriptionList.shape_faithful :
    Shape.Faithful SubscriptionList.shape SubscriptionList.fields SubscriptionList.nesting {} where
  known depth list := by
    simp only [SubscriptionList.fields, List.forall_mem_append, List.forall_mem_map,
      forall_mem_optionalField, forall_mem_wordField, Shape.knows_messageField, Shape.knows_varint]
    simp [SubscriptionList.shape]
  rebuild depth list small shallow := by
    obtain ⟨prefixPath, subscription, qos, mode, allowAggregation, useModels, encoding,
      updatesOnly⟩ := list
    simp only [SubscriptionList.fields, List.forall_mem_append, List.forall_mem_map,
      forall_mem_optionalField, Field.isSmall_messageField] at small
    obtain ⟨⟨⟨⟨⟨⟨⟨smallPrefix, smallSubscription⟩, smallQos⟩, -⟩, -⟩, smallModels⟩, -⟩, -⟩ := small
    obtain ⟨shallowPrefix, shallowSubscription, roomQos, roomModels⟩ := nesting_le_iff.mp shallow
    have prefixed : (optionalField 1 Path.fields prefixPath).foldlM (shape depth).absorb {}
        = some { prefixPath } :=
      Path.shape_faithful.foldlM_optional (fun prefixPath => ({ prefixPath } : SubscriptionList))
        (fun _ => rfl) smallPrefix shallowPrefix
    have subscribed : (subscription.map fun s => messageField 2 s.fields).foldlM
        (shape depth).absorb { prefixPath } = some { prefixPath, subscription } :=
      Subscription.shape_faithful.foldlM_repeated
        (fun subscription => ({ prefixPath, subscription } : SubscriptionList)) (fun _ _ => rfl)
        smallSubscription shallowSubscription
    have marked : (optionalField 4 QosMarking.fields qos).foldlM (shape depth).absorb
        { prefixPath, subscription } = some { prefixPath, subscription, qos } :=
      QosMarking.shape_faithful.foldlM_optional
        (fun qos => ({ prefixPath, subscription, qos } : SubscriptionList)) (fun _ => rfl) smallQos
        roomQos
    have moded : (wordField 5 (wordOfInt32 mode)).foldlM (shape depth).absorb
        { prefixPath, subscription, qos } = some { prefixPath, subscription, qos, mode } :=
      foldlM_wordField rfl (by simp [shape])
    have aggregated : (wordField 6 (wordOfBool allowAggregation)).foldlM (shape depth).absorb
        { prefixPath, subscription, qos, mode }
        = some { prefixPath, subscription, qos, mode, allowAggregation } :=
      foldlM_wordField rfl (by simp [shape])
    have modelled : (useModels.map fun model => messageField 7 model.fields).foldlM
        (shape depth).absorb { prefixPath, subscription, qos, mode, allowAggregation }
        = some { prefixPath, subscription, qos, mode, allowAggregation, useModels } :=
      ModelData.shape_faithful.foldlM_repeated
        (fun useModels =>
          ({ prefixPath, subscription, qos, mode, allowAggregation, useModels } : SubscriptionList))
        (fun _ _ => rfl) smallModels roomModels
    have encoded : (wordField 8 (wordOfInt32 encoding)).foldlM (shape depth).absorb
        { prefixPath, subscription, qos, mode, allowAggregation, useModels }
        = some { prefixPath, subscription, qos, mode, allowAggregation, useModels, encoding } :=
      foldlM_wordField rfl (by simp [shape])
    have updating : (wordField 9 (wordOfBool updatesOnly)).foldlM (shape depth).absorb
        { prefixPath, subscription, qos, mode, allowAggregation, useModels, encoding }
        = some { prefixPath, subscription, qos, mode, allowAggregation, useModels, encoding,
                 updatesOnly } :=
      foldlM_wordField rfl (by simp [shape])
    simp only [SubscriptionList.fields, List.foldlM_append, Option.bind_eq_bind, Option.bind_some,
      prefixed, subscribed, marked, moded, aggregated, modelled, encoded, updating]
  keeps depth list field result shallow absorbed := by
    obtain ⟨shallowPrefix, shallowSubscription, roomQos, roomModels⟩ := nesting_le_iff.mp shallow
    simp only [shape] at absorbed
    split at absorbed
    case h_1 =>
      obtain ⟨path, merged, rfl⟩ := Option.map_eq_some_iff.mp absorbed
      have room := Path.shape_faithful.mergeOptional_lt merged shallowPrefix
      exact nesting_le_iff.mpr ⟨room, shallowSubscription, roomQos, roomModels⟩
    case h_2 =>
      obtain ⟨s, merged, rfl⟩ := Option.map_eq_some_iff.mp absorbed
      have room := Subscription.shape_faithful.mergeNested_lt merged (Nat.zero_le _)
      exact nesting_le_iff.mpr ⟨shallowPrefix,
        List.forall_mem_append.mpr ⟨shallowSubscription, List.forall_mem_singleton.mpr room⟩,
        roomQos, roomModels⟩
    case h_3 =>
      obtain ⟨qos, merged, rfl⟩ := Option.map_eq_some_iff.mp absorbed
      have room := QosMarking.shape_faithful.mergeOptional_lt merged roomQos
      exact nesting_le_iff.mpr ⟨shallowPrefix, shallowSubscription, room, roomModels⟩
    case h_6 =>
      obtain ⟨model, merged, rfl⟩ := Option.map_eq_some_iff.mp absorbed
      have room : 0 < depth := ModelData.shape_faithful.mergeNested_lt merged (Nat.zero_le _)
      exact nesting_le_iff.mpr ⟨shallowPrefix, shallowSubscription, roomQos, fun _ _ => room⟩
    -- The other fields are numbers
    all_goals
      cases absorbed <;> exact shallow
  flat := rfl

/-! ## Requests -/

theorem Wire.emptyShape_faithful :
    Shape.Faithful emptyShape (fun _ : Unit => []) (fun _ => 0) () where
  known _ _ := List.forall_mem_nil _
  rebuild _ _ _ _ := rfl
  keeps depth _ _ _ _ _ := Nat.zero_le depth
  flat := rfl

def SubscribeRequest.nesting : SubscribeRequest → Nat
  | .empty => 0
  | .subscribe list => list.nesting + 1
  | .poll => 1

theorem SubscribeRequest.shape_faithful :
    Shape.Faithful SubscribeRequest.shape SubscribeRequest.fields SubscribeRequest.nesting
      .empty where
  known depth request := by
    cases request with
    | empty => simp [SubscribeRequest.fields]
    | _ => simp [SubscribeRequest.fields, SubscribeRequest.shape]
  rebuild depth request small shallow := by
    cases request with
    | empty => rfl
    | subscribe list =>
      simp only [SubscribeRequest.fields, List.forall_mem_singleton,
        Field.isSmall_messageField] at small
      have merged := SubscriptionList.shape_faithful.mergeNested_writeAll small shallow
      simp [SubscribeRequest.fields, shape, messageField, merged]
    | poll =>
      simp only [SubscribeRequest.fields, List.forall_mem_singleton,
        Field.isSmall_messageField] at small
      have merged : Shape.mergeNested emptyShape depth () (Field.writeAll []) = some () :=
        emptyShape_faithful.mergeNested_writeAll small shallow
      simp [SubscribeRequest.fields, shape, messageField, merged]
  keeps depth request field result shallow absorbed := by
    simp only [shape] at absorbed
    split at absorbed
    · obtain ⟨list, merged, rfl⟩ := Option.map_eq_some_iff.mp absorbed
      have room : list.nesting < depth := by
        apply SubscriptionList.shape_faithful.mergeNested_lt merged
        cases request with
        | subscribe old => exact Nat.le_sub_one_of_lt shallow
        | _ => exact Nat.zero_le _
      exact room
    · obtain ⟨_, merged, rfl⟩ := Option.map_eq_some_iff.mp absorbed
      exact emptyShape_faithful.mergeNested_lt merged (Nat.zero_le _)
    · cases absorbed
  flat := rfl

/-! ## How deep requests nest -/

theorem PathElem.nesting_le (elem : PathElem) : elem.nesting ≤ 1 :=
  PathElem.nesting_le_iff.mpr fun _ _ => Nat.zero_lt_one

theorem Path.nesting_le (path : Path) : path.nesting ≤ 2 :=
  Path.nesting_le_iff.mpr fun elem _ => Nat.lt_succ_of_le elem.nesting_le

theorem Subscription.nesting_le (s : Subscription) : s.nesting ≤ 3 :=
  Subscription.nesting_le_iff.mpr fun path _ => Nat.lt_succ_of_le path.nesting_le

theorem SubscriptionList.nesting_le (list : SubscriptionList) : list.nesting ≤ 4 :=
  SubscriptionList.nesting_le_iff.mpr
    ⟨fun path _ => Nat.lt_of_le_of_lt path.nesting_le (by omega),
      fun s _ => Nat.lt_succ_of_le s.nesting_le, fun _ _ => by omega, fun _ _ => by omega⟩

/-- No request comes near the limit. -/
theorem SubscribeRequest.nesting_le (request : SubscribeRequest) : request.nesting ≤ 5 := by
  cases request with
  | empty => exact Nat.zero_le 5
  | subscribe list => exact Nat.succ_le_succ list.nesting_le
  | poll => exact Nat.le_of_ble_eq_true rfl

end PbrTelemetry
