import PbrTelemetry.Message.Notification
import PbrTelemetry.Message.Request
import PbrTelemetry.Wire.Merge

/-!
# Decoding messages

For every message the fields that it knows and how they are merged.  A scalar field replaces the
value it had, a nested message is merged into the one that is there, and a list grows.  A member of
a choice is merged into the choice if it holds that member already, and replaces it otherwise.

A known field with another form of payload, text that is not UTF-8, and nesting below the last
level make the whole message unreadable.
-/

namespace PbrTelemetry

open Wire

/-! ## Paths and values -/

def PathElem.keyShape (_depth : Nat) : Shape (String × String) where
  numbers := [1, 2]
  absorb key field :=
    match field.number, field.payload with
    | 1, .bytes content => (textOfBytes? content).map fun name => (name, key.2)
    | 2, .bytes content => (textOfBytes? content).map fun value => (key.1, value)
    | _, _ => none

/-- A path element.  Its keys are framed. -/
def PathElem.shape (depth : Nat) : Shape PathElem where
  numbers := [1, 2]
  framed := [2]
  absorb elem field :=
    match field.number, field.payload with
    | 1, .bytes content => (textOfBytes? content).map fun name => { elem with name }
    | 2, .bytes content =>
      (Shape.mergeNested keyShape depth ("", "") content).map fun (key, value) =>
        { elem with keys := elem.keys.insert key value }
    | _, _ => none

def Path.shape (depth : Nat) : Shape Path where
  numbers := [2, 3, 4]
  absorb path field :=
    match field.number, field.payload with
    | 2, .bytes content => (textOfBytes? content).map fun origin => { path with origin }
    | 3, .bytes content =>
      (Shape.mergeNested PathElem.shape depth { name := "" } content).map fun elem =>
        { path with elems := path.elems ++ [elem] }
    | 4, .bytes content => (textOfBytes? content).map fun target => { path with target }
    | _, _ => none

def Decimal64.shape (_depth : Nat) : Shape Decimal64 where
  numbers := [1, 2]
  absorb decimal field :=
    match field.number, field.payload with
    | 1, .varint word => some { decimal with digits := word.toInt64 }
    | 2, .varint word => some { decimal with precision := word.toUInt32 }
    | _, _ => none

def AnyMessage.shape (_depth : Nat) : Shape AnyMessage where
  numbers := [1, 2]
  absorb any field :=
    match field.number, field.payload with
    | 1, .bytes content => (textOfBytes? content).map fun typeUrl => { any with typeUrl }
    | 2, .bytes content => some { any with value := content }
    | _, _ => none

/-- A leaf list, whose elements are read by `element`. -/
def TypedValue.elementShape (element : List UInt8 → Option TypedValue) :
    Shape (List TypedValue) where
  numbers := [1]
  absorb elements field :=
    match field.payload with
    | .bytes content => (element content).map fun value => elements ++ [value]
    | _ => none

def TypedValue.shapeWith (leafList : List TypedValue → List UInt8 → Option (List TypedValue))
    (depth : Nat) : Shape TypedValue where
  numbers := [1, 2, 3, 4, 5, 6, 7, 8, 9, 10, 11, 12, 13, 14]
  absorb value field :=
    match field.number, field.payload with
    | 1, .bytes content => (textOfBytes? content).map .string
    | 2, .varint word => some (.int word.toInt64)
    | 3, .varint word => some (.uint word)
    | 4, .varint word => some (.bool (word ≠ 0))
    | 5, .bytes content => some (.bytes content)
    | 6, .fixed32 bits => some (.float bits)
    | 7, .bytes content =>
      let start := match value with
        | .decimal d => d
        | _ => {}
      (Shape.mergeNested Decimal64.shape depth start content).map .decimal
    | 8, .bytes content =>
      let start := match value with
        | .leafList elements => elements
        | _ => []
      (leafList start content).map .leafList
    | 9, .bytes content =>
      let start := match value with
        | .any a => a
        | _ => {}
      (Shape.mergeNested AnyMessage.shape depth start content).map .any
    | 10, .bytes content => some (.json content)
    | 11, .bytes content => some (.jsonIetf content)
    | 12, .bytes content => (textOfBytes? content).map .ascii
    | 13, .bytes content => some (.protoBytes content)
    | 14, .fixed64 bits => some (.double ⟨bits⟩)
    | _, _ => none

/-- A typed value.  A leaf list takes one level and each of its elements another one. -/
def TypedValue.shape : Nat → Shape TypedValue
  | 0 => TypedValue.shapeWith (fun _ _ => none) 0
  | 1 => TypedValue.shapeWith ((TypedValue.elementShape fun _ => none).merge 0) 1
  | depth + 2 =>
    TypedValue.shapeWith
      ((TypedValue.elementShape ((TypedValue.shape depth).merge depth .unset)).merge (depth + 1))
      (depth + 2)

/-! ## Responses -/

def Wire.mergeOptional {α : Type} (shape : Nat → Shape α) (depth : Nat) (default : α)
    (value : Option α) (bytes : List UInt8) : Option (Option α) :=
  (Shape.mergeNested shape depth (value.getD default) bytes).map some

def Update.shape (depth : Nat) : Shape Update where
  numbers := [1, 3, 4]
  absorb update field :=
    match field.number, field.payload with
    | 1, .bytes content =>
      (mergeOptional Path.shape depth {} update.path content).map fun path => { update with path }
    | 3, .bytes content =>
      (mergeOptional TypedValue.shape depth .unset update.val content).map fun val =>
        { update with val }
    | 4, .varint word => some { update with duplicates := word.toUInt32 }
    | _, _ => none

def Notification.shape (depth : Nat) : Shape Notification where
  numbers := [1, 2, 4, 5, 6]
  absorb notification field :=
    match field.number, field.payload with
    | 1, .varint word => some { notification with timestamp := word.toInt64 }
    | 2, .bytes content =>
      (mergeOptional Path.shape depth {} notification.prefixPath content).map fun prefixPath =>
        { notification with prefixPath }
    | 4, .bytes content =>
      (Shape.mergeNested Update.shape depth {} content).map fun update =>
        { notification with update := notification.update ++ [update] }
    | 5, .bytes content =>
      (Shape.mergeNested Path.shape depth {} content).map fun path =>
        { notification with delete := notification.delete ++ [path] }
    | 6, .varint word => some { notification with atomic := word ≠ 0 }
    | _, _ => none

def TargetError.shape (depth : Nat) : Shape TargetError where
  numbers := [1, 2, 3]
  absorb error field :=
    match field.number, field.payload with
    | 1, .varint word => some { error with code := word.toUInt32 }
    | 2, .bytes content => (textOfBytes? content).map fun message => { error with message }
    | 3, .bytes content =>
      (mergeOptional AnyMessage.shape depth {} error.data content).map fun data =>
        { error with data }
    | _, _ => none

def SubscribeResponse.shape (depth : Nat) : Shape SubscribeResponse where
  numbers := [1, 3, 4]
  absorb response field :=
    match field.number, field.payload with
    | 1, .bytes content =>
      let start := match response with
        | .update notification => notification
        | _ => {}
      (Shape.mergeNested Notification.shape depth start content).map .update
    | 3, .varint word => some (.sync (word ≠ 0))
    | 4, .bytes content =>
      let start := match response with
        | .error e => e
        | _ => {}
      (Shape.mergeNested TargetError.shape depth start content).map .error
    | _, _ => none

def SubscribeResponse.decode? (bytes : List UInt8) : Option SubscribeResponse :=
  (SubscribeResponse.shape nestingLimit).merge nestingLimit .empty bytes

/-! ## Requests -/

def Subscription.shape (depth : Nat) : Shape Subscription where
  numbers := [1, 2, 3, 4, 5]
  absorb s field :=
    match field.number, field.payload with
    | 1, .bytes content =>
      (mergeOptional Path.shape depth {} s.path content).map fun path => { s with path }
    | 2, .varint word => some { s with mode := int32OfWord word }
    | 3, .varint word => some { s with sampleInterval := word }
    | 4, .varint word => some { s with suppressRedundant := word ≠ 0 }
    | 5, .varint word => some { s with heartbeatInterval := word }
    | _, _ => none

def QosMarking.shape (_depth : Nat) : Shape QosMarking where
  numbers := [1]
  absorb qos field :=
    match field.payload with
    | .varint word => some { qos with marking := word.toUInt32 }
    | _ => none

def ModelData.shape (_depth : Nat) : Shape ModelData where
  numbers := [1, 2, 3]
  absorb model field :=
    match field.number, field.payload with
    | 1, .bytes content => (textOfBytes? content).map fun name => { model with name }
    | 2, .bytes content =>
      (textOfBytes? content).map fun organization => { model with organization }
    | 3, .bytes content => (textOfBytes? content).map fun version => { model with version }
    | _, _ => none

def SubscriptionList.shape (depth : Nat) : Shape SubscriptionList where
  numbers := [1, 2, 4, 5, 6, 7, 8, 9]
  absorb list field :=
    match field.number, field.payload with
    | 1, .bytes content =>
      (mergeOptional Path.shape depth {} list.prefixPath content).map fun prefixPath =>
        { list with prefixPath }
    | 2, .bytes content =>
      (Shape.mergeNested Subscription.shape depth {} content).map fun s =>
        { list with subscription := list.subscription ++ [s] }
    | 4, .bytes content =>
      (mergeOptional QosMarking.shape depth {} list.qos content).map fun qos => { list with qos }
    | 5, .varint word => some { list with mode := int32OfWord word }
    | 6, .varint word => some { list with allowAggregation := word ≠ 0 }
    | 7, .bytes content =>
      (Shape.mergeNested ModelData.shape depth {} content).map fun model =>
        { list with useModels := list.useModels ++ [model] }
    | 8, .varint word => some { list with encoding := int32OfWord word }
    | 9, .varint word => some { list with updatesOnly := word ≠ 0 }
    | _, _ => none

def Wire.emptyShape (_depth : Nat) : Shape Unit where
  numbers := []
  absorb _ _ := none

def SubscribeRequest.shape (depth : Nat) : Shape SubscribeRequest where
  numbers := [1, 3]
  absorb request field :=
    match field.number, field.payload with
    | 1, .bytes content =>
      let start := match request with
        | .subscribe list => list
        | _ => {}
      (Shape.mergeNested SubscriptionList.shape depth start content).map .subscribe
    | 3, .bytes content => (Shape.mergeNested emptyShape depth () content).map fun _ => .poll
    | _, _ => none

def SubscribeRequest.decode? (bytes : List UInt8) : Option SubscribeRequest :=
  (SubscribeRequest.shape nestingLimit).merge nestingLimit .empty bytes

end PbrTelemetry
