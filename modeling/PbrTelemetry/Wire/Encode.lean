import PbrTelemetry.Message.Notification
import PbrTelemetry.Message.Request
import PbrTelemetry.Wire.Merge

/-!
# Encoding messages

Every message is a list of fields in ascending number order.  A scalar field is left out if it has
its default value, an optional message if it is absent.  The members of a choice are written even
with default values, since their presence tells which member it is.
-/

namespace PbrTelemetry

open Wire

/-! ## Fields of each kind -/

namespace Wire

def textField (number : Nat) (text : String) : List Field :=
  if text = "" then [] else [⟨number, .bytes (bytesOfText text)⟩]

def bytesField (number : Nat) (bytes : List UInt8) : List Field :=
  if bytes = [] then [] else [⟨number, .bytes bytes⟩]

def wordField (number : Nat) (word : UInt64) : List Field :=
  if word = 0 then [] else [⟨number, .varint word⟩]

def wordOfBool (value : Bool) : UInt64 := if value then 1 else 0

def messageField (number : Nat) (fields : List Field) : Field :=
  ⟨number, .bytes (Field.writeAll fields)⟩

def optionalField {α : Type} (number : Nat) (fields : α → List Field) : Option α → List Field
  | none => []
  | some message => [messageField number (fields message)]

end Wire

/-! ## Paths and values -/

def PathElem.keyFields (key : String × String) : List Field :=
  textField 1 key.1 ++ textField 2 key.2

def PathElem.fields (elem : PathElem) : List Field :=
  textField 1 elem.name ++ elem.keys.entries.map fun key => messageField 2 (keyFields key)

def Path.fields (path : Path) : List Field :=
  textField 2 path.origin
    ++ path.elems.map (fun elem => messageField 3 elem.fields)
    ++ textField 4 path.target

def Decimal64.fields (d : Decimal64) : List Field :=
  wordField 1 d.digits.toUInt64 ++ wordField 2 d.precision.toUInt64

def AnyMessage.fields (any : AnyMessage) : List Field :=
  textField 1 any.typeUrl ++ bytesField 2 any.value

mutual

def TypedValue.fields : TypedValue → List Field
  | .unset => []
  | .string text => [⟨1, .bytes (bytesOfText text)⟩]
  | .int value => [⟨2, .varint value.toUInt64⟩]
  | .uint value => [⟨3, .varint value⟩]
  | .bool value => [⟨4, .varint (wordOfBool value)⟩]
  | .bytes value => [⟨5, .bytes value⟩]
  | .float bits => [⟨6, .fixed32 bits⟩]
  | .decimal value => [messageField 7 value.fields]
  | .leafList elements => [messageField 8 (TypedValue.elementFields elements)]
  | .any value => [messageField 9 value.fields]
  | .json payload => [⟨10, .bytes payload⟩]
  | .jsonIetf payload => [⟨11, .bytes payload⟩]
  | .ascii text => [⟨12, .bytes (bytesOfText text)⟩]
  | .protoBytes value => [⟨13, .bytes value⟩]
  | .double value => [⟨14, .fixed64 value.bits⟩]

def TypedValue.elementFields : List TypedValue → List Field
  | [] => []
  | element :: rest => messageField 1 element.fields :: TypedValue.elementFields rest

end

/-! ## Responses -/

def Update.fields (update : Update) : List Field :=
  optionalField 1 Path.fields update.path
    ++ optionalField 3 TypedValue.fields update.val
    ++ wordField 4 update.duplicates.toUInt64

def Notification.fields (notification : Notification) : List Field :=
  wordField 1 notification.timestamp.toUInt64
    ++ optionalField 2 Path.fields notification.prefixPath
    ++ notification.update.map (fun update => messageField 4 update.fields)
    ++ notification.delete.map (fun path => messageField 5 path.fields)
    ++ wordField 6 (wordOfBool notification.atomic)

def TargetError.fields (error : TargetError) : List Field :=
  wordField 1 error.code.toUInt64
    ++ textField 2 error.message
    ++ optionalField 3 AnyMessage.fields error.data

def SubscribeResponse.fields : SubscribeResponse → List Field
  | .empty => []
  | .update notification => [messageField 1 notification.fields]
  | .sync value => [⟨3, .varint (wordOfBool value)⟩]
  | .error e => [messageField 4 e.fields]

def SubscribeResponse.encode (response : SubscribeResponse) : List UInt8 :=
  Field.writeAll response.fields

/-! ## Requests -/

def Subscription.fields (s : Subscription) : List Field :=
  optionalField 1 Path.fields s.path
    ++ wordField 2 (wordOfInt32 s.mode)
    ++ wordField 3 s.sampleInterval
    ++ wordField 4 (wordOfBool s.suppressRedundant)
    ++ wordField 5 s.heartbeatInterval

def QosMarking.fields (qos : QosMarking) : List Field := wordField 1 qos.marking.toUInt64

def ModelData.fields (model : ModelData) : List Field :=
  textField 1 model.name ++ textField 2 model.organization ++ textField 3 model.version

def SubscriptionList.fields (list : SubscriptionList) : List Field :=
  optionalField 1 Path.fields list.prefixPath
    ++ list.subscription.map (fun s => messageField 2 s.fields)
    ++ optionalField 4 QosMarking.fields list.qos
    ++ wordField 5 (wordOfInt32 list.mode)
    ++ wordField 6 (wordOfBool list.allowAggregation)
    ++ list.useModels.map (fun model => messageField 7 model.fields)
    ++ wordField 8 (wordOfInt32 list.encoding)
    ++ wordField 9 (wordOfBool list.updatesOnly)

def SubscribeRequest.fields : SubscribeRequest → List Field
  | .empty => []
  | .subscribe list => [messageField 1 list.fields]
  | .poll => [messageField 3 []]

def SubscribeRequest.encode (request : SubscribeRequest) : List UInt8 :=
  Field.writeAll request.fields

end PbrTelemetry
