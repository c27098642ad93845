import PbrTelemetry.Wire.Field

/-!
# Merging fields into a message

A message is decoded by merging its fields one after the other into a value that starts out empty,
so a later field overrides or extends an earlier one.

A message knows some field numbers.  Fields with other numbers are passed over, and so are groups
with all that they hold, as long as groups close in the order in which they were opened.

Decoding carries the number of nesting levels that are left.  A nested message takes one, and so
does a group that is passed over; a field that is passed over needs one to be left.
-/

namespace PbrTelemetry.Wire

/-- How many levels a message may nest below the outermost one. -/
def nestingLimit : Nat := 100

/-- What a message does with the fields that it knows. -/
structure Shape (α : Type) where
  numbers : List Nat
  /-- Those that are read as bytes whatever form their key states. -/
  framed : List Nat := []
  absorb : α → Field → Option α

structure Progress (α : Type) where
  value : α
  /-- The numbers of the groups that are open, the innermost first. -/
  groups : List Nat

def Progress.skip {α : Type} (depth : Nat) (state : Progress α) (field : Field) :
    Option (Progress α) :=
  match field.payload, state.groups with
  | .groupEnd, [] => none
  | .groupEnd, number :: outer =>
    if field.number = number then some { state with groups := outer } else none
  | .groupStart, groups =>
    if groups.length < depth then some { state with groups := field.number :: groups } else none
  | _, groups => if groups.length < depth then some state else none

def Progress.step {α : Type} (shape : Shape α) (depth : Nat) (state : Progress α) (field : Field) :
    Option (Progress α) :=
  if state.groups.isEmpty ∧ field.number ∈ shape.numbers then
    (shape.absorb state.value field).map fun value => { state with value }
  else state.skip depth field

def Shape.mergeFields {α : Type} (shape : Shape α) (depth : Nat) (value : α)
    (fields : List Field) : Option α := do
  let state ← fields.foldlM (Progress.step shape depth) { value, groups := [] }
  if state.groups.isEmpty then some state.value else none

def Shape.merge {α : Type} (shape : Shape α) (depth : Nat) (value : α) (bytes : List UInt8) :
    Option α := do
  let fields ← Field.readAll (fun n => n ∈ shape.framed) bytes
  shape.mergeFields depth value fields

/-- Merge a nested message into a value, `depth` levels being left around it. -/
def Shape.mergeNested {α : Type} (shape : Nat → Shape α) (depth : Nat) (value : α)
    (bytes : List UInt8) : Option α :=
  match depth with
  | 0 => none
  | depth + 1 => (shape depth).merge depth value bytes

/-! ## Scalars -/

def textOfBytes? (bytes : List UInt8) : Option String :=
  String.fromUTF8? ⟨bytes.toArray⟩

def bytesOfText (text : String) : List UInt8 := text.toUTF8.data.toList

/-- A signed 32-bit number, extended to 64 bits. -/
def wordOfInt32 (n : Int32) : UInt64 := n.toInt64.toUInt64

def int32OfWord (word : UInt64) : Int32 := word.toUInt32.toInt32

end PbrTelemetry.Wire
