import PbrTelemetry.Wire.Varint

/-!
# Fields

An encoded message is a sequence of fields.  A field starts with a key, which holds the field's
number and the form of its payload.  Two forms mark the start and the end of a group, whose fields
lie between the marks.

`Field.readAll` divides bytes into fields and knows nothing of messages, with one exception: the
fields listed as `framed` are read as bytes with a length in front whatever form their key states.
-/

namespace PbrTelemetry.Wire

inductive Payload where
  | varint (value : UInt64)
  | fixed64 (value : UInt64)
  | bytes (value : List UInt8)
  | groupStart
  | groupEnd
  | fixed32 (value : UInt32)
  deriving DecidableEq, Repr

def Payload.form : Payload → Nat
  | varint _ => 0
  | fixed64 _ => 1
  | bytes _ => 2
  | groupStart => 3
  | groupEnd => 4
  | fixed32 _ => 5

structure Field where
  number : Nat
  payload : Payload
  deriving DecidableEq, Repr

/-! ## Writing -/

def Payload.write : Payload → List UInt8
  | varint value => writeVarint value.toNat
  | fixed64 value => writeLittleEndian 8 value.toNat
  | bytes value => writeVarint value.length ++ value
  | groupStart => []
  | groupEnd => []
  | fixed32 value => writeLittleEndian 4 value.toNat

def Field.write (field : Field) : List UInt8 :=
  writeVarint (8 * field.number + field.payload.form) ++ field.payload.write

def Field.writeAll (fields : List Field) : List UInt8 := fields.flatMap Field.write

/-! ## Reading -/

def readFramed (bytes : List UInt8) : Option (List UInt8 × List UInt8) := do
  let (length, rest) ← readVarint bytes
  if rest.length < length then none
  else some (rest.take length, rest.drop length)

def Payload.read (form : Nat) (bytes : List UInt8) : Option (Payload × List UInt8) :=
  match form with
  | 0 => (readVarint bytes).map fun (value, rest) => (varint (UInt64.ofNat value), rest)
  | 1 => (readLittleEndian 8 bytes).map fun (value, rest) => (fixed64 (UInt64.ofNat value), rest)
  | 2 => (readFramed bytes).map fun (value, rest) => (.bytes value, rest)
  | 3 => some (groupStart, bytes)
  | 4 => some (groupEnd, bytes)
  | 5 => (readLittleEndian 4 bytes).map fun (value, rest) => (fixed32 (UInt32.ofNat value), rest)
  | _ => none

/-- Read a key: a field number above zero and a form, in 32 bits. -/
def readKey (bytes : List UInt8) : Option (Nat × Nat × List UInt8) := do
  let (key, rest) ← readVarint bytes
  if Nat.pow 2 32 ≤ key ∨ key / 8 = 0 ∨ 5 < key % 8 then none
  else some (key / 8, key % 8, rest)

def Field.read (framed : Nat → Bool) (bytes : List UInt8) : Option (Field × List UInt8) := do
  let (number, form, rest) ← readKey bytes
  if framed number then
    let (value, rest) ← readFramed rest
    return (⟨number, .bytes value⟩, rest)
  else
    let (payload, rest) ← Payload.read form rest
    return (⟨number, payload⟩, rest)

/-- How many groups are open after a field, `groups` being open before it. -/
def Field.groupsAfter (field : Field) (groups : Nat) : Nat :=
  match field.payload with
  | .groupStart => groups + 1
  | .groupEnd => groups - 1
  | _ => groups

/-- Read at most `fuel` fields, with `groups` groups open; framed numbers count only outside of
groups. -/
def Field.readMany (framed : Nat → Bool) : Nat → Nat → List UInt8 → Option (List Field)
  | _, _, [] => some []
  | 0, _, _ :: _ => none
  | fuel + 1, groups, byte :: bytes => do
    let (field, rest) ← Field.read (fun n => groups = 0 && framed n) (byte :: bytes)
    let others ← Field.readMany framed fuel (field.groupsAfter groups) rest
    return field :: others

/-- Divide bytes into fields.  Every field takes at least one byte. -/
def Field.readAll (framed : Nat → Bool) (bytes : List UInt8) : Option (List Field) :=
  Field.readMany framed bytes.length 0 bytes

end PbrTelemetry.Wire
