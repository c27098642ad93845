import PbrTelemetry.Proofs.Wire.Varint
import PbrTelemetry.Wire.Field

/-!
# Fields are read back

Bytes that are put together from fields are divided into these fields, in whatever way their
integers are spelled (`Field.Reads`).  So a sequence of fields is divided as it was written
(`Field.readAll_writeAll`), as long as the fields are ones that messages have: with a number of 29
bits, without groups, and with bytes where the reader frames them.  A length is read as a word of 64
bits, so all bytes must be fewer than that.
-/

namespace PbrTelemetry.Wire

structure IsKey (bytes : List UInt8) (number form : Nat) : Prop where
  spelled : IsVarint bytes (8 * number + form)
  positive : 0 < number
  below : number < 2 ^ 29
  form_le : form ≤ 5

namespace Field

def IsScalar (payload : Payload) : Prop := payload ≠ .groupStart ∧ payload ≠ .groupEnd

structure IsPlain (framed : Nat → Bool) (field : Field) : Prop where
  positive : 0 < field.number
  below : field.number < 2 ^ 29
  ungrouped : field.payload ≠ .groupStart ∧ field.payload ≠ .groupEnd
  bytes : framed field.number = true → ∃ content, field.payload = .bytes content

def IsSmall (field : Field) : Prop :=
  ∀ content, field.payload = .bytes content → content.length < 2 ^ 64

/-- The reader divides the bytes into these fields, whatever follows them, with so many groups open
before and after them. -/
structure Reads (framed : Nat → Bool) (groups : Nat) (bytes : List UInt8) (fields : List Field)
    (after : Nat) : Prop where
  divides : ∀ fuel rest, readMany framed (fields.length + fuel) groups (bytes ++ rest)
    = (readMany framed fuel after rest).map (fields ++ ·)
  enough : fields.length ≤ bytes.length

end Field

open PbrTelemetry.Wire.Field

variable {framed : Nat → Bool} {number form groups between after : Nat}
  {key payload length content bytes : List UInt8} {field : Field} {fields : List Field}

/-! ## Keys -/

theorem IsKey.byte {byte : UInt8} (value : byte.toNat = 8 * number + form) (positive : 0 < number)
    (small : number < 16) (form_le : form ≤ 5) : IsKey [byte] number form :=
  ⟨.byte value (by omega), positive, by omega, form_le⟩

theorem isKey_writeVarint (positive : 0 < number) (below : number < 2 ^ 29) (form_le : form ≤ 5) :
    IsKey (writeVarint (8 * number + form)) number form :=
  ⟨isVarint_writeVarint (by omega), positive, below, form_le⟩

theorem IsKey.readKey (spelled : IsKey key number form) (rest : List UInt8) :
    readKey (key ++ rest) = some (number, form, rest) := by
  obtain ⟨varint, positive, below, form_le⟩ := spelled
  have quotient : (8 * number + form) / 8 = number := by omega
  have remainder : (8 * number + form) % 8 = form := by omega
  have bound : Nat.pow 2 32 = 4294967296 := rfl
  simp only [Wire.readKey, varint.readVarint, Option.bind_eq_bind, Option.bind_some, quotient,
    remainder]
  rw [if_neg (by omega)]

/-! ## One field -/

theorem readFramed_spelled (spelled : IsVarint length content.length) (rest : List UInt8) :
    readFramed (length ++ content ++ rest) = some (content, rest) := by
  rw [readFramed, List.append_assoc, spelled.readVarint]
  simp

theorem Field.read_unframed (unframed : framed number = false) (spelled : IsKey key number form)
    {value : Payload} (read : ∀ rest, Payload.read form (payload ++ rest) = some (value, rest))
    (rest : List UInt8) :
    Field.read framed (key ++ payload ++ rest) = some (⟨number, value⟩, rest) := by
  simp [Field.read, List.append_assoc, spelled.readKey, unframed, read]

theorem Field.read_mark {mark : Payload} (unframed : framed number = false)
    (spelled : IsKey key number form) (read : ∀ rest, Payload.read form rest = some (mark, rest))
    (rest : List UInt8) : Field.read framed (key ++ rest) = some (⟨number, mark⟩, rest) := by
  simpa using Field.read_unframed unframed spelled (fun rest => read ([] ++ rest)) rest

/-- A framed number is read as bytes in any form, and other numbers in form 2. -/
theorem Field.read_framed (spelled : IsKey key number form) (frames : form = 2 ∨ framed number)
    (size : IsVarint length content.length) (rest : List UInt8) :
    Field.read framed (key ++ (length ++ content) ++ rest)
      = some (⟨number, .bytes content⟩, rest) := by
  cases isFramed : framed number with
  | true =>
    rw [Field.read, List.append_assoc, spelled.readKey]
    simp only [Option.bind_eq_bind, Option.bind_some, isFramed, if_pos, readFramed_spelled size]
    rfl
  | false =>
    obtain rfl : form = 2 := by simpa [isFramed] using frames
    apply Field.read_unframed isFramed spelled
    intro rest
    rw [Payload.read, readFramed_spelled size]
    rfl

theorem Field.groupsAfter_scalar {value : Payload} (scalar : IsScalar value) :
    groupsAfter ⟨number, value⟩ groups = groups := by
  obtain ⟨noStart, noEnd⟩ := scalar
  cases value with
  | groupStart => exact absurd rfl noStart
  | groupEnd => exact absurd rfl noEnd
  | _ => rfl

/-! ### Written fields -/

theorem Payload.form_le (payload : Payload) : payload.form ≤ 5 := by
  cases payload <;> simp [Payload.form]

theorem Payload.read_write {payload : Payload}
    (small : ∀ content, payload = .bytes content → content.length < 2 ^ 64) (rest : List UInt8) :
    Payload.read payload.form (payload.write ++ rest) = some (payload, rest) := by
  cases payload with
  | varint value =>
    rw [Payload.write, Payload.form, Payload.read, readVarint_writeVarint value.toNat_lt]
    simp
  | fixed64 value =>
    rw [Payload.write, Payload.form, Payload.read,
      readLittleEndian_writeLittleEndian 8 value.toNat_lt]
    simp
  | bytes content =>
    rw [Payload.write, Payload.form, Payload.read,
      readFramed_spelled (isVarint_writeVarint (small content rfl))]
    rfl
  | groupStart => rfl
  | groupEnd => rfl
  | fixed32 value =>
    rw [Payload.write, Payload.form, Payload.read,
      readLittleEndian_writeLittleEndian 4 value.toNat_lt]
    simp

theorem Field.read_write (plain : field.IsPlain framed) (small : field.IsSmall)
    (rest : List UInt8) : Field.read framed (field.write ++ rest) = some (field, rest) := by
  obtain ⟨number, payload⟩ := field
  have keyed : IsKey (writeVarint (8 * number + payload.form)) number payload.form :=
    isKey_writeVarint plain.positive plain.below payload.form_le
  cases frames : framed number with
  | true =>
    obtain ⟨content, bytes⟩ := plain.bytes frames
    cases bytes
    exact Field.read_framed keyed (.inr frames) (isVarint_writeVarint (small content rfl)) rest
  | false => exact Field.read_unframed frames keyed (Payload.read_write small) rest

theorem Field.length_content_le {content : List UInt8} (payload : field.payload = .bytes content) :
    content.length ≤ field.write.length := by
  simp only [Field.write, payload, Payload.write, List.length_append]
  omega

/-! ## Sequences of fields -/

namespace Field.Reads

theorem nil : Reads framed groups [] [] groups where
  divides fuel rest := by simp
  enough := Nat.le_refl 0

theorem append {first second : List UInt8} {fields others : List Field}
    (before : Reads framed groups first fields between)
    (behind : Reads framed between second others after) :
    Reads framed groups (first ++ second) (fields ++ others) after where
  divides fuel rest := by
    rw [List.length_append, Nat.add_assoc, List.append_assoc, before.divides, behind.divides,
      Option.map_map]
    simp [Function.comp_def]
  enough := by
    rw [List.length_append, List.length_append]
    exact Nat.add_le_add before.enough behind.enough

theorem single {field : Field}
    (read : ∀ rest, Field.read (fun n => groups = 0 && framed n) (bytes ++ rest)
      = some (field, rest)) :
    Reads framed groups bytes [field] (field.groupsAfter groups) := by
  cases bytes with
  | nil => exact absurd (read []) (by simp [Field.read, readKey, readVarint, readVarintWithin])
  | cons byte bytes =>
    refine ⟨fun fuel rest => ?_, Nat.succ_le_succ (Nat.zero_le _)⟩
    have first := read rest
    rw [List.cons_append] at first ⊢
    rw [List.length_singleton, Nat.add_comm, readMany, first]
    simp only [Option.bind_eq_bind, Option.bind_some]
    cases readMany framed fuel (field.groupsAfter groups) rest with
    | none => rfl
    | some others => rfl

theorem readAll (reads : Reads framed 0 bytes fields 0) :
    Field.readAll framed bytes = some fields := by
  have fuel : bytes.length = fields.length + (bytes.length - fields.length) := by
    have enough := reads.enough
    omega
  have divided := reads.divides (bytes.length - fields.length) []
  rw [List.append_nil, ← fuel] at divided
  simp [Field.readAll, divided, readMany]

end Field.Reads

theorem Field.IsPlain.reads (plain : field.IsPlain framed) (small : field.IsSmall) :
    Reads framed 0 field.write [field] 0 := by
  have one : Reads framed 0 field.write [field] (field.groupsAfter 0) :=
    .single (by simpa using Field.read_write plain small)
  rwa [groupsAfter_scalar plain.ungrouped] at one

theorem Field.reads_writeAll (plain : ∀ field ∈ fields, field.IsPlain framed)
    (small : ∀ field ∈ fields, field.IsSmall) : Reads framed 0 (writeAll fields) fields 0 := by
  induction fields with
  | nil => exact .nil
  | cons field others ih =>
    obtain ⟨plainFirst, plainOthers⟩ := List.forall_mem_cons.mp plain
    obtain ⟨smallFirst, smallOthers⟩ := List.forall_mem_cons.mp small
    exact (plainFirst.reads smallFirst).append (ih plainOthers smallOthers)

theorem Field.readAll_writeAll (plain : ∀ field ∈ fields, field.IsPlain framed)
    (small : ∀ field ∈ fields, field.IsSmall) :
    Field.readAll framed (Field.writeAll fields) = some fields :=
  (Field.reads_writeAll plain small).readAll

theorem Field.isSmall_of_length (short : (Field.writeAll fields).length < 2 ^ 64) :
    ∀ field ∈ fields, field.IsSmall := by
  intro field member content payload
  obtain ⟨before, after, rfl⟩ := List.append_of_mem member
  have part : (field.write).length ≤ (Field.writeAll (before ++ field :: after)).length := by
    simp only [Field.writeAll, List.flatMap_append, List.flatMap_cons, List.length_append]
    omega
  have inside := Field.length_content_le payload
  omega

end PbrTelemetry.Wire
