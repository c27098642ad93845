import PbrTelemetry.Proofs.Wire.Field

/-!
# Fields in all their spellings

A target may spell a message otherwise than it is written here: with more bytes to an integer, and
with fields, in all four forms and in groups, that no message declares.  `IsField` says which bytes
are one complete field, and `AreFields` which are several, without a reader.

The reader divides all of these bytes, whatever follows them (`IsField.reads`, `IsComplete.reads`).
A group is read as the mark of its start, its fields, and the mark of its end, so what was read is
described in the same way (`Field.IsWhole`, `Field.AreBalanced`).
-/

namespace PbrTelemetry.Wire

/-! ## Bytes -/

/-- The bytes are a payload of the given form, which is not the mark of a group. -/
inductive IsPayload : Nat → List UInt8 → Prop
  | varint {bytes : List UInt8} {n : Nat} (spelled : IsVarint bytes n) : IsPayload 0 bytes
  | fixed64 {bytes : List UInt8} (eight : bytes.length = 8) : IsPayload 1 bytes
  | framed {length content : List UInt8} (spelled : IsVarint length content.length) :
      IsPayload 2 (length ++ content)
  | fixed32 {bytes : List UInt8} (four : bytes.length = 4) : IsPayload 5 bytes

/-- The bytes are complete fields, and passing over them takes so many levels: one for a field, and
one more for a group than for the fields in it. -/
inductive AreFields : Nat → List UInt8 → Prop
  | nil : AreFields 0 []
  | scalar {number form levels : Nat} {key payload others : List UInt8}
      (keyed : IsKey key number form) (filled : IsPayload form payload)
      (followed : AreFields levels others) :
      AreFields (max 1 levels) (key ++ payload ++ others)
  | group {number inside levels : Nat} {opening inner closing others : List UInt8}
      (opened : IsKey opening number 3) (filled : AreFields inside inner)
      (closed : IsKey closing number 4) (followed : AreFields levels others) :
      AreFields (max (inside + 1) levels) (opening ++ inner ++ closing ++ others)

inductive IsField (number : Nat) : Nat → List UInt8 → Prop
  | scalar {form : Nat} {key payload : List UInt8} (keyed : IsKey key number form)
      (filled : IsPayload form payload) : IsField number 1 (key ++ payload)
  | group {inside : Nat} {opening inner closing : List UInt8} (opened : IsKey opening number 3)
      (filled : AreFields inside inner) (closed : IsKey closing number 4) :
      IsField number (inside + 1) (opening ++ inner ++ closing)

inductive IsComplete (framed : List Nat) : List UInt8 → Prop
  | plain {number levels : Nat} {bytes : List UInt8} (field : IsField number levels bytes)
      (unframed : number ∉ framed) : IsComplete framed bytes
  | framed {number form : Nat} {key length content : List UInt8} (keyed : IsKey key number form)
      (member : number ∈ framed) (sized : IsVarint length content.length) :
      IsComplete framed (key ++ (length ++ content))

/-! ## What is read from them -/

namespace Field

/-- All groups that are opened are closed, each under its own number. -/
inductive AreBalanced : Nat → List Field → Prop
  | nil : AreBalanced 0 []
  | scalar {number levels : Nat} {payload : Payload} {others : List Field}
      (scalar : IsScalar payload) (followed : AreBalanced levels others) :
      AreBalanced (max 1 levels) (⟨number, payload⟩ :: others)
  | group {number inside levels : Nat} {inner others : List Field}
      (filled : AreBalanced inside inner) (followed : AreBalanced levels others) :
      AreBalanced (max (inside + 1) levels)
        (⟨number, .groupStart⟩ :: (inner ++ [⟨number, .groupEnd⟩]) ++ others)

inductive IsWhole (number : Nat) : Nat → List Field → Prop
  | scalar {payload : Payload} (scalar : IsScalar payload) : IsWhole number 1 [⟨number, payload⟩]
  | group {inside : Nat} {inner : List Field} (filled : AreBalanced inside inner) :
      IsWhole number (inside + 1) (⟨number, .groupStart⟩ :: (inner ++ [⟨number, .groupEnd⟩]))

theorem IsWhole.areBalanced {number levels : Nat} {fields : List Field}
    (whole : IsWhole number levels fields) : AreBalanced levels fields := by
  cases whole with
  | scalar scalar => exact .scalar scalar .nil
  | @group inside inner filled =>
    have alone : AreBalanced (max (inside + 1) 0)
        (⟨number, .groupStart⟩ :: (inner ++ [⟨number, .groupEnd⟩]) ++ []) :=
      .group filled .nil
    simpa using alone

end Field

open PbrTelemetry.Wire.Field

variable {framed : Nat → Bool} {number form levels groups : Nat}
  {key payload length content bytes : List UInt8}

/-! ### One field -/

theorem readLittleEndian_append {count : Nat} {bytes : List UInt8} (all : bytes.length = count) :
    ∃ value, ∀ rest, readLittleEndian count (bytes ++ rest) = some (value, rest) := by
  induction count generalizing bytes with
  | zero =>
    cases List.length_eq_zero_iff.mp all
    exact ⟨0, fun _ => rfl⟩
  | succ count ih =>
    obtain ⟨byte, bytes, rfl⟩ := List.exists_cons_of_length_eq_add_one all
    obtain ⟨high, read⟩ := ih (Nat.succ.inj all)
    exact ⟨_, fun rest => by rw [List.cons_append, readLittleEndian, read]; rfl⟩

theorem IsPayload.read (spelled : IsPayload form payload) :
    ∃ value, IsScalar value ∧ ∀ rest, Payload.read form (payload ++ rest) = some (value, rest) := by
  cases spelled with
  | @varint bytes n spelled =>
    refine ⟨.varint (UInt64.ofNat n), ⟨by simp, by simp⟩, fun rest => ?_⟩
    rw [Payload.read, spelled.readVarint]
    rfl
  | fixed64 eight =>
    obtain ⟨value, read⟩ := readLittleEndian_append eight
    refine ⟨.fixed64 (UInt64.ofNat value), ⟨by simp, by simp⟩, fun rest => ?_⟩
    rw [Payload.read, read]
    rfl
  | @framed length content spelled =>
    refine ⟨.bytes content, ⟨by simp, by simp⟩, fun rest => ?_⟩
    rw [Payload.read, readFramed_spelled spelled]
    rfl
  | fixed32 four =>
    obtain ⟨value, read⟩ := readLittleEndian_append four
    refine ⟨.fixed32 (UInt32.ofNat value), ⟨by simp, by simp⟩, fun rest => ?_⟩
    rw [Payload.read, read]
    rfl

/-! ### Several fields -/

theorem IsKey.reads_scalar {value : Payload} (spelled : IsKey key number form)
    (unframed : (groups = 0 && framed number) = false) (scalar : IsScalar value)
    (read : ∀ rest, Payload.read form (payload ++ rest) = some (value, rest)) :
    Reads framed groups (key ++ payload) [⟨number, value⟩] groups := by
  have one : Reads framed groups (key ++ payload) [⟨number, value⟩]
      (groupsAfter ⟨number, value⟩ groups) :=
    .single (Field.read_unframed unframed spelled read)
  rwa [groupsAfter_scalar scalar] at one

/-- Whatever is read in a group is read between its marks. -/
theorem IsKey.reads_group {opening inner closing : List UInt8} {fields : List Field}
    (opens : IsKey opening number 3) (closes : IsKey closing number 4)
    (unframed : (groups = 0 && framed number) = false)
    (inside : Reads framed (groups + 1) inner fields (groups + 1)) :
    Reads framed groups (opening ++ inner ++ closing)
      (⟨number, .groupStart⟩ :: (fields ++ [⟨number, .groupEnd⟩])) groups := by
  have first : Reads framed groups opening [⟨number, .groupStart⟩] (groups + 1) :=
    .single (Field.read_mark unframed opens fun _ => rfl)
  have last : Reads framed (groups + 1) closing [⟨number, .groupEnd⟩] groups :=
    .single (Field.read_mark (by simp) closes fun _ => rfl)
  simpa using (first.append inside).append last

/-- Inside of a group no number is framed. -/
theorem AreFields.reads (framed : Nat → Bool) (spelled : AreFields levels bytes) :
    ∃ fields, AreBalanced levels fields ∧
      ∀ groups, Reads framed (groups + 1) bytes fields (groups + 1) := by
  induction spelled with
  | nil => exact ⟨[], .nil, fun _ => .nil⟩
  | @scalar number form levels key payload others keyed filled followed ih =>
    obtain ⟨value, scalar, readValue⟩ := filled.read
    obtain ⟨others, balanced, read⟩ := ih
    refine ⟨⟨number, value⟩ :: others, .scalar scalar balanced, fun groups => ?_⟩
    exact (keyed.reads_scalar (by simp) scalar readValue).append (read groups)
  | @group number _ _ _ _ _ _ opened filled closed followed ihInner ihOthers =>
    obtain ⟨inner, inside, readInner⟩ := ihInner
    obtain ⟨others, balanced, read⟩ := ihOthers
    refine ⟨⟨number, .groupStart⟩ :: (inner ++ [⟨number, .groupEnd⟩]) ++ others,
      .group inside balanced, fun groups => ?_⟩
    exact (opened.reads_group closed (by simp) (readInner _)).append (read groups)

theorem IsField.reads (framed : Nat → Bool) (spelled : IsField number levels bytes)
    (unframed : framed number = false) :
    ∃ fields, IsWhole number levels fields ∧ Reads framed 0 bytes fields 0 := by
  have outside : (decide (0 = 0) && framed number) = false := by simpa using unframed
  cases spelled with
  | scalar keyed filled =>
    obtain ⟨value, scalar, read⟩ := filled.read
    exact ⟨_, .scalar scalar, keyed.reads_scalar outside scalar read⟩
  | group opened filled closed =>
    obtain ⟨fields, balanced, read⟩ := filled.reads framed
    exact ⟨_, .group balanced, opened.reads_group closed outside (read 0)⟩

theorem IsKey.reads_framed (framed : Nat → Bool) (spelled : IsKey key number form)
    (frames : form = 2 ∨ framed number) (size : IsVarint length content.length) :
    Reads framed 0 (key ++ (length ++ content)) [⟨number, .bytes content⟩] 0 :=
  Reads.single (Field.read_framed spelled (by simpa using frames) size)

theorem IsComplete.reads {numbers : List Nat} (spelled : IsComplete numbers bytes) :
    ∃ levels fields, AreBalanced levels fields ∧
      Reads (fun n => n ∈ numbers) 0 bytes fields 0 := by
  cases spelled with
  | plain field unframed =>
    obtain ⟨fields, whole, read⟩ := field.reads (fun n => n ∈ numbers) (decide_eq_false unframed)
    exact ⟨_, fields, whole.areBalanced, read⟩
  | @framed number form key length content keyed member sized =>
    have read := keyed.reads_framed (fun n => n ∈ numbers) (.inr (decide_eq_true member)) sized
    have scalar : IsScalar (.bytes content) := ⟨nofun, nofun⟩
    exact ⟨_, _, .scalar scalar .nil, read⟩

/-! ## What follows the fields -/

theorem readVarintWithin_shorter {left n : Nat} {bytes rest : List UInt8}
    (read : readVarintWithin left bytes = some (n, rest)) : rest.length < bytes.length := by
  induction left generalizing bytes n with
  | zero => simp [readVarintWithin] at read
  | succ left ih =>
    cases bytes with
    | nil => simp [readVarintWithin] at read
    | cons byte bytes =>
      rw [readVarintWithin] at read
      split at read
      · split at read <;> cases read
        exact Nat.lt_succ_self _
      · obtain ⟨⟨high, others⟩, read, same⟩ := Option.map_eq_some_iff.mp read
        cases same
        exact Nat.lt_succ_of_lt (ih read)

theorem readLittleEndian_le {count n : Nat} {bytes rest : List UInt8}
    (read : readLittleEndian count bytes = some (n, rest)) : rest.length ≤ bytes.length := by
  induction count generalizing bytes n with
  | zero =>
    cases read
    exact Nat.le_refl _
  | succ count ih =>
    cases bytes with
    | nil => simp [readLittleEndian] at read
    | cons byte bytes =>
      obtain ⟨⟨high, others⟩, read, same⟩ := Option.map_eq_some_iff.mp read
      cases same
      exact Nat.le_succ_of_le (ih read)

theorem readFramed_le {bytes content rest : List UInt8}
    (read : readFramed bytes = some (content, rest)) : rest.length ≤ bytes.length := by
  obtain ⟨⟨size, others⟩, readSize, read⟩ := Option.bind_eq_some_iff.mp read
  have shorter := readVarintWithin_shorter readSize
  dsimp only at read
  split at read
  · cases read
  · cases read
    rw [List.length_drop]
    omega

theorem Payload.read_le {form : Nat} {bytes rest : List UInt8} {value : Payload}
    (read : Payload.read form bytes = some (value, rest)) : rest.length ≤ bytes.length := by
  rw [Payload.read.eq_def] at read
  split at read
  · obtain ⟨⟨n, others⟩, read, same⟩ := Option.map_eq_some_iff.mp read
    cases same
    exact Nat.le_of_lt (readVarintWithin_shorter read)
  · obtain ⟨⟨n, others⟩, read, same⟩ := Option.map_eq_some_iff.mp read
    cases same
    exact readLittleEndian_le read
  · obtain ⟨⟨content, others⟩, read, same⟩ := Option.map_eq_some_iff.mp read
    cases same
    exact readFramed_le read
  · cases read
    exact Nat.le_refl _
  · cases read
    exact Nat.le_refl _
  · obtain ⟨⟨n, others⟩, read, same⟩ := Option.map_eq_some_iff.mp read
    cases same
    exact readLittleEndian_le read
  · cases read

theorem readKey_shorter {bytes rest : List UInt8} {number form : Nat}
    (read : readKey bytes = some (number, form, rest)) : rest.length < bytes.length := by
  obtain ⟨⟨key, others⟩, readKey, read⟩ := Option.bind_eq_some_iff.mp read
  dsimp only at read
  split at read
  · cases read
  · cases read
    exact readVarintWithin_shorter readKey

theorem Field.read_shorter {bytes rest : List UInt8} {field : Field}
    (read : Field.read framed bytes = some (field, rest)) : rest.length < bytes.length := by
  obtain ⟨⟨number, form, others⟩, readKey, read⟩ := Option.bind_eq_some_iff.mp read
  have shorter := readKey_shorter readKey
  dsimp only at read
  split at read
  · obtain ⟨⟨content, others⟩, readFramed, read⟩ := Option.bind_eq_some_iff.mp read
    cases read
    exact Nat.lt_of_le_of_lt (readFramed_le readFramed) shorter
  · obtain ⟨⟨value, others⟩, readValue, read⟩ := Option.bind_eq_some_iff.mp read
    cases read
    exact Nat.lt_of_le_of_lt (Payload.read_le readValue) shorter

theorem Field.readMany_eq {fuel : Nat} (enough : bytes.length ≤ fuel) :
    readMany framed fuel groups bytes = readMany framed bytes.length groups bytes := by
  suffices general : ∀ few many, bytes.length ≤ few → bytes.length ≤ many →
      readMany framed few groups bytes = readMany framed many groups bytes by
    exact general _ _ enough (Nat.le_refl _)
  clear enough
  intro few many fewEnough manyEnough
  induction few generalizing many groups bytes with
  | zero =>
    cases List.length_eq_zero_iff.mp (Nat.le_zero.mp fewEnough)
    rw [readMany, readMany]
  | succ few ih =>
    cases bytes with
    | nil => rw [readMany, readMany]
    | cons byte bytes =>
      cases many with
      | zero => simp at manyEnough
      | succ many =>
        rw [readMany, readMany]
        cases read : Field.read (fun n => groups = 0 && framed n) (byte :: bytes) with
        | none => rfl
        | some found =>
          obtain ⟨field, rest⟩ := found
          have shorter := read_shorter read
          rw [List.length_cons] at shorter fewEnough manyEnough
          simp only [Option.bind_eq_bind, Option.bind_some]
          rw [ih many (by omega) (by omega)]

/-- Fields that were divided do not change how what follows them is divided. -/
theorem Field.Reads.readAll_append {fields : List Field}
    (reads : Reads framed 0 bytes fields 0) (rest : List UInt8) :
    Field.readAll framed (bytes ++ rest) = (Field.readAll framed rest).map (fields ++ ·) := by
  have enough := reads.enough
  have fuel : (bytes ++ rest).length
      = fields.length + (bytes.length - fields.length + rest.length) := by
    rw [List.length_append]
    omega
  rw [Field.readAll, Field.readAll, fuel, reads.divides, readMany_eq (Nat.le_add_left _ _)]

end PbrTelemetry.Wire
