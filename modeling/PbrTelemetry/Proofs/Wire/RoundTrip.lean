import PbrTelemetry.Proofs.Wire.Request
import PbrTelemetry.Proofs.Wire.Response

/-!
# Requests and responses are read back

`messages_round_trip` is about every request and every response.  Both have the three properties of
`RoundTrips`, which follow from `Shape.Faithful` alone.
-/

namespace PbrTelemetry

namespace Wire

/-- Encoding and decoding fit together.  A length is written as a word of 64 bits, so encodings are
shorter than that; no memory holds a longer one. -/
structure RoundTrips {α : Type} (encode : α → List UInt8) (decode? : List UInt8 → Option α)
    (nesting : α → Nat) : Prop where
  /-- A message comes back exactly if it does not nest too deep. -/
  decode_encode_iff : ∀ message, (encode message).length < 2 ^ 64 →
    (decode? (encode message) = some message ↔ nesting message ≤ nestingLimit)
  /-- What was decoded from any bytes at all comes back. -/
  decode_again : ∀ bytes message, decode? bytes = some message →
    (encode message).length < 2 ^ 64 → decode? (encode message) = some message
  /-- Its encoding does not change any more. -/
  encode_again : ∀ bytes message, decode? bytes = some message →
    (encode message).length < 2 ^ 64 → (decode? (encode message)).map encode = some (encode message)

theorem Shape.Faithful.roundTrips {α : Type} {shape : Nat → Shape α} {fields : α → List Field}
    {nesting : α → Nat} {default : α} (faithful : Shape.Faithful shape fields nesting default) :
    RoundTrips (fun message => Field.writeAll (fields message))
      ((shape nestingLimit).merge nestingLimit default) nesting where
  decode_encode_iff message short := by
    constructor
    · exact faithful.merge_le
    · exact faithful.merge_writeAll short
  decode_again bytes message decoded short :=
    faithful.merge_writeAll short (faithful.merge_le decoded)
  encode_again bytes message decoded short := by
    rw [faithful.merge_writeAll short (faithful.merge_le decoded)]
    rfl

end Wire

open Wire

/-! ## Leaf lists beyond the limit -/

def TypedValue.stacked : Nat → TypedValue
  | 0 => .unset
  | count + 1 => .leafList [TypedValue.stacked count]

theorem TypedValue.nesting_stacked (count : Nat) : (stacked count).nesting = 2 * count := by
  induction count with
  | zero => rfl
  | succ count ih =>
    rw [stacked, nesting, elementsNesting, elementsNesting, ih]
    omega

def SubscribeResponse.ofValue (value : TypedValue) : SubscribeResponse :=
  .update { update := [{ val := some value }] }

theorem SubscribeResponse.nesting_ofValue (value : TypedValue) :
    (ofValue value).nesting = value.nesting + 3 := by
  simp [ofValue, nesting, Notification.nesting, Update.nesting, levels]

/-! ## All messages -/

/-- Every request and every response comes back from its encoding exactly if it nests at most a
hundred levels deep, which a response with leaf lists does not always do; and whatever was decoded
comes back. -/
theorem messages_round_trip :
    RoundTrips SubscribeRequest.encode SubscribeRequest.decode? SubscribeRequest.nesting ∧
    RoundTrips SubscribeResponse.encode SubscribeResponse.decode? SubscribeResponse.nesting ∧
    ∃ elements : List TypedValue,
      (SubscribeResponse.ofValue (.leafList elements)).encode.length < 2 ^ 64 ∧
      nestingLimit < (SubscribeResponse.ofValue (.leafList elements)).nesting := by
  refine ⟨SubscribeRequest.shape_faithful.roundTrips, SubscribeResponse.shape_faithful.roundTrips,
    [TypedValue.stacked 48], ?_, ?_⟩
  · decide +kernel
  · show nestingLimit < (SubscribeResponse.ofValue (TypedValue.stacked 49)).nesting
    rw [SubscribeResponse.nesting_ofValue, TypedValue.nesting_stacked]
    decide

/-- Forty-eight leaf lists inside of each other are read back, and forty-nine are not. -/
theorem messages_round_trip_stacked :
    SubscribeResponse.decode? (SubscribeResponse.ofValue (.stacked 48)).encode
      = some (.ofValue (.stacked 48)) ∧
    SubscribeResponse.decode? (SubscribeResponse.ofValue (.stacked 49)).encode
      ≠ some (.ofValue (.stacked 49)) := by
  obtain ⟨-, responses, -⟩ := messages_round_trip
  constructor
  · apply (responses.decode_encode_iff _ (by decide +kernel)).mpr
    rw [SubscribeResponse.nesting_ofValue, TypedValue.nesting_stacked]
    decide
  · intro decoded
    have shallow := (responses.decode_encode_iff _ (by decide +kernel)).mp decoded
    rw [SubscribeResponse.nesting_ofValue, TypedValue.nesting_stacked] at shallow
    exact absurd shallow (by decide)

end PbrTelemetry
