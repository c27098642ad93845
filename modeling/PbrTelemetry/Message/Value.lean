import PbrTelemetry.Binary64

/-!
# Typed values

The values that a target reports for the leaves of its data tree.
-/

namespace PbrTelemetry

/-- A decimal number with a fixed number of digits after the point. -/
structure Decimal64 where
  digits : Int64 := 0
  /-- How many of them stand after the point. -/
  precision : UInt32 := 0
  deriving DecidableEq, Repr, Inhabited

structure AnyMessage where
  typeUrl : String := ""
  value : List UInt8 := []
  deriving DecidableEq, Repr, Inhabited

inductive TypedValue where
  | unset
  | string (text : String)
  | int (value : Int64)
  | uint (value : UInt64)
  | bool (value : Bool)
  | bytes (value : List UInt8)
  /-- A single-precision number, as its bits. -/
  | float (bits : UInt32)
  | decimal (value : Decimal64)
  | leafList (elements : List TypedValue)
  | any (value : AnyMessage)
  | json (payload : List UInt8)
  | jsonIetf (payload : List UInt8)
  | ascii (text : String)
  /-- An encoded message whose type is not stated. -/
  | protoBytes (value : List UInt8)
  | double (value : Binary64)
  deriving Repr, Inhabited

end PbrTelemetry
