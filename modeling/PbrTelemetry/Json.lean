import PbrTelemetry.Binary64.Layout
import PbrTelemetry.TextMap

/-!
# JSON trees

A `Json` tree keeps integers apart from doubles, and the members of an object as a list of entries.
A tree that was read has its members in strictly increasing order of their names
(`Json.Canonical`), so it has one representation.
-/

namespace PbrTelemetry

inductive Json where
  | null
  | bool (value : Bool)
  | integer (value : Int)
  | double (value : Binary64)
  | string (text : String)
  | array (items : List Json)
  | object (members : List (String × Json))
  deriving Repr, Inhabited

namespace Json

mutual

/-- Every object of the tree has its members in strictly increasing order of their names. -/
def Canonical : Json → Prop
  | .array items => CanonicalItems items
  | .object members => Ascending members ∧ CanonicalMembers members
  | _ => True

def CanonicalItems : List Json → Prop
  | [] => True
  | item :: rest => Canonical item ∧ CanonicalItems rest

def CanonicalMembers : List (String × Json) → Prop
  | [] => True
  | (_, value) :: rest => Canonical value ∧ CanonicalMembers rest

end

/-- Doubles in JSON text have at least one digit after the point, an exponent if they are very
large or very small, and of two equally near decimals the even one. -/
def doubleLayout : Binary64.Layout where
  tie := .toEven
  positional := some (-5, 15)
  keepsFraction := true

def renderInteger (value : Int) : String :=
  match value with
  | .ofNat n => String.ofList (Nat.toDigits 10 n)
  | .negSucc n => String.ofList ('-' :: Nat.toDigits 10 (n + 1))

def renderDouble (value : Binary64) : String := String.ofList (value.render doubleLayout)

end Json

end PbrTelemetry
