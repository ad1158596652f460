import RecordGraph.Json.Binary64
import RecordGraph.Ordered

/-!
# JSON documents

Documents as values.  An integer is a signed or unsigned 64-bit one; any other number is binary
floating point.  The fields of an object stand in the order in which they are written; a document
that was read holds each key once, in character order.
-/

namespace RecordGraph

inductive Json where
  | null
  | bool (value : Bool)
  | int (value : Int)
  | float (value : Json.Binary64)
  | str (value : String)
  | arr (items : List Json)
  | obj (fields : List (String × Json))
deriving Repr, Inhabited

namespace Json

def minInteger : Int := -9223372036854775808

def maxInteger : Int := 18446744073709551615

/-- The integers that a document holds as integers. -/
def IntegerInRange (value : Int) : Prop := minInteger ≤ value ∧ value ≤ maxInteger

instance (value : Int) : Decidable (IntegerInRange value) :=
  inferInstanceAs (Decidable (_ ∧ _))

def fieldBefore (left right : String × Json) : Bool := decide (left.1 < right.1)

/-- The fields in key order; of several with one key the last stays. -/
def sortFields (fields : List (String × Json)) : List (String × Json) :=
  fields.foldl (fun sorted field => Ordered.replace fieldBefore field sorted) []

def ofOption (toJson : α → Json) : Option α → Json
  | none => null
  | some value => toJson value

mutual

/-- How many arrays and objects lie inside each other; 0 for a document that is neither. -/
def depth : Json → Nat
  | .arr items => itemsDepth items + 1
  | .obj fields => fieldsDepth fields + 1
  | _ => 0

def itemsDepth : List Json → Nat
  | [] => 0
  | item :: rest => max item.depth (itemsDepth rest)

def fieldsDepth : List (String × Json) → Nat
  | [] => 0
  | (_, value) :: rest => max value.depth (fieldsDepth rest)

end

mutual

/-- The documents that a reader returns: integers of the 64-bit ranges, and objects that hold each
key once and in order. -/
def Canonical : Json → Prop
  | .int value => IntegerInRange value
  | .arr items => CanonicalItems items
  | .obj fields =>
    CanonicalFields fields ∧ fields.Pairwise (fun left right => left.1 < right.1)
  | _ => True

def CanonicalItems : List Json → Prop
  | [] => True
  | item :: rest => item.Canonical ∧ CanonicalItems rest

def CanonicalFields : List (String × Json) → Prop
  | [] => True
  | (_, value) :: rest => value.Canonical ∧ CanonicalFields rest

end

mutual

/-- No number of the document is a floating-point one. -/
def FloatFree : Json → Prop
  | .float _ => False
  | .arr items => FloatFreeItems items
  | .obj fields => FloatFreeFields fields
  | _ => True

def FloatFreeItems : List Json → Prop
  | [] => True
  | item :: rest => item.FloatFree ∧ FloatFreeItems rest

def FloatFreeFields : List (String × Json) → Prop
  | [] => True
  | (_, value) :: rest => value.FloatFree ∧ FloatFreeFields rest

end

/-- `levels` empty arrays inside each other. -/
def nestedArrays : Nat → Json
  | 0 => arr []
  | levels + 1 => arr [nestedArrays levels]

end Json

end RecordGraph
