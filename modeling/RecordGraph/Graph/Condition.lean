import RecordGraph.Store.Basic

/-!
# Conditions on the ends of edges

A condition compares columns of an edge with values that are given apart from it.  These values are
its parameters.  They are numbered from one, in the order in which the comparisons ask for them, and
a comparison knows its parameter by the number alone.
-/

namespace RecordGraph

/-- A value that a column is compared with. -/
inductive Parameter where
  | text (text : String)
  | integer (value : Int)
deriving DecidableEq, Repr

/-- The columns that name an end of an edge. -/
inductive EndColumn where
  | type (edgeEnd : EdgeEnd)
  | id (edgeEnd : EdgeEnd)
deriving DecidableEq, Repr

/-- What an edge has in a column. -/
def Relationship.value (edge : Relationship) : EndColumn → Parameter
  | .type edgeEnd => .text (edge.endStub edgeEnd).type
  | .id edgeEnd => .integer (edge.endStub edgeEnd).id

/-- A column is to be equal to the parameter of a number. -/
structure Comparison where
  column : EndColumn
  number : Nat
deriving DecidableEq, Repr

namespace Comparison

/-- The parameter of a number, if one is given. -/
def parameter? (parameters : List Parameter) : Nat → Option Parameter
  | 0 => none
  | index + 1 => parameters[index]?

/-- Without its parameter a comparison holds of no edge. -/
def holds (parameters : List Parameter) (edge : Relationship) (comparison : Comparison) : Bool :=
  parameter? parameters comparison.number == some (edge.value comparison.column)

end Comparison

/-- Comparisons that must all hold, and all parameters that have been numbered so far. -/
structure Conjunction where
  comparisons : List Comparison := []
  parameters : List Parameter
deriving DecidableEq, Repr

namespace Conjunction

/-- Compare a column with one more parameter. -/
def compare (conjunction : Conjunction) (column : EndColumn) (value : Parameter) : Conjunction :=
  { comparisons := conjunction.comparisons ++ [⟨column, conjunction.parameters.length + 1⟩]
    parameters := conjunction.parameters ++ [value] }

/-- Compare a column with one more parameter, if there is a value for it. -/
def compareGiven (conjunction : Conjunction) (column : EndColumn) : Option Parameter → Conjunction
  | none => conjunction
  | some value => conjunction.compare column value

end Conjunction

/-- An edge is wanted if all comparisons of one of two directions hold.  Both directions number
their parameters in one list. -/
structure Condition where
  forward : List Comparison
  reverse : List Comparison
  parameters : List Parameter
deriving DecidableEq, Repr

def Condition.holds (condition : Condition) (edge : Relationship) : Bool :=
  condition.forward.all (Comparison.holds condition.parameters edge) ||
    condition.reverse.all (Comparison.holds condition.parameters edge)

end RecordGraph
