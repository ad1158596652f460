import RecordGraph.Registry
import RecordGraph.Stub

/-!
# Edges

An edge leads from one record to another.  A derived edge also names the edge that caused it and
the record of the mapping run that made it.
-/

namespace RecordGraph

structure Relationship where
  id : Int
  source : Stub
  destination : Stub
  /-- The edge from which this one was derived. -/
  parentId : Option Int
  /-- The mapping run that made this edge. -/
  automappingId : Option Int
  external : Bool
  modifiedBy : Option Int
  createdAt : Int
  updatedAt : Int
deriving DecidableEq, Repr, Inhabited

/-- One run of a mapping rule: the edge that set it off, and that edge's ends. -/
structure Automapping where
  id : Int
  relationshipId : Option Int
  source : Stub
  destination : Stub
  modifiedBy : Option Int
  createdAt : Int
deriving DecidableEq, Repr, Inhabited

/-- The ends of an edge as they are shown to people, `Control:1 <-> Objective:3`. -/
def pairText (source destination : Stub) : String :=
  source.type ++ ":" ++ Decimal.text source.id ++ " <-> " ++
    destination.type ++ ":" ++ Decimal.text destination.id

namespace Relationship

def displayName (edge : Relationship) : String := pairText edge.source edge.destination

def endStub (edge : Relationship) : EdgeEnd → Stub
  | .source => edge.source
  | .destination => edge.destination

/-- The accessor of one end, made of the type recorded there. -/
def accessor (edge : Relationship) (edgeEnd : EdgeEnd) : String :=
  accessorName (edge.endStub edgeEnd).type edgeEnd

/-- Whether `stub` is an end of the edge. -/
def touches (edge : Relationship) (stub : Stub) : Bool :=
  edge.source == stub || edge.destination == stub

def before (left right : Relationship) : Bool := decide (left.id < right.id)

end Relationship

def Automapping.before (left right : Automapping) : Bool := decide (left.id < right.id)

end RecordGraph
