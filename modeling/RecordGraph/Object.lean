import RecordGraph.Stub

/-!
# Records

A record of the graph: a control, a risk, a regulation, or a snapshot, which is a frozen copy of
another record.  A snapshot alone has an `origin`, the record that it was taken of.
-/

namespace RecordGraph

/-- The type of frozen copies. -/
def snapshotType : String := "Snapshot"

structure Object where
  type : String
  id : Int
  title : String
  origin : Option Stub
  createdAt : Int
  updatedAt : Int
deriving DecidableEq, Repr, Inhabited

namespace Object

/-- A record that is not stored yet; storing it sets its times. -/
def draft (type : String) (id : Int) (title : String) : Object :=
  { type, id, title, origin := none, createdAt := 0, updatedAt := 0 }

/-- A snapshot of `origin` that is not stored yet. -/
def snapshotOf (id : Int) (origin : Stub) : Object :=
  { draft snapshotType id ("Snapshot of " ++ origin.text) with origin := some origin }

/-- The record with both times set. -/
def stampedAt (object : Object) (now : Int) : Object :=
  { object with createdAt := now, updatedAt := now }

def stub (object : Object) : Stub := ⟨object.type, object.id⟩

def isSnapshot (object : Object) : Bool := object.type == snapshotType

/-- The order of record tables: that of the references to them. -/
def before (left right : Object) : Bool := left.stub.before right.stub

/-- The records in order, one for each reference. -/
def sorted (objects : List Object) : List Object := Ordered.ofList before objects

end Object

end RecordGraph
