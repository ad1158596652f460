import RecordGraph.Job.Basic
import RecordGraph.Object
import RecordGraph.Relationship

/-!
# The store

The store holds four tables, each in the order of its key, and for every table with numbered rows
the greatest number that was ever given out.  Questions that read one table are answered here.
-/

namespace RecordGraph

structure Store where
  objects : List Object := []
  relationships : List Relationship := []
  automappings : List Automapping := []
  jobs : List Job := []
  lastRelationshipId : Int := 0
  lastAutomappingId : Int := 0
  lastJobId : Int := 0
deriving DecidableEq, Repr, Inhabited

namespace Store

def empty : Store := {}

/-! ## Records -/

def object? (store : Store) (stub : Stub) : Option Object :=
  store.objects.find? (fun object => object.stub == stub)

def hasObject (store : Store) (stub : Stub) : Bool :=
  store.objects.any (fun object => object.stub == stub)

/-- All records, or those of one type, in order. -/
def listObjects (store : Store) : Option String → List Object
  | none => Object.sorted store.objects
  | some type => Object.sorted (store.objects.filter (fun object => object.type == type))

/-! ## Edges -/

def relationship? (store : Store) (id : Int) : Option Relationship :=
  store.relationships.find? (fun edge => edge.id == id)

def hasRelationship (store : Store) (id : Int) : Bool :=
  store.relationships.any (fun edge => edge.id == id)

/-- The edges that lead to a record, oldest first. -/
def relatedSources (store : Store) (stub : Stub) : List Relationship :=
  store.relationships.filter (fun edge => edge.destination == stub)

/-- The edges that start from a record, oldest first. -/
def relatedDestinations (store : Store) (stub : Stub) : List Relationship :=
  store.relationships.filter (fun edge => edge.source == stub)

/-- The edges with a record at either end, oldest first: those that lead to it and those that start
from it, an edge that does both only once. -/
def edgesTouching (store : Store) (stub : Stub) : List Relationship :=
  Ordered.ofList Relationship.before (store.relatedSources stub ++ store.relatedDestinations stub)

/-- The edges derived from an edge, oldest first. -/
def childrenOf (store : Store) (id : Int) : List Relationship :=
  store.relationships.filter (fun edge => edge.parentId == some id)

def automapping? (store : Store) (id : Int) : Option Automapping :=
  store.automappings.find? (fun run => run.id == id)

def hasAutomapping (store : Store) (id : Int) : Bool :=
  store.automappings.any (fun run => run.id == id)

def job? (store : Store) (id : Int) : Option Job :=
  store.jobs.find? (fun job => job.id == id)

end Store

end RecordGraph
