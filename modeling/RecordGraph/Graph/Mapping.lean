import RecordGraph.Actor
import RecordGraph.Store.Connection

/-!
# Mapping records

A new edge joins two stored records of relatable types.  The policy must allow the pair of types to
the actor, and an edge never joins a snapshot with the record that it was taken of.
-/

namespace RecordGraph.Graph

/-- What is asked of a new edge.  The ends are the values that the caller holds; a caller that
could not load one gives none. -/
structure Request where
  source : Option Object := none
  destination : Option Object := none
  external : Bool := false
  parentId : Option Int := none
  automappingId : Option Int := none
deriving Repr, Inhabited

/-- The row of the edge between two records that a request asks for. -/
def Request.row (request : Request) (actor : Actor) (now : Int) (source destination : Stub) :
    NewEdge :=
  { source, destination, parentId := request.parentId, automappingId := request.automappingId
    external := request.external, modifiedBy := some actor.userId, createdAt := now
    updatedAt := now }

/-- The record at one end: given, of a relatable type, and stored, in this order. -/
def checkEnd (registry : TypeRegistry) (store : Store) (edgeEnd : EdgeEnd) :
    Option Object → Except GraphError Object
  | none => .error (.validation (.endMissing edgeEnd))
  | some object =>
    if registry.isRelatable object.type then
      if store.hasObject object.stub then .ok object
      else .error (.validation (.endAbsent edgeEnd object.stub))
    else .error (.validation (.notRelatable object.type))

/-- Whether the policy lets the actor map two types. -/
def checkPair (registry : TypeRegistry) (actor : Actor) (source destination : String) :
    Except GraphError Unit :=
  match Policy.violation? registry.scopingNames actor.external source destination with
  | some violation => .error (.validation (.restricted violation))
  | none => .ok ()

/-- Whether `other` may be joined with `object`.  The origin that counts is the stored one. -/
def checkSnapshot (store : Store) (source destination : Object) (object other : Object) :
    Except GraphError Unit :=
  if object.isSnapshot then
    match (store.object? object.stub).bind Object.origin with
    | none => .error (.validation (.snapshotAbsent object.stub))
    | some origin =>
      if origin = other.stub then
        .error (.validation (.snapshotWithOrigin source.type destination.type))
      else .ok ()
  else .ok ()

def checkSnapshots (store : Store) (source destination : Object) : Except GraphError Unit := do
  checkSnapshot store source destination source destination
  checkSnapshot store source destination destination source

/-- All checks that come before a row is written, in their order. -/
def checkRequest (registry : TypeRegistry) (actor : Actor) (request : Request) (store : Store) :
    Except GraphError (Object × Object) := do
  let source ← checkEnd registry store .source request.source
  let destination ← checkEnd registry store .destination request.destination
  checkPair registry actor source.type destination.type
  checkSnapshots store source destination
  return (source, destination)

/-- The failure to store an edge, in the words of a caller. -/
def explainEdge (source destination : Stub) : RowFailure → GraphError
  | .duplicate => .conflict (pairText source destination)
  | .blankType => .storage .blankType
  | .foreignKey => .storage .foreignKey
  | .full => .storage .full

/-- Make an edge between two records. -/
def create (registry : TypeRegistry) (actor : Actor) (now : Int) (request : Request) :
    Call Relationship :=
  Call.inSavepoint "relationship_create" do
    let (source, destination) ← Call.check (checkRequest registry actor request)
    let row := request.row actor now source.stub destination.stub
    Call.insertRow (fun store => store.insertRelationship row)
      (explainEdge source.stub destination.stub)

/-- Whether the actor may remove an edge: the policy must allow its types, and an external actor
removes external edges only. -/
def checkDelete (registry : TypeRegistry) (actor : Actor) (edge : Relationship) :
    Except GraphError Unit := do
  checkPair registry actor edge.source.type edge.destination.type
  if actor.external && !edge.external then .error (.validation .notExternal) else .ok ()

/-- The first of several edges that the actor may not remove decides. -/
def checkDeletes (registry : TypeRegistry) (actor : Actor) :
    List Relationship → Except GraphError Unit
  | [] => .ok ()
  | edge :: rest => do
    checkDelete registry actor edge
    checkDeletes registry actor rest

/-- Remove an edge.  The result is the edge as it was. -/
def delete (registry : TypeRegistry) (actor : Actor) (id : Int) : Call Relationship :=
  Call.inSavepoint "relationship_delete" do
    let edge ← Call.check fun store =>
      match store.relationship? id with
      | some edge => .ok edge
      | none => .error (.notFound "relationship" (Decimal.text id))
    Call.check fun _ => checkDelete registry actor edge
    Call.change (fun store => store.removeRelationship edge.id)
    return edge

/-- Remove a record and every edge that touches it.  The result is the edges as they were; one edge
that may not be removed stops it all. -/
def deleteObject (registry : TypeRegistry) (actor : Actor) (stub : Stub) :
    Call (List Relationship) :=
  Call.inSavepoint "object_delete" do
    let edges ← Call.check fun store =>
      if store.hasObject stub then .ok (store.edgesTouching stub)
      else .error (.notFound "object" stub.text)
    Call.check fun _ => checkDeletes registry actor edges
    Call.change (fun store => store.removeRelationships edges)
    Call.change (fun store => store.removeObject stub)
    return edges

end RecordGraph.Graph
