import RecordGraph.Store.Basic

/-!
# Changes of single rows

Every change of a table keeps the rules of the schema or is refused: keys name one row, the ordered
ends of an edge name one edge, and a reference to an edge or a mapping run names a stored one.
Numbers of deleted rows are not given out again.
-/

namespace RecordGraph

/-- Why a row was not stored. -/
inductive RowFailure where
  /-- The greatest number has been given out. -/
  | full
  | blankType
  | duplicate
  | foreignKey
deriving DecidableEq, Repr

/-- The number after the greatest one given out so far. -/
def freshId? (last : Int) : Option Int :=
  if last < Decimal.maxId then some (last + 1) else none

/-- An edge to store.  Without an `id` it gets the next number. -/
structure NewEdge where
  id : Option Int := none
  source : Stub
  destination : Stub
  parentId : Option Int := none
  automappingId : Option Int := none
  external : Bool := false
  modifiedBy : Option Int := none
  createdAt : Int
  updatedAt : Int
deriving Repr

/-- The edge that is stored under a number. -/
def NewEdge.edge (row : NewEdge) (id : Int) : Relationship :=
  { id, source := row.source, destination := row.destination, parentId := row.parentId
    automappingId := row.automappingId, external := row.external
    modifiedBy := row.modifiedBy, createdAt := row.createdAt, updatedAt := row.updatedAt }

/-- A mapping run to store. -/
structure NewAutomapping where
  relationshipId : Option Int
  source : Stub
  destination : Stub
  modifiedBy : Option Int
  createdAt : Int
deriving Repr

/-- The mapping run that is stored under a number. -/
def NewAutomapping.run (row : NewAutomapping) (id : Int) : Automapping :=
  { id, relationshipId := row.relationshipId, source := row.source
    destination := row.destination, modifiedBy := row.modifiedBy, createdAt := row.createdAt }

namespace Store

/-- A type counts as blank when nothing is left of it without the spaces at its ends, or when what
is left starts with NUL, at which the count of characters stops. -/
def isBlankType (type : String) : Bool :=
  match type.toList.dropWhile (· == ' ') with
  | [] => true
  | c :: _ => c.toNat == 0

def insertObject (store : Store) (object : Object) : Except RowFailure Store :=
  if isBlankType object.type then .error .blankType
  else if store.hasObject object.stub then .error .duplicate
  else .ok { store with objects := Ordered.insert Object.before object store.objects }

def removeObject (store : Store) (stub : Stub) : Store :=
  { store with objects := store.objects.filter (fun object => object.stub != stub) }

/-- Whether an edge from `source` to `destination` is stored. -/
def hasPair (store : Store) (source destination : Stub) : Bool :=
  store.relationships.any (fun edge => edge.source == source && edge.destination == destination)

/-- Store an edge.  It may name itself as its parent. -/
def insertRelationship (store : Store) (row : NewEdge) :
    Except RowFailure (Relationship × Store) :=
  match row.id.or (freshId? store.lastRelationshipId) with
  | none => .error .full
  | some id =>
    let parentStored :=
      row.parentId.all (fun parent => parent == id || store.hasRelationship parent)
    let runStored := row.automappingId.all store.hasAutomapping
    if store.hasRelationship id || store.hasPair row.source row.destination then .error .duplicate
    else if parentStored && runStored then
      .ok (row.edge id, { store with
        relationships := Ordered.insert Relationship.before (row.edge id) store.relationships
        lastRelationshipId := max store.lastRelationshipId id })
    else .error .foreignKey

/-- Forget an edge where it is the parent. -/
def clearParent (id : Int) (edge : Relationship) : Relationship :=
  if edge.parentId == some id then { edge with parentId := none } else edge

/-- Forget an edge where it set off a mapping run. -/
def clearTrigger (id : Int) (run : Automapping) : Automapping :=
  if run.relationshipId == some id then { run with relationshipId := none } else run

/-- Remove an edge.  Edges and mapping runs that referred to it lose the reference. -/
def removeRelationship (store : Store) (id : Int) : Store :=
  { store with
    relationships := (store.relationships.filter (fun edge => edge.id != id)).map (clearParent id)
    automappings := store.automappings.map (clearTrigger id) }

/-- Remove edges one after the other. -/
def removeRelationships (store : Store) (edges : List Relationship) : Store :=
  edges.foldl (fun store edge => store.removeRelationship edge.id) store

def insertAutomapping (store : Store) (row : NewAutomapping) :
    Except RowFailure (Automapping × Store) :=
  match freshId? store.lastAutomappingId with
  | none => .error .full
  | some id =>
    if row.relationshipId.all store.hasRelationship then
      .ok (row.run id, { store with
        automappings := Ordered.insert Automapping.before (row.run id) store.automappings
        lastAutomappingId := max store.lastAutomappingId id })
    else .error .foreignKey

/-- The edges that a mapping run made. -/
def edgesOfRun (store : Store) (id : Int) : List Relationship :=
  store.relationships.filter (fun edge => edge.automappingId == some id)

/-- Remove a mapping run and with it the edges that it made. -/
def removeAutomapping (store : Store) (id : Int) : Store :=
  let without := { store with automappings := store.automappings.filter (fun run => run.id != id) }
  without.removeRelationships (without.edgesOfRun id)

/-- Store a job under the next number; the number that `job` holds does not count. -/
def insertJob (store : Store) (job : Job) : Except RowFailure (Job × Store) :=
  match freshId? store.lastJobId with
  | none => .error .full
  | some id =>
    let stored := { job with id }
    .ok (stored, { store with
      jobs := Ordered.insert Job.before stored store.jobs
      lastJobId := max store.lastJobId id })

/-- Put `job` in the place of the job of its number. -/
def updateJob (store : Store) (job : Job) : Store :=
  { store with jobs := store.jobs.map (fun stored => if stored.id == job.id then job else stored) }

end Store

end RecordGraph
