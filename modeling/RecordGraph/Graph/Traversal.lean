import RecordGraph.Store.Lookup

/-!
# From records to their neighbours

Reads along edges.  Stored edges may name types that the registry does not hold as relatable, or
records that are gone; such ends are left out with a warning.
-/

namespace RecordGraph

namespace Store

/-- Whether an end can be reached through its accessor, and the warning if not. -/
def accessorWarnings (registry : TypeRegistry) (accessor : String) : List Warning :=
  match registry.resolve? accessor with
  | some _ => []
  | none => [.unknownAccessor accessor]

/-- The record at one end of an edge. -/
def resolveEnd (store : Store) (registry : TypeRegistry) (edge : Relationship)
    (edgeEnd : EdgeEnd) : Option Object × List Warning :=
  match registry.resolve? (edge.accessor edgeEnd) with
  | none => (none, [.unknownAccessor (edge.accessor edgeEnd)])
  | some _ =>
    match store.object? (edge.endStub edgeEnd) with
    | some object => (some object, [])
    | none => (none, [.endAbsent edge.id (edge.endStub edgeEnd)])

/-- The record opposite to the end of a type.  Where both ends have the type, it is the record at
the destination. -/
def opposite (store : Store) (registry : TypeRegistry) (edge : Relationship) (type : String) :
    Option Object × List Warning :=
  if type = edge.source.type then store.resolveEnd registry edge .destination
  else if type = edge.destination.type then store.resolveEnd registry edge .source
  else (none, [])

/-- The ends of some edges that can be reached, and a warning for each that cannot. -/
def reachableEnds (registry : TypeRegistry) (edgeEnd : EdgeEnd) (edges : List Relationship) :
    List Stub × List Warning :=
  let reachable := fun (edge : Relationship) => (registry.resolve? (edge.accessor edgeEnd)).isSome
  ((edges.filter reachable).map (fun edge => edge.endStub edgeEnd),
    edges.flatMap (fun edge => accessorWarnings registry (edge.accessor edgeEnd)))

/-- An absent or empty list of types allows every type. -/
def typeAllowed (types : Option (List String)) (type : String) : Bool :=
  match types with
  | none => true
  | some types => types.isEmpty || types.contains type

/-- The records on the other ends of the edges of a record, in order, which are read all at once.
One warning tells how many of them are not stored. -/
def relatedObjects (store : Store) (registry : TypeRegistry) (stub : Stub)
    (types : Option (List String)) : List Object × List Warning :=
  let (sources, sourceWarnings) := reachableEnds registry .source (store.relatedSources stub)
  let (destinations, destinationWarnings) :=
    reachableEnds registry .destination (store.relatedDestinations stub)
  let wanted := (Stub.sorted (sources ++ destinations)).filter
    (fun other => typeAllowed types other.type)
  let found := (store.getObjects? wanted).getD []
  let absent :=
    if found.length < wanted.length then [Warning.rowsAbsent stub (wanted.length - found.length)]
    else []
  (found, sourceWarnings ++ destinationWarnings ++ absent)

end Store

/-- Edges filed under references, those under one reference in the order in which they came. -/
structure EdgeIndex where
  entries : List (Stub × List Relationship) := []
deriving DecidableEq, Repr, Inhabited

namespace EdgeIndex

/-- Put an edge last under a reference. -/
def addTo (stub : Stub) (edge : Relationship) :
    List (Stub × List Relationship) → List (Stub × List Relationship)
  | [] => [(stub, [edge])]
  | (key, edges) :: rest =>
    if stub == key then (key, edges ++ [edge]) :: rest else (key, edges) :: addTo stub edge rest

def add (index : EdgeIndex) (stub : Stub) (edge : Relationship) : EdgeIndex :=
  ⟨addTo stub edge index.entries⟩

/-- File each edge under the record at one of its ends. -/
def ofEdges (edgeEnd : EdgeEnd) (edges : List Relationship) : EdgeIndex :=
  edges.foldl (fun index edge => index.add (edge.endStub edgeEnd) edge) {}

/-- The edges under a reference; none where nothing was filed. -/
def under (index : EdgeIndex) (stub : Stub) : List Relationship :=
  (index.entries.lookup stub).getD []

end EdgeIndex

/-- The edges of which one end is among some records, oldest first. -/
def Store.edgesWithin (store : Store) (edgeEnd : EdgeEnd) (stubs : List Stub) :
    List Relationship :=
  let named := Stub.listed stubs
  store.relationships.filter (fun edge => named.contains (edge.endStub edgeEnd))

/-- The edges of a batch of records, read at once and filed under the records. -/
structure EagerRelationships where
  loaded : Bool := false
  /-- The edges that lead to a record of the batch. -/
  incoming : EdgeIndex := {}
  /-- The edges that start from a record of the batch. -/
  outgoing : EdgeIndex := {}
deriving DecidableEq, Repr

namespace EagerRelationships

def notLoaded : EagerRelationships := {}

/-- Read the edges of `stubs`; with `loadRelated` off nothing is read. -/
def load (store : Store) (stubs : List Stub) (loadRelated : Bool) : EagerRelationships :=
  if loadRelated then
    { loaded := true
      incoming := .ofEdges .destination (store.edgesWithin .destination stubs)
      outgoing := .ofEdges .source (store.edgesWithin .source stubs) }
  else notLoaded

def relatedSources (eager : EagerRelationships) (stub : Stub) : List Relationship :=
  eager.incoming.under stub

def relatedDestinations (eager : EagerRelationships) (stub : Stub) : List Relationship :=
  eager.outgoing.under stub

/-- The records on the other ends, in order. -/
def neighbors (eager : EagerRelationships) (stub : Stub) : List Stub :=
  Stub.sorted ((eager.relatedSources stub).map Relationship.source ++
    (eager.relatedDestinations stub).map Relationship.destination)

end EagerRelationships

end RecordGraph
