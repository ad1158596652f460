import RecordGraph.Graph.Traversal

/-!
# A cache of neighbours

The cache answers who is joined with each of many records.  Only records that were asked for become
keys, and what later requests find is added to what is there.
-/

namespace RecordGraph

/-- Pairs of a key and one of its neighbours, each once. -/
structure NeighborCache where
  links : List (Stub × Stub) := []
deriving DecidableEq, Repr, Inhabited

namespace NeighborCache

def empty : NeighborCache := {}

def record (cache : NeighborCache) (key neighbor : Stub) : NeighborCache :=
  if cache.links.contains (key, neighbor) then cache
  else { links := cache.links ++ [(key, neighbor)] }

/-- Note an edge for those of its ends that were asked for. -/
def recordEdge (requested : List Stub) (cache : NeighborCache) (edge : Relationship) :
    NeighborCache :=
  let withSource :=
    if requested.contains edge.source then cache.record edge.source edge.destination else cache
  if requested.contains edge.destination then
    withSource.record edge.destination edge.source
  else withSource

/-- The edges that a request reads: those that start from a record asked for, then those that lead
to one.  The types restrict the other end. -/
def edgesRead (store : Store) (stubs : List Stub) (types : Option (List String)) :
    List Relationship :=
  let named := Stub.listed stubs
  let wanted := types.map TypeName.listed
  store.relationships.filter
      (fun edge => named.contains edge.source && Store.typeAllowed wanted edge.destination.type) ++
    store.relationships.filter
      (fun edge => named.contains edge.destination && Store.typeAllowed wanted edge.source.type)

/-- Add the neighbours of `stubs`.  The number is that of the edges read, an edge between two
records asked for counting twice. -/
def populate (cache : NeighborCache) (store : Store) (stubs : List Stub)
    (types : Option (List String)) : Nat × NeighborCache :=
  let edges := edgesRead store stubs types
  (edges.length, edges.foldl (recordEdge stubs) cache)

def contains (cache : NeighborCache) (stub : Stub) : Bool :=
  cache.links.any (fun link => link.1 == stub)

/-- The neighbours of a record, in order; none for a record that was not asked for. -/
def neighbors (cache : NeighborCache) (stub : Stub) : List Stub :=
  Stub.sorted ((cache.links.filter (fun link => link.1 == stub)).map Prod.snd)

def get? (cache : NeighborCache) (stub : Stub) : Option (List Stub) :=
  if cache.contains stub then some (cache.neighbors stub) else none

/-- The keys, in order. -/
def keys (cache : NeighborCache) : List Stub := Stub.sorted (cache.links.map Prod.fst)

def size (cache : NeighborCache) : Nat := cache.keys.length

def isEmpty (cache : NeighborCache) : Bool := cache.links.isEmpty

end NeighborCache

end RecordGraph
