import Mathlib.Data.List.Sort
import RecordGraph.Proofs.Traversals

/-!
# One cache, many requests

What a request adds to the cache of neighbours depends on the store and on the request alone, not
on what is noted already.  So after any requests the cache holds the union of what each of them
notes in an empty cache, and neither their order nor a repetition matters.
-/

namespace RecordGraph

/-- References with the same members are put in the same order. -/
theorem Stub.sorted_congr {left right : List Stub} (hsame : ∀ stub, stub ∈ left ↔ stub ∈ right) :
    Stub.sorted left = Stub.sorted right := by
  have hordered : ∀ stubs, (Stub.sorted stubs).Pairwise fun first second =>
      first.before second = true := fun stubs => Ordered.pairwise_ofList stubs Stub.before_trans
  have hperm : (Stub.sorted left).Perm (Stub.sorted right) := by
    rw [List.perm_ext_iff_of_nodup (Stub.nodup_sorted left) (Stub.nodup_sorted right)]
    intro stub
    rw [Stub.mem_sorted, Stub.mem_sorted, hsame]
  refine hperm.eq_of_pairwise ?_ (hordered left) (hordered right)
  intro first second _ _ hbefore hafter
  exact absurd (Stub.before_trans hbefore hafter) (Stub.not_before_self first)

/-- One request to a cache: the records asked for, and the types of the neighbours wanted. -/
structure NeighborRequest where
  stubs : List Stub
  types : Option (List String)

/-- Neighbours of every type are wanted: there is no list of types, or it is empty. -/
def NeighborRequest.Unfiltered (request : NeighborRequest) : Prop :=
  request.types = none ∨ request.types = some []

namespace NeighborCache

/-- The same keys with the same neighbours. -/
def SameMap (left right : NeighborCache) : Prop := ∀ key, left.get? key = right.get? key

/-- The cache after some requests, made one after the other. -/
def populateAll (store : Store) (requests : List NeighborRequest) (cache : NeighborCache) :
    NeighborCache :=
  requests.foldl (fun cache request => (cache.populate store request.stubs request.types).2) cache

/-- What a request notes in an empty cache. -/
def noted (store : Store) (request : NeighborRequest) : NeighborCache :=
  (empty.populate store request.stubs request.types).2

variable {store : Store} {cache left right : NeighborCache} {key neighbor : Stub}

theorem sameMap_of_mem
    (hsame : ∀ key neighbor, neighbor ∈ left.neighbors key ↔ neighbor ∈ right.neighbors key) :
    left.SameMap right := by
  intro key
  have hcontains : left.contains key = right.contains key := by
    rw [Bool.eq_iff_iff, contains_iff, contains_iff]
    exact exists_congr fun neighbor => hsame key neighbor
  have hneighbors : left.neighbors key = right.neighbors key := by
    apply Stub.sorted_congr
    intro neighbor
    have hmem := hsame key neighbor
    rwa [neighbors, neighbors, Stub.mem_sorted, Stub.mem_sorted] at hmem
  rw [get?, get?, hcontains, hneighbors]

/-! ## What a request adds -/

theorem mem_noted_iff {request : NeighborRequest} :
    neighbor ∈ (noted store request).neighbors key ↔
      key ∈ request.stubs ∧
        ∃ edge ∈ edgesRead store request.stubs request.types, edge.Joins key neighbor :=
  mem_neighbors_populate_empty_iff

theorem mem_populateAll_iff (requests : List NeighborRequest) (cache : NeighborCache) :
    neighbor ∈ (populateAll store requests cache).neighbors key ↔
      neighbor ∈ cache.neighbors key ∨
        ∃ request ∈ requests, neighbor ∈ (noted store request).neighbors key := by
  induction requests generalizing cache with
  | nil => simp [populateAll]
  | cons request rest ih =>
    have hfirst : neighbor ∈ (cache.populate store request.stubs request.types).2.neighbors key ↔
        neighbor ∈ cache.neighbors key ∨ neighbor ∈ (noted store request).neighbors key := by
      rw [mem_neighbors_populate_iff, mem_noted_iff]
    rw [populateAll, List.foldl_cons, ← populateAll, ih, hfirst]
    simp only [List.mem_cons, exists_eq_or_imp, or_assoc]

/-- A neighbour that is noted is joined with its key by a stored edge. -/
theorem joined_of_mem_noted {request : NeighborRequest}
    (hnoted : neighbor ∈ (noted store request).neighbors key) : store.Joined key neighbor := by
  obtain ⟨_, edge, hread, hjoins⟩ := mem_noted_iff.1 hnoted
  exact ⟨edge, mem_of_mem_edgesRead hread, hjoins⟩

theorem mem_noted_of_joined {request : NeighborRequest} (hkey : key ∈ request.stubs)
    (hjoined : store.Joined key neighbor)
    (hwanted : ∀ names, request.types = some names → names = [] ∨ neighbor.type ∈ names) :
    neighbor ∈ (noted store request).neighbors key := by
  obtain ⟨edge, hstored, hjoins⟩ := hjoined
  have hallowed := Store.typeAllowed_iff.2 hwanted
  exact mem_noted_iff.2 ⟨hkey, edge, mem_edgesRead_of_allowed hstored hkey hjoins hallowed, hjoins⟩

theorem mem_noted_of_unfiltered_iff {request : NeighborRequest} (hall : request.Unfiltered) :
    neighbor ∈ (noted store request).neighbors key ↔
      key ∈ request.stubs ∧ store.Joined key neighbor := by
  apply mem_neighbors_populate_unfiltered_iff
  intro type
  rcases hall with hnone | hnil
  · rw [hnone]
    rfl
  · rw [hnil]
    rfl

/-! ## What requests add up to -/

theorem mem_populateAll_empty_iff {requests : List NeighborRequest} :
    neighbor ∈ (populateAll store requests empty).neighbors key ↔
      ∃ request ∈ requests, neighbor ∈ (noted store request).neighbors key := by
  rw [mem_populateAll_iff, or_iff_right not_mem_neighbors_empty]

theorem contains_populateAll_iff {requests : List NeighborRequest} :
    (populateAll store requests empty).contains key = true ↔
      ∃ request ∈ requests, (noted store request).contains key = true := by
  simp only [contains_iff, mem_populateAll_empty_iff]
  constructor
  · rintro ⟨neighbor, request, hrequest, hnoted⟩
    exact ⟨request, hrequest, neighbor, hnoted⟩
  · rintro ⟨request, hrequest, neighbor, hnoted⟩
    exact ⟨neighbor, request, hrequest, hnoted⟩

/-- Requests among which the same are found make the same of a cache. -/
theorem populateAll_congr {requests other : List NeighborRequest}
    (hsame : ∀ request, request ∈ other ↔ request ∈ requests) :
    (populateAll store other cache).SameMap (populateAll store requests cache) := by
  apply sameMap_of_mem
  intro key neighbor
  simp only [mem_populateAll_iff, hsame]

theorem populateAll_merged {first second whole : NeighborRequest} (hfirst : first.Unfiltered)
    (hsecond : second.Unfiltered) (hwhole : whole.Unfiltered)
    (hstubs : whole.stubs = first.stubs ++ second.stubs) :
    (populateAll store [first, second] cache).SameMap (populateAll store [whole] cache) := by
  apply sameMap_of_mem
  intro key neighbor
  have hrequests : (∃ request ∈ [first, second], neighbor ∈ (noted store request).neighbors key) ↔
      neighbor ∈ (noted store whole).neighbors key := by
    rw [mem_noted_of_unfiltered_iff hwhole, hstubs, List.mem_append, or_and_right,
      ← mem_noted_of_unfiltered_iff hfirst, ← mem_noted_of_unfiltered_iff hsecond]
    simp
  rw [mem_populateAll_iff, mem_populateAll_iff, hrequests]
  simp only [List.mem_singleton, exists_eq_left]

/-- What the requests to one cache add up to while the store stays as it is. -/
structure UnitesRequests (store : Store) : Prop where
  /-- A record is a key if one of the requests makes it one in an empty cache. -/
  keys : ∀ requests key, (populateAll store requests empty).contains key = true ↔
    ∃ request ∈ requests, (noted store request).contains key = true
  /-- A key has the neighbours that the requests note for it in an empty cache. -/
  neighbors : ∀ requests key neighbor,
    neighbor ∈ (populateAll store requests empty).neighbors key ↔
      ∃ request ∈ requests, neighbor ∈ (noted store request).neighbors key
  /-- The order of the requests does not matter. -/
  reordered : ∀ requests other : List NeighborRequest, requests.Perm other →
    (populateAll store other empty).SameMap (populateAll store requests empty)
  /-- A request that is repeated changes nothing. -/
  repeated : ∀ requests, ∀ request ∈ requests,
    (populateAll store (requests ++ [request]) empty).SameMap (populateAll store requests empty)
  /-- A key was asked for. -/
  requested : ∀ requests key, (populateAll store requests empty).contains key = true →
    ∃ request ∈ requests, key ∈ request.stubs
  /-- A neighbour is joined with its key. -/
  joined : ∀ requests key neighbor,
    neighbor ∈ (populateAll store requests empty).neighbors key → store.Joined key neighbor
  /-- A record asked for has all its neighbours of the types wanted. -/
  complete : ∀ requests, ∀ request ∈ requests, ∀ key ∈ request.stubs, ∀ neighbor,
    store.Joined key neighbor →
      (∀ names, request.types = some names → names = [] ∨ neighbor.type ∈ names) →
        neighbor ∈ (populateAll store requests empty).neighbors key
  /-- Two requests for neighbours of every type are as good as one for the records of both, whatever
  is noted already. -/
  merged : ∀ first second whole : NeighborRequest, first.Unfiltered → second.Unfiltered →
    whole.Unfiltered → whole.stubs = first.stubs ++ second.stubs →
      ∀ cache, (populateAll store [first, second] cache).SameMap (populateAll store [whole] cache)

/-- The cache holds the union of what its requests note, each by itself. -/
theorem populate_unites_requests (store : Store) : UnitesRequests store where
  keys _ _ := contains_populateAll_iff
  neighbors _ _ _ := mem_populateAll_empty_iff
  reordered _ _ hperm := populateAll_congr fun _ => hperm.symm.mem_iff
  repeated requests request hrequest := by
    apply populateAll_congr
    intro other
    rw [List.mem_append, List.mem_singleton, or_iff_left_of_imp]
    rintro rfl
    exact hrequest
  requested requests key hkey := by
    obtain ⟨neighbor, hneighbor⟩ := contains_iff.1 hkey
    obtain ⟨request, hrequest, hnoted⟩ := mem_populateAll_empty_iff.1 hneighbor
    exact ⟨request, hrequest, (mem_noted_iff.1 hnoted).1⟩
  joined requests key neighbor hneighbor := by
    obtain ⟨request, _, hnoted⟩ := mem_populateAll_empty_iff.1 hneighbor
    exact joined_of_mem_noted hnoted
  complete requests request hrequest key hkey neighbor hjoined hwanted :=
    mem_populateAll_empty_iff.2 ⟨request, hrequest, mem_noted_of_joined hkey hjoined hwanted⟩
  merged _ _ _ hfirst hsecond hwhole hstubs _ :=
    populateAll_merged hfirst hsecond hwhole hstubs

end NeighborCache

end RecordGraph
