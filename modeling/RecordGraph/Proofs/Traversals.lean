import Mathlib.Data.List.Perm.Subperm
import RecordGraph.Proofs.AccessorIndex
import RecordGraph.Proofs.EagerLoading
import RecordGraph.Proofs.EdgePermissions
import RecordGraph.Proofs.NeighborCache

/-!
# Three ways to the neighbours of a record

The neighbours of several records can be noted in a cache, read off edges that were loaded at once,
or looked up record by record.  The cache and the loaded edges depend on the edges alone.  The look
up goes through the accessors of the registry and finds stored records only, so it agrees with the
others because of what a registry lets into the store: both ends of an edge are stored, and their
types are relatable.
-/

namespace RecordGraph

namespace Store

/-- Some edge leads from one of two records to the other. -/
def Joined (store : Store) (stub other : Stub) : Prop :=
  ∃ edge ∈ store.relationships, edge.Joins stub other

/-- The other ends of the edges of a record, in order. -/
def neighbors (store : Store) (stub : Stub) : List Stub :=
  Stub.sorted ((store.relatedSources stub).map Relationship.source ++
    (store.relatedDestinations stub).map Relationship.destination)

theorem mem_neighbors_iff {store : Store} {stub other : Stub} :
    other ∈ store.neighbors stub ↔ store.Joined stub other := by
  simp only [neighbors, Stub.mem_sorted, List.mem_append, List.mem_map, relatedSources,
    relatedDestinations, List.mem_filter, beq_iff_eq, Joined, Relationship.Joins]
  constructor
  · intro hend
    rcases hend with ⟨edge, ⟨hstored, hdestination⟩, hsource⟩ | ⟨edge, ⟨hstored, hsource⟩, hother⟩
    · exact ⟨edge, hstored, .inr ⟨hsource, hdestination⟩⟩
    · exact ⟨edge, hstored, .inl ⟨hsource, hother⟩⟩
  · intro hjoined
    obtain ⟨edge, hstored, ⟨hsource, hother⟩ | ⟨hsource, hdestination⟩⟩ := hjoined
    · exact .inr ⟨edge, ⟨hstored, hsource⟩, hother⟩
    · exact .inl ⟨edge, ⟨hstored, hdestination⟩, hsource⟩

end Store

/-- Where no types are asked for, every type is allowed. -/
theorem Store.typeAllowed_iff {types : Option (List String)} {type : String} :
    Store.typeAllowed types type = true ↔
      ∀ names, types = some names → names = [] ∨ type ∈ names := by
  cases types with
  | none => simp [Store.typeAllowed]
  | some names => simp [Store.typeAllowed]

variable {store : Store} {stubs : List Stub}

/-! ## The cache -/

namespace NeighborCache

/-- Where every type is wanted the cache gives each record asked for its neighbours. -/
theorem mem_neighbors_populate_unfiltered_iff {types : Option (List String)}
    (hall : ∀ type, Store.typeAllowed types type = true) {key neighbor : Stub} :
    neighbor ∈ (empty.populate store stubs types).2.neighbors key ↔
      key ∈ stubs ∧ store.Joined key neighbor := by
  rw [mem_neighbors_populate_empty_iff]
  constructor
  · intro hnoted
    obtain ⟨hkey, edge, hread, hjoins⟩ := hnoted
    exact ⟨hkey, edge, mem_of_mem_edgesRead hread, hjoins⟩
  · intro hjoined
    obtain ⟨hkey, edge, hstored, hjoins⟩ := hjoined
    exact ⟨hkey, edge, mem_edgesRead_of_allowed hstored hkey hjoins (hall neighbor.type), hjoins⟩

theorem mem_neighbors_populate_none_iff {key neighbor : Stub} :
    neighbor ∈ (empty.populate store stubs none).2.neighbors key ↔
      key ∈ stubs ∧ store.Joined key neighbor :=
  mem_neighbors_populate_unfiltered_iff fun _ => rfl

theorem contains_iff {cache : NeighborCache} {key : Stub} :
    cache.contains key = true ↔ ∃ neighbor, neighbor ∈ cache.neighbors key := by
  simp only [mem_neighbors_iff, contains, List.any_eq_true, beq_iff_eq]
  constructor
  · intro hlink
    obtain ⟨⟨_, neighbor⟩, hlink, rfl⟩ := hlink
    exact ⟨neighbor, hlink⟩
  · intro hlink
    obtain ⟨neighbor, hlink⟩ := hlink
    exact ⟨(key, neighbor), hlink, rfl⟩

/-- An edge counts once for each of its ends that was asked for. -/
theorem populate_none_count (cache : NeighborCache) :
    (cache.populate store stubs none).1 =
      store.relationships.countP (fun edge => stubs.contains edge.source) +
        store.relationships.countP (fun edge => stubs.contains edge.destination) := by
  simp only [populate, edgesRead_eq, Store.typeAllowed, Bool.and_true, List.length_append,
    List.countP_eq_length_filter]

end NeighborCache

/-! ## Edges that are loaded at once -/

namespace EagerRelationships

variable {stub : Stub}

theorem neighbors_load (hstub : stub ∈ stubs) :
    (load store stubs true).neighbors stub = store.neighbors stub := by
  rw [neighbors, relatedSources_load, relatedDestinations_load, if_pos hstub, if_pos hstub,
    Store.neighbors]

/-- For a record that was not asked for nothing is loaded. -/
theorem related_load_eq_nil (hstub : stub ∉ stubs) :
    (load store stubs true).relatedSources stub = [] ∧
      (load store stubs true).relatedDestinations stub = [] := by
  rw [relatedSources_load, relatedDestinations_load, if_neg hstub, if_neg hstub]
  exact ⟨rfl, rfl⟩

end EagerRelationships

/-! ## Looking up -/

namespace Store

/-- Both ends of every edge are stored records, each stored once, whose accessors the registry
knows. -/
structure EndsReachable (store : Store) (registry : TypeRegistry) : Prop where
  keys : store.objects.Pairwise fun left right => left.stub ≠ right.stub
  accessors : ∀ edge ∈ store.relationships, ∀ edgeEnd,
    ∃ nodeType, registry.resolve? (edge.accessor edgeEnd) = some nodeType
  stored : ∀ edge ∈ store.relationships, ∀ edgeEnd,
    store.hasObject (edge.endStub edgeEnd) = true

variable {registry : TypeRegistry}

theorem reachableEnds_of_resolved {edges : List Relationship} {edgeEnd : EdgeEnd}
    (hresolved : ∀ edge ∈ edges,
      ∃ nodeType, registry.resolve? (edge.accessor edgeEnd) = some nodeType) :
    reachableEnds registry edgeEnd edges = (edges.map (fun edge => edge.endStub edgeEnd), []) := by
  have hreachable : edges.filter
      (fun edge => (registry.resolve? (edge.accessor edgeEnd)).isSome) = edges := by
    rw [List.filter_eq_self]
    intro edge hedge
    obtain ⟨nodeType, hfound⟩ := hresolved edge hedge
    rw [hfound]
    rfl
  have hquiet : edges.flatMap
      (fun edge => accessorWarnings registry (edge.accessor edgeEnd)) = [] := by
    rw [List.flatMap_eq_nil_iff]
    intro edge hedge
    obtain ⟨nodeType, hfound⟩ := hresolved edge hedge
    rw [accessorWarnings, hfound]
  rw [reachableEnds, hreachable, hquiet]

/-- For references to stored records, each there once, at least as many records are read. -/
theorem length_le_getObjects?
    (hkeys : store.objects.Pairwise fun left right => left.stub ≠ right.stub)
    {wanted : List Stub} (hnodup : wanted.Nodup)
    (hstored : ∀ stub ∈ wanted, store.hasObject stub = true) :
    wanted.length ≤ ((store.getObjects? wanted).getD []).length := by
  have hsubset : wanted ⊆ (store.objectsNamed wanted).map Object.stub := by
    intro stub hstub
    obtain ⟨object, hobject, hname⟩ := hasObject_iff.1 (hstored stub hstub)
    refine List.mem_map.2 ⟨object, List.mem_filter.2 ⟨hobject, ?_⟩, hname⟩
    rw [hname]
    exact List.contains_iff_mem.2 hstub
  have hlength := (List.subperm_of_subset hnodup hsubset).length_le
  rwa [List.length_map, ← (getObjects?_perm hkeys wanted).length_eq] at hlength

theorem EndsReachable.hasObject_of_joined (hreachable : store.EndsReachable registry)
    {stub other : Stub} (hjoined : store.Joined stub other) : store.hasObject other = true := by
  obtain ⟨edge, hstored, ⟨_, hother⟩ | ⟨hother, _⟩⟩ := hjoined
  · exact hother ▸ hreachable.stored edge hstored .destination
  · exact hother ▸ hreachable.stored edge hstored .source

/-- Where all ends can be reached, the look up finds the records of all neighbours, and gives no
warning. -/
theorem EndsReachable.relatedObjects_eq (hreachable : store.EndsReachable registry)
    (stub : Stub) :
    store.relatedObjects registry stub none =
      ((store.getObjects? (store.neighbors stub)).getD [], []) := by
  have hsources : reachableEnds registry .source (store.relatedSources stub) =
      ((store.relatedSources stub).map Relationship.source, []) :=
    reachableEnds_of_resolved fun edge hedge =>
      hreachable.accessors edge (List.mem_of_mem_filter hedge) .source
  have hdestinations : reachableEnds registry .destination (store.relatedDestinations stub) =
      ((store.relatedDestinations stub).map Relationship.destination, []) :=
    reachableEnds_of_resolved fun edge hedge =>
      hreachable.accessors edge (List.mem_of_mem_filter hedge) .destination
  have hfound : ¬((store.getObjects? (store.neighbors stub)).getD []).length <
      (store.neighbors stub).length := by
    refine Nat.not_lt.2 (length_le_getObjects? hreachable.keys (Stub.nodup_sorted _) ?_)
    exact fun other hother => hreachable.hasObject_of_joined (mem_neighbors_iff.1 hother)
  simp only [relatedObjects, hsources, hdestinations, typeAllowed, List.filter_true]
  rw [← neighbors, if_neg hfound]
  rfl

/-- The three ways agree on the records asked for: each finds the other ends of their edges, and
the look up gives no warning.  A record is a key of the cache if it was asked for and has edges,
nothing is loaded for the others, and each edge counts once for each end that was asked for. -/
structure TraversalsAgree (store : Store) (registry : TypeRegistry) (stubs : List Stub) :
    Prop where
  cached : ∀ stub ∈ stubs, ∀ other,
    other ∈ (NeighborCache.empty.populate store stubs none).2.neighbors stub ↔
      store.Joined stub other
  loaded : ∀ stub ∈ stubs, ∀ other,
    other ∈ (EagerRelationships.load store stubs true).neighbors stub ↔ store.Joined stub other
  lookedUp : ∀ stub ∈ stubs, ∀ other,
    (∃ object ∈ (store.relatedObjects registry stub none).1, object.stub = other) ↔
      store.Joined stub other
  quiet : ∀ stub ∈ stubs, (store.relatedObjects registry stub none).2 = []
  keys : ∀ stub, (NeighborCache.empty.populate store stubs none).2.contains stub = true ↔
    stub ∈ stubs ∧ ∃ other, store.Joined stub other
  unasked : ∀ stub, stub ∉ stubs →
    (EagerRelationships.load store stubs true).relatedSources stub = [] ∧
      (EagerRelationships.load store stubs true).relatedDestinations stub = []
  counted : (NeighborCache.empty.populate store stubs none).1 =
    store.relationships.countP (fun edge => stubs.contains edge.source) +
      store.relationships.countP (fun edge => stubs.contains edge.destination)

/-- What the look up finds are the stored records among the neighbours, which are all of them. -/
theorem EndsReachable.exists_relatedObjects_iff (hreachable : store.EndsReachable registry)
    {stub other : Stub} :
    (∃ object ∈ (store.relatedObjects registry stub none).1, object.stub = other) ↔
      store.Joined stub other := by
  rw [hreachable.relatedObjects_eq]
  simp only [(getObjects?_perm hreachable.keys _).mem_iff, objectsNamed, List.mem_filter,
    List.contains_iff_mem, mem_neighbors_iff]
  constructor
  · intro hfound
    obtain ⟨object, ⟨_, hjoined⟩, rfl⟩ := hfound
    exact hjoined
  · intro hjoined
    obtain ⟨object, hobject, rfl⟩ := hasObject_iff.1 (hreachable.hasObject_of_joined hjoined)
    exact ⟨object, ⟨hobject, hjoined⟩, rfl⟩

theorem EndsReachable.traversalsAgree (hreachable : store.EndsReachable registry)
    (stubs : List Stub) : store.TraversalsAgree registry stubs where
  cached _ hstub _ := NeighborCache.mem_neighbors_populate_none_iff.trans (and_iff_right hstub)
  loaded _ hstub _ := by
    rw [EagerRelationships.neighbors_load hstub]
    exact mem_neighbors_iff
  lookedUp _ _ _ := hreachable.exists_relatedObjects_iff
  quiet stub _ := congrArg Prod.snd (hreachable.relatedObjects_eq stub)
  keys stub := by
    rw [NeighborCache.contains_iff]
    simp only [NeighborCache.mem_neighbors_populate_none_iff]
    exact exists_and_left
  unasked _ hstub := EagerRelationships.related_load_eq_nil hstub
  counted := NeighborCache.populate_none_count NeighborCache.empty

end Store

/-! ## What one registry lets into the store -/

/-- The registry of a call. -/
def GraphCall.registry : GraphCall → TypeRegistry
  | insertObject registry _ _ => registry
  | create registry _ _ _ => registry
  | createDerived registry _ _ _ _ _ => registry
  | delete registry _ _ => registry
  | deleteObject registry _ _ => registry

theorem GraphCall.Makes.admitted_registry {call : GraphCall} {edge : Relationship}
    (hmakes : call.Makes edge) : ∃ actor, edge.Admitted call.registry actor := by
  cases call with
  | create registry actor now request => exact ⟨actor, hmakes.2.2.2⟩
  | createDerived registry actor now parent source destination => exact ⟨actor, hmakes.2.2.2⟩
  | insertObject registry now object => exact hmakes.elim
  | delete registry actor id => exact hmakes.elim
  | deleteObject registry actor stub => exact hmakes.elim

/-- References are in order, and every end of an edge has a relatable type. -/
structure Store.Relatable (registry : TypeRegistry) (store : Store) : Prop where
  integrity : store.Integrity
  ends : ∀ edge ∈ store.relationships, ∀ edgeEnd,
    registry.isRelatable (edge.endStub edgeEnd).type = true

namespace Store.Relatable

variable {registry : TypeRegistry} {after : Store}

theorem empty (registry : TypeRegistry) : Store.empty.Relatable registry where
  integrity := Store.Integrity.empty
  ends _ hedge := nomatch hedge

theorem graphTransition {call : GraphCall} (hrelatable : store.Relatable registry)
    (hregistry : call.registry = registry) (hcall : call.transition store = .ok ((), after)) :
    after.Relatable registry where
  integrity := Store.Integrity.stable.transition call store after hrelatable.integrity hcall
  ends := by
    intro edge hedge edgeEnd
    have hchanges := call.changesEdges_of_transition hrelatable.integrity hcall
    rcases hchanges.gains_or_old hedge with hgains | ⟨old, hold, gone, rfl⟩
    · obtain ⟨actor, hadmitted⟩ := (hchanges.makes_of_gains hgains).admitted_registry
      rw [hregistry] at hadmitted
      exact hadmitted.relatable edgeEnd
    · rw [Relationship.forgetting_endStub]
      exact hrelatable.ends old hold edgeEnd

theorem ledgerTransition {call : LedgerCall} (hrelatable : store.Relatable registry)
    (hcall : call.transition store = .ok ((), after)) : after.Relatable registry := by
  obtain ⟨jobs, last, rfl⟩ := LedgerCall.eq_withJobs_of_transition hcall
  exact ⟨hrelatable.integrity.withJobs jobs last, hrelatable.ends⟩

/-- Relatable types have accessors. -/
theorem endsReachable (hrelatable : store.Relatable registry) (hindexed : registry.Indexed) :
    store.EndsReachable registry where
  keys := hrelatable.integrity.keys
  accessors edge hedge edgeEnd :=
    hindexed.resolve?_of_isRelatable (hrelatable.ends edge hedge edgeEnd) edgeEnd
  stored := hrelatable.integrity.ends

end Store.Relatable

namespace StoreCall

/-- The call works under a registry; calls on the jobs know of none. -/
def Under (registry : TypeRegistry) : StoreCall → Prop
  | graph call => call.registry = registry
  | ledger _ => True

theorem relatable_run {registry : TypeRegistry} {calls : List StoreCall}
    (hunder : ∀ call ∈ calls, call.Under registry) :
    (run calls {}).store.Relatable registry := by
  refine run_keeps ?_ (.inl rfl) (Store.Relatable.empty registry)
  intro call hmem store after hrelatable hcall
  cases call with
  | graph call => exact hrelatable.graphTransition (hunder _ hmem) hcall
  | ledger call => exact hrelatable.ledgerTransition hcall

/-- After any calls on a fresh store under one registry, made by whomever and whether they succeed
or not, the cache, the edges loaded at once and the look up record by record agree on the
neighbours of any records. -/
theorem traversals_agree (types : List NodeType) (calls : List StoreCall)
    (hunder : ∀ call ∈ calls, call.Under (TypeRegistry.ofTypes types)) (stubs : List Stub) :
    (run calls {}).store.TraversalsAgree (TypeRegistry.ofTypes types) stubs :=
  ((relatable_run hunder).endsReachable (TypeRegistry.indexed_ofTypes types)).traversalsAgree stubs

/-- Two relatable types. -/
def issueTypes : List NodeType := [.relatableType "Issue", .relatableType "Objective"]

/-- An objective is joined with itself and with an issue, in both directions. -/
def joinedBothWays : List StoreCall :=
  let registry := TypeRegistry.ofTypes issueTypes
  let objective := Object.draft "Objective" 3 "o"
  let issue := Object.draft "Issue" 4 "i"
  [.graph (.insertObject registry 0 objective),
    .graph (.insertObject registry 0 issue),
    .graph (.create registry ⟨1, false⟩ 0 { source := objective, destination := objective }),
    .graph (.create registry ⟨1, false⟩ 0 { source := objective, destination := issue }),
    .graph (.create registry ⟨1, false⟩ 0 { source := issue, destination := objective })]

/-- The three edges are stored, and a request with a record given twice and one that is not stored
finds the same in all three ways. -/
theorem joined_both_ways_agree :
    (∀ call ∈ joinedBothWays, call.Under (TypeRegistry.ofTypes issueTypes)) ∧
      (run joinedBothWays {}).store.relationships.length = 3 ∧
      (run joinedBothWays {}).store.TraversalsAgree (TypeRegistry.ofTypes issueTypes)
        [⟨"Objective", 3⟩, ⟨"Objective", 3⟩, ⟨"Issue", 9⟩] := by
  have hunder : ∀ call ∈ joinedBothWays, call.Under (TypeRegistry.ofTypes issueTypes) := by
    intro call hcall
    simp only [joinedBothWays, List.mem_cons, List.not_mem_nil, or_false] at hcall
    rcases hcall with rfl | rfl | rfl | rfl | rfl <;> rfl
  exact ⟨hunder, by decide +kernel, traversals_agree issueTypes joinedBothWays hunder _⟩

end StoreCall

end RecordGraph
