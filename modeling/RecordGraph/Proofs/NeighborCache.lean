import RecordGraph.Graph.NeighborCache
import RecordGraph.Proofs.BulkReads

/-!
# What a request puts into the neighbour cache

A request adds each end of every edge that it reads to the neighbours of the other end, where that
one was asked for.  The edges are read by one of their ends, but noted for both.  So the types of
a request restrict the neighbours only as far as no edge joins two records asked for that differ
in whether their type was.
-/

namespace RecordGraph

/-- The edge joins two records asked for, one of a type asked for and one of another type. -/
def Relationship.Straddles (edge : Relationship) (stubs : List Stub) (types : List String) :
    Prop :=
  edge.source ∈ stubs ∧ edge.destination ∈ stubs ∧
    ¬(edge.source.type ∈ types ↔ edge.destination.type ∈ types)

theorem Relationship.Joins.straddles_iff {edge : Relationship} {left right : Stub}
    {stubs : List Stub} {types : List String} (hjoins : edge.Joins left right) :
    edge.Straddles stubs types ↔
      left ∈ stubs ∧ right ∈ stubs ∧ ¬(left.type ∈ types ↔ right.type ∈ types) := by
  rw [Relationship.Straddles]
  rcases hjoins with ⟨hsource, hdestination⟩ | ⟨hsource, hdestination⟩
  · rw [hsource, hdestination]
  · have hswap : (left.type ∈ types ↔ right.type ∈ types) ↔
        (right.type ∈ types ↔ left.type ∈ types) := iff_comm
    rw [hsource, hdestination, and_left_comm, hswap]

namespace NeighborCache

variable {cache : NeighborCache} {store : Store} {stubs : List Stub} {key neighbor : Stub}

/-! ## What the cache holds -/

theorem mem_neighbors_iff : neighbor ∈ cache.neighbors key ↔ (key, neighbor) ∈ cache.links := by
  simp only [neighbors, Stub.mem_sorted, List.mem_map, List.mem_filter, beq_iff_eq]
  constructor
  · intro hmapped
    obtain ⟨link, ⟨hlink, hkey⟩, hneighbor⟩ := hmapped
    rwa [← hkey, ← hneighbor]
  · intro hlink
    exact ⟨(key, neighbor), ⟨hlink, rfl⟩, rfl⟩

theorem mem_record_iff {link : Stub × Stub} {left right : Stub} :
    link ∈ (cache.record left right).links ↔ link ∈ cache.links ∨ link = (left, right) := by
  rw [record]
  split
  · next hcontains =>
    have hmem : (left, right) ∈ cache.links := List.contains_iff_mem.1 hcontains
    constructor
    · exact .inl
    · intro hlink
      rcases hlink with hlink | rfl
      · exact hlink
      · exact hmem
  · simp

/-- An edge that is read adds each end to the neighbours of the other, if that was asked for. -/
theorem mem_recordEdge_iff {edge : Relationship} :
    (key, neighbor) ∈ (recordEdge stubs cache edge).links ↔
      (key, neighbor) ∈ cache.links ∨ (key ∈ stubs ∧ edge.Joins key neighbor) := by
  have hsource : (key, neighbor) = (edge.source, edge.destination) ↔
      edge.source = key ∧ edge.destination = neighbor := by
    simp [eq_comm]
  have hdestination : (key, neighbor) = (edge.destination, edge.source) ↔
      edge.source = neighbor ∧ edge.destination = key := by
    simp [eq_comm, and_comm]
  simp only [recordEdge, Relationship.Joins, List.contains_iff_mem]
  by_cases hfrom : edge.source ∈ stubs
  · by_cases hto : edge.destination ∈ stubs
    · simp only [hfrom, hto, if_true, mem_record_iff, hsource, hdestination]
      grind
    · simp only [hfrom, hto, if_true, if_false, mem_record_iff, hsource]
      grind
  · by_cases hto : edge.destination ∈ stubs
    · simp only [hfrom, hto, if_true, if_false, mem_record_iff, hdestination]
      grind
    · simp only [hfrom, hto, if_false]
      grind

theorem mem_foldl_recordEdge_iff (edges : List Relationship) (cache : NeighborCache) :
    (key, neighbor) ∈ (edges.foldl (recordEdge stubs) cache).links ↔
      (key, neighbor) ∈ cache.links ∨
        (key ∈ stubs ∧ ∃ edge ∈ edges, edge.Joins key neighbor) := by
  induction edges generalizing cache with
  | nil => simp
  | cons edge rest ih =>
    rw [List.foldl_cons, ih, mem_recordEdge_iff]
    simp only [List.mem_cons, exists_eq_or_imp]
    rw [or_assoc, ← and_or_left]

/-- A request adds, for each record asked for, the other ends of the edges that are read. -/
theorem mem_neighbors_populate_iff {types : Option (List String)} :
    neighbor ∈ (cache.populate store stubs types).2.neighbors key ↔
      neighbor ∈ cache.neighbors key ∨
        (key ∈ stubs ∧ ∃ edge ∈ edgesRead store stubs types, edge.Joins key neighbor) := by
  simp only [mem_neighbors_iff, populate, mem_foldl_recordEdge_iff]

theorem not_mem_neighbors_empty : neighbor ∉ empty.neighbors key := by
  rw [mem_neighbors_iff]
  exact List.not_mem_nil

/-- What a request notes in an empty cache. -/
theorem mem_neighbors_populate_empty_iff {types : Option (List String)} :
    neighbor ∈ (empty.populate store stubs types).2.neighbors key ↔
      key ∈ stubs ∧ ∃ edge ∈ edgesRead store stubs types, edge.Joins key neighbor := by
  rw [mem_neighbors_populate_iff, or_iff_right not_mem_neighbors_empty]

/-! ## What is read -/

/-- The lists that a request hands to the store are read as they were written. -/
theorem edgesRead_eq (store : Store) (stubs : List Stub) (types : Option (List String)) :
    edgesRead store stubs types =
      store.relationships.filter (fun edge =>
          stubs.contains edge.source && Store.typeAllowed types edge.destination.type) ++
        store.relationships.filter (fun edge =>
          stubs.contains edge.destination && Store.typeAllowed types edge.source.type) := by
  have htypes : types.map TypeName.listed = types := by
    rw [funext TypeName.listed_eq, Option.map_id']
  rw [edgesRead, Stub.listed_eq, htypes]

/-- Only stored edges are read. -/
theorem mem_of_mem_edgesRead {types : Option (List String)} {edge : Relationship}
    (hread : edge ∈ edgesRead store stubs types) : edge ∈ store.relationships := by
  rw [edgesRead_eq] at hread
  rcases List.mem_append.1 hread with hsource | hdestination
  · exact List.mem_of_mem_filter hsource
  · exact List.mem_of_mem_filter hdestination

/-- The edges of a record asked for are read if their other ends have a type wanted. -/
theorem mem_edgesRead_of_allowed {types : Option (List String)} {edge : Relationship}
    (hstored : edge ∈ store.relationships) (hkey : key ∈ stubs) (hjoins : edge.Joins key neighbor)
    (hallowed : Store.typeAllowed types neighbor.type = true) :
    edge ∈ edgesRead store stubs types := by
  simp only [edgesRead_eq, List.mem_append, List.mem_filter, Bool.and_eq_true,
    List.contains_iff_mem]
  rcases hjoins with ⟨hsource, hdestination⟩ | ⟨hsource, hdestination⟩
  · left
    rw [hsource, hdestination]
    exact ⟨hstored, hkey, hallowed⟩
  · right
    rw [hsource, hdestination]
    exact ⟨hstored, hkey, hallowed⟩

theorem typeAllowed_some_iff {types : List String} (htypes : types ≠ []) {type : String} :
    Store.typeAllowed (some types) type = true ↔ type ∈ types := by
  simp [Store.typeAllowed, htypes]

/-- Of the edges of a record asked for, those are read whose other end has a type asked for, and
those that are read from that other end. -/
theorem mem_edgesRead_iff {types : List String} (htypes : types ≠ []) {edge : Relationship}
    (hkey : key ∈ stubs) (hjoins : edge.Joins key neighbor) :
    edge ∈ edgesRead store stubs (some types) ↔ edge ∈ store.relationships ∧
      (neighbor.type ∈ types ∨ (neighbor ∈ stubs ∧ key.type ∈ types)) := by
  simp only [edgesRead_eq, List.mem_append, List.mem_filter, Bool.and_eq_true,
    List.contains_iff_mem, typeAllowed_some_iff htypes]
  rw [← and_or_left]
  rcases hjoins with ⟨hsource, hdestination⟩ | ⟨hsource, hdestination⟩
  · rw [hsource, hdestination]
    simp only [hkey, true_and]
  · rw [hsource, hdestination, or_comm]
    simp only [hkey, true_and]

/-- The neighbours under a filter: the other ends of a type asked for, and the other ends that were
asked for themselves by a record of such a type. -/
theorem mem_neighbors_populate_some_iff {types : List String} (htypes : types ≠ []) :
    neighbor ∈ (empty.populate store stubs (some types)).2.neighbors key ↔
      key ∈ stubs ∧ ∃ edge ∈ store.relationships, edge.Joins key neighbor ∧
        (neighbor.type ∈ types ∨ (neighbor ∈ stubs ∧ key.type ∈ types)) := by
  rw [mem_neighbors_populate_empty_iff]
  constructor
  · intro hnoted
    obtain ⟨hkey, edge, hread, hjoins⟩ := hnoted
    obtain ⟨hstored, htype⟩ := (mem_edgesRead_iff htypes hkey hjoins).1 hread
    exact ⟨hkey, edge, hstored, hjoins, htype⟩
  · intro hneighbor
    obtain ⟨hkey, edge, hstored, hjoins, htype⟩ := hneighbor
    have hread := (mem_edgesRead_iff htypes hkey hjoins).2 ⟨hstored, htype⟩
    exact ⟨hkey, edge, hread, hjoins⟩

/-! ## Where the filter is exact -/

/-- The cache gives for the records asked for their neighbours of the types asked for, and nothing
else. -/
def Exact (cache : NeighborCache) (store : Store) (stubs : List Stub) (types : List String) :
    Prop :=
  ∀ key neighbor, neighbor ∈ cache.neighbors key ↔
    key ∈ stubs ∧ (∃ edge ∈ store.relationships, edge.Joins key neighbor) ∧ neighbor.type ∈ types

theorem Exact.type_mem {types : List String} (htypes : types ≠ [])
    (hexact : (empty.populate store stubs (some types)).2.Exact store stubs types)
    {edge : Relationship} (hstored : edge ∈ store.relationships)
    (hjoins : edge.Joins key neighbor) (hkey : key ∈ stubs) (hneighbor : neighbor ∈ stubs)
    (htype : key.type ∈ types) : neighbor.type ∈ types := by
  have hnoted : neighbor ∈ (empty.populate store stubs (some types)).2.neighbors key :=
    (mem_neighbors_populate_some_iff htypes).2
      ⟨hkey, edge, hstored, hjoins, .inr ⟨hneighbor, htype⟩⟩
  obtain ⟨_, _, hallowed⟩ := (hexact key neighbor).1 hnoted
  exact hallowed

theorem exact_populate_iff {types : List String} (htypes : types ≠ []) :
    (empty.populate store stubs (some types)).2.Exact store stubs types ↔
      ∀ edge ∈ store.relationships, ¬edge.Straddles stubs types := by
  constructor
  · intro hexact edge hstored hstraddles
    obtain ⟨hsource, hdestination, hdiffer⟩ := hstraddles
    apply hdiffer
    constructor
    · exact hexact.type_mem htypes hstored (.inl ⟨rfl, rfl⟩) hsource hdestination
    · exact hexact.type_mem htypes hstored (.inr ⟨rfl, rfl⟩) hdestination hsource
  · intro hnone key neighbor
    rw [mem_neighbors_populate_some_iff htypes]
    constructor
    · intro hnoted
      obtain ⟨hkey, edge, hstored, hjoins, htype | ⟨hneighbor, htype⟩⟩ := hnoted
      · exact ⟨hkey, ⟨edge, hstored, hjoins⟩, htype⟩
      · -- The edge was read from its other end, which is of a type asked for as well.
        have hwanted : neighbor.type ∈ types := by
          by_cases hwanted : neighbor.type ∈ types
          · exact hwanted
          · have hdiffer : ¬(key.type ∈ types ↔ neighbor.type ∈ types) := fun hsame =>
              hwanted (hsame.1 htype)
            exact absurd (hjoins.straddles_iff.2 ⟨hkey, hneighbor, hdiffer⟩) (hnone edge hstored)
        exact ⟨hkey, ⟨edge, hstored, hjoins⟩, hwanted⟩
    · intro hwanted
      obtain ⟨hkey, ⟨edge, hstored, hjoins⟩, htype⟩ := hwanted
      exact ⟨hkey, edge, hstored, hjoins, .inl htype⟩

/-- A request under a filter reads each edge for both of its ends.  It gives a record the
neighbours of the types asked for, and also those of other types that were asked for beside it if
its own type was.  So it is exact where no edge straddles the filter, and only there. -/
theorem populate_exact_unless_straddled {types : List String} (htypes : types ≠ [])
    (store : Store) (stubs : List Stub) :
    (∀ key neighbor, neighbor ∈ (empty.populate store stubs (some types)).2.neighbors key ↔
      key ∈ stubs ∧ ∃ edge ∈ store.relationships, edge.Joins key neighbor ∧
        (neighbor.type ∈ types ∨ (neighbor ∈ stubs ∧ key.type ∈ types))) ∧
      ((empty.populate store stubs (some types)).2.Exact store stubs types ↔
        ∀ edge ∈ store.relationships, ¬edge.Straddles stubs types) :=
  ⟨fun _ _ => mem_neighbors_populate_some_iff htypes, exact_populate_iff htypes⟩

/-- A store with one edge, from `Objective#3` to `Issue#4`. -/
def objectiveToIssue : Store where
  relationships :=
    [{ id := 1, source := ⟨"Objective", 3⟩, destination := ⟨"Issue", 4⟩, parentId := none
       automappingId := none, external := false, modifiedBy := none, createdAt := 0
       updatedAt := 0 }]
  lastRelationshipId := 1

/-- Asked for the issues around both ends, the cache gives the issue an objective. -/
theorem objective_noted_among_issues :
    ["Issue"] ≠ [] ∧
      ⟨"Objective", 3⟩ ∈ (empty.populate objectiveToIssue [⟨"Objective", 3⟩, ⟨"Issue", 4⟩]
        (some ["Issue"])).2.neighbors ⟨"Issue", 4⟩ ∧
      ¬(empty.populate objectiveToIssue [⟨"Objective", 3⟩, ⟨"Issue", 4⟩]
        (some ["Issue"])).2.Exact objectiveToIssue [⟨"Objective", 3⟩, ⟨"Issue", 4⟩]
          ["Issue"] := by
  have htypes : ["Issue"] ≠ [] := List.cons_ne_nil _ _
  obtain ⟨hneighbors, hexact⟩ := populate_exact_unless_straddled htypes objectiveToIssue
    [⟨"Objective", 3⟩, ⟨"Issue", 4⟩]
  refine ⟨htypes, ?_, ?_⟩
  · rw [hneighbors]
    simp [objectiveToIssue, Relationship.Joins]
  · rw [hexact]
    simp [objectiveToIssue, Relationship.Straddles]

end NeighborCache

end RecordGraph
