import RecordGraph.Graph.Traversal
import RecordGraph.Proofs.BulkReads

/-!
# Edges loaded at once

A batch of records has its edges read with one question for each end and filed under the records.
What is filed under a record are the edges that were read with it at that end, in the order in
which they were read, so that each record of the batch has the edges that it would have found
alone, however often it was asked for and whether it is stored or not.  Nothing is filed under any
other record, because an edge is filed only under the end by which it was read.
-/

namespace RecordGraph

namespace EdgeIndex

theorem under_empty (stub : Stub) : under {} stub = [] := rfl

/-- An edge comes last under its reference, and nothing else changes. -/
theorem under_add (index : EdgeIndex) (key stub : Stub) (edge : Relationship) :
    (index.add key edge).under stub =
      if stub = key then index.under stub ++ [edge] else index.under stub := by
  obtain ⟨entries⟩ := index
  simp only [add, under]
  induction entries with
  | nil =>
    by_cases hstub : stub = key
    · simp [addTo, hstub]
    · simp [addTo, List.lookup_cons, beq_eq_false_iff_ne.2 hstub, hstub]
  | cons entry rest ih =>
    obtain ⟨other, edges⟩ := entry
    rw [addTo]
    by_cases hkey : key = other
    · subst hkey
      by_cases hstub : stub = key
      · simp [hstub]
      · simp [List.lookup_cons, beq_eq_false_iff_ne.2 hstub, hstub]
    · rw [if_neg (by simpa using hkey), List.lookup_cons, List.lookup_cons]
      by_cases hother : stub = other
      · have hstub : stub ≠ key := fun hsame => hkey (hsame.symm.trans hother)
        simp [hother, Ne.symm hkey]
      · simpa [beq_eq_false_iff_ne.2 hother] using ih

/-- While edges are filed, those that have a reference at their end come to what is under it. -/
theorem under_foldl_add (edgeEnd : EdgeEnd) (edges : List Relationship) (index : EdgeIndex)
    (stub : Stub) :
    (edges.foldl (fun index edge => index.add (edge.endStub edgeEnd) edge) index).under stub =
      index.under stub ++ edges.filter (fun edge => edge.endStub edgeEnd == stub) := by
  induction edges generalizing index with
  | nil => simp
  | cons edge rest ih =>
    rw [List.foldl_cons, ih, under_add]
    by_cases hend : edge.endStub edgeEnd = stub
    · simp [hend]
    · simp [hend, Ne.symm hend]

theorem under_ofEdges (edgeEnd : EdgeEnd) (edges : List Relationship) (stub : Stub) :
    (ofEdges edgeEnd edges).under stub =
      edges.filter (fun edge => edge.endStub edgeEnd == stub) := by
  rw [ofEdges, under_foldl_add, under_empty, List.nil_append]

end EdgeIndex

/-- Of the edges that were read for a batch, those of a record are all of its edges if the record
is in the batch, and none if it is not. -/
theorem Store.filter_edgesWithin (store : Store) (edgeEnd : EdgeEnd) (stubs : List Stub)
    (stub : Stub) :
    (store.edgesWithin edgeEnd stubs).filter (fun edge => edge.endStub edgeEnd == stub) =
      if stub ∈ stubs then
        store.relationships.filter (fun edge => edge.endStub edgeEnd == stub)
      else [] := by
  rw [edgesWithin, Stub.listed_eq, List.filter_filter]
  split
  · next hstub =>
    refine List.filter_congr fun edge _ => ?_
    cases hend : edge.endStub edgeEnd == stub with
    | false => rfl
    | true => simpa [beq_iff_eq.1 hend] using hstub
  · next hstub =>
    rw [List.filter_eq_nil_iff]
    intro edge _ hboth
    rw [Bool.and_eq_true, beq_iff_eq, List.contains_iff_mem] at hboth
    exact hstub (hboth.1 ▸ hboth.2)

namespace EagerRelationships

variable {store : Store} {stubs : List Stub} {stub : Stub}

theorem relatedSources_load :
    (load store stubs true).relatedSources stub =
      if stub ∈ stubs then store.relatedSources stub else [] :=
  (EdgeIndex.under_ofEdges _ _ _).trans (store.filter_edgesWithin .destination stubs stub)

theorem relatedDestinations_load :
    (load store stubs true).relatedDestinations stub =
      if stub ∈ stubs then store.relatedDestinations stub else [] :=
  (EdgeIndex.under_ofEdges _ _ _).trans (store.filter_edgesWithin .source stubs stub)

/-- Whatever edges are stored, a batch that is loaded gives each of its records the edges that the
store gives for the record alone, in the same order, and every other record none.  A batch that is
not loaded says so and gives no edges at all. -/
theorem loaded_as_alone (store : Store) (stubs : List Stub) :
    ((load store stubs true).loaded = true ∧ ∀ stub,
      (load store stubs true).relatedSources stub =
          (if stub ∈ stubs then store.relatedSources stub else []) ∧
        (load store stubs true).relatedDestinations stub =
          (if stub ∈ stubs then store.relatedDestinations stub else [])) ∧
      ((load store stubs false).loaded = false ∧ ∀ stub,
        (load store stubs false).relatedSources stub = [] ∧
          (load store stubs false).relatedDestinations stub = []) := by
  refine ⟨⟨rfl, fun stub => ?_⟩, rfl, fun stub => ?_⟩
  · exact ⟨relatedSources_load, relatedDestinations_load⟩
  · exact ⟨rfl, rfl⟩

end EagerRelationships

end RecordGraph
