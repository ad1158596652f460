import Mathlib.Data.List.Nodup
import RecordGraph.Proofs.GraphRuns

/-!
# Integrity of the store

The ends of an edge are recorded as a type and a number, and nothing in the tables themselves ties
them to a record.  That both ends are always stored rests on the operations alone: an edge is made
between stored records only, and a record goes together with every edge that touches it.  With the
keys of the tables and the references between edges and mapping runs this makes one invariant,
which every run keeps.
-/

namespace RecordGraph

namespace Store

/-- What can be relied on between the rows of a store. -/
structure Integrity (store : Store) : Prop where
  /-- A reference names one record. -/
  keys : store.objects.Pairwise fun left right => left.stub ≠ right.stub
  /-- Both ends of an edge are stored. -/
  ends : ∀ edge ∈ store.relationships, ∀ edgeEnd, store.hasObject (edge.endStub edgeEnd) = true
  /-- No two edges lead from the same record to the same record. -/
  pairs : store.relationships.Pairwise fun left right =>
    ¬(left.source = right.source ∧ left.destination = right.destination)
  /-- A number names one edge. -/
  ids : store.relationships.Pairwise fun left right => left.id ≠ right.id
  /-- The parent of an edge is stored. -/
  parents : ∀ edge ∈ store.relationships, ∀ id, edge.parentId = some id →
    store.hasRelationship id = true
  /-- The mapping run that made an edge is stored. -/
  runs : ∀ edge ∈ store.relationships, ∀ id, edge.automappingId = some id →
    store.hasAutomapping id = true
  /-- The edge that set off a mapping run is stored. -/
  triggers : ∀ run ∈ store.automappings, ∀ id, run.relationshipId = some id →
    store.hasRelationship id = true

/-- Every reference to an edge or a mapping run leads to a stored one. -/
structure ForeignKeys (store : Store) : Prop where
  parents : ∀ edge ∈ store.relationships, ∀ id, edge.parentId = some id →
    store.hasRelationship id = true
  runs : ∀ edge ∈ store.relationships, ∀ id, edge.automappingId = some id →
    store.hasAutomapping id = true
  triggers : ∀ run ∈ store.automappings, ∀ id, run.relationshipId = some id →
    store.hasRelationship id = true

/-- What the schema alone ensures of edges: their references lead somewhere, and neither a number
nor the ordered ends name two of them.  That the ends are stored is not part of it. -/
structure Lawful (store : Store) : Prop extends store.ForeignKeys where
  pairs : store.relationships.Pairwise fun left right =>
    ¬(left.source = right.source ∧ left.destination = right.destination)
  ids : store.relationships.Pairwise fun left right => left.id ≠ right.id

theorem Lawful.withoutEdges {store : Store} (hlawful : store.Lawful) (gone : List Int) :
    (store.withoutEdges gone).Lawful where
  parents edge hedge id hnames := by
    obtain ⟨old, hold, _, rfl⟩ := mem_withoutEdges_iff.1 hedge
    obtain ⟨hparent, hkept⟩ := Relationship.forgetting_parentId_eq_some_iff.1 hnames
    exact hasRelationship_withoutEdges_iff.2 ⟨hlawful.parents old hold id hparent, hkept⟩
  runs edge hedge id hnames := by
    obtain ⟨old, hold, _, rfl⟩ := mem_withoutEdges_iff.1 hedge
    rw [hasAutomapping_withoutEdges]
    exact hlawful.runs old hold id hnames
  triggers run hrun id hnames := by
    obtain ⟨old, hold, rfl⟩ := List.mem_map.1 hrun
    obtain ⟨htrigger, hkept⟩ := Automapping.forgetting_relationshipId_eq_some_iff.1 hnames
    exact hasRelationship_withoutEdges_iff.2 ⟨hlawful.triggers old hold id htrigger, hkept⟩
  pairs := List.pairwise_map.2 (hlawful.pairs.filter _)
  ids := List.pairwise_map.2 (hlawful.ids.filter _)

namespace Integrity

theorem lawful {store : Store} (hintegrity : store.Integrity) : store.Lawful :=
  { hintegrity with }

theorem empty : Integrity Store.empty where
  keys := List.Pairwise.nil
  ends := by simp [Store.empty]
  pairs := List.Pairwise.nil
  ids := List.Pairwise.nil
  parents := by simp [Store.empty]
  runs := by simp [Store.empty]
  triggers := by simp [Store.empty]

variable {store after : Store}

/-- A record is what its reference names. -/
theorem object?_of_mem (hintegrity : store.Integrity) {object : Object}
    (hobject : object ∈ store.objects) : store.object? object.stub = some object := by
  have hnodup : (store.objects.map Object.stub).Nodup := List.pairwise_map.2 hintegrity.keys
  exact (find?_key_eq_some_iff hnodup).2 ⟨hobject, rfl⟩

/-- A number names one edge. -/
theorem eq_of_id_eq (hintegrity : store.Integrity) {edge other : Relationship}
    (hedge : edge ∈ store.relationships) (hother : other ∈ store.relationships)
    (hid : other.id = edge.id) : other = edge :=
  edge_eq_of_id_eq hintegrity.ids hedge hother hid

theorem insertObject {object : Object} (hintegrity : store.Integrity)
    (hstored : store.insertObject object = .ok after) : after.Integrity := by
  obtain ⟨_, hfresh, rfl⟩ := insertObject_eq_ok_iff.1 hstored
  have hperm := objects_insert_perm hfresh
  refine { hintegrity with keys := ?_, ends := ?_ }
  · apply pairwise_of_perm_cons hperm Ne.symm _ hintegrity.keys
    intro other hother
    exact (hasObject_eq_false_iff.1 hfresh other hother).symm
  · intro edge hedge edgeEnd
    obtain ⟨other, hother, hstub⟩ := hasObject_iff.1 (hintegrity.ends edge hedge edgeEnd)
    exact hasObject_iff.2 ⟨other, hperm.mem_iff.2 (List.mem_cons_of_mem _ hother), hstub⟩

theorem insertAutomapping {row : NewAutomapping} {run : Automapping}
    (hintegrity : store.Integrity)
    (hstored : store.insertAutomapping row = .ok (run, after)) : after.Integrity := by
  obtain ⟨id, _, htrigger, hrun, rfl⟩ := insertAutomapping_eq_ok_iff.1 hstored
  refine { hintegrity with runs := ?_, triggers := ?_ }
  · intro edge hedge made hmade
    obtain ⟨other, hother, hid⟩ := hasAutomapping_iff.1 (hintegrity.runs edge hedge made hmade)
    exact hasAutomapping_iff.2 ⟨other, Ordered.mem_insert_of_mem hother, hid⟩
  · intro other hother trigger hset
    rcases Ordered.mem_of_mem_insert hother with hnew | hold
    · rw [hnew, hrun] at hset
      exact htrigger trigger hset
    · exact hintegrity.triggers other hold trigger hset

/-- An edge between stored records may be stored. -/
theorem insertRelationship {row : NewEdge} {edge : Relationship} (hintegrity : store.Integrity)
    (hsource : store.hasObject row.source = true)
    (hdestination : store.hasObject row.destination = true)
    (hstored : store.insertRelationship row = .ok (edge, after)) : after.Integrity := by
  have hfresh := fresh_of_insertRelationship hstored
  have hperm := relationships_insert_perm hfresh
  -- What was stored before is stored still.
  have hkept : ∀ {number}, store.hasRelationship number = true →
      after.hasRelationship number = true := by
    intro number hnumber
    exact (hasRelationship_of_insertRelationship hstored).2 (.inr hnumber)
  obtain ⟨id, _, _, hpair, hparent, hrun, hedge, rfl⟩ := insertRelationship_eq_ok_iff.1 hstored
  refine { hintegrity with
    ends := ?_, pairs := ?_, ids := ?_, parents := ?_, runs := ?_, triggers := ?_ }
  · intro other hother edgeEnd
    rcases Ordered.mem_of_mem_insert hother with hnew | hold
    · rw [hnew, hedge]
      cases edgeEnd with
      | source => exact hsource
      | destination => exact hdestination
    · exact hintegrity.ends other hold edgeEnd
  · apply pairwise_of_perm_cons hperm _ _ hintegrity.pairs
    · intro left right hapart hsame
      exact hapart ⟨hsame.1.symm, hsame.2.symm⟩
    · intro other hother hsame
      rw [hedge] at hsame
      exact hasPair_eq_false_iff.1 hpair other hother ⟨hsame.1.symm, hsame.2.symm⟩
  · apply pairwise_of_perm_cons hperm Ne.symm _ hintegrity.ids
    intro other hother
    exact (hasRelationship_eq_false_iff.1 hfresh other hother).symm
  · intro other hother number hnames
    rcases Ordered.mem_of_mem_insert hother with hnew | hold
    · rw [hnew, hedge] at hnames
      rcases hparent number hnames with hself | hbefore
      · apply (hasRelationship_of_insertRelationship hstored).2
        rw [hself, hedge]
        exact .inl rfl
      · exact hkept hbefore
    · exact hkept (hintegrity.parents other hold number hnames)
  · intro other hother number hnames
    rcases Ordered.mem_of_mem_insert hother with hnew | hold
    · rw [hnew, hedge] at hnames
      exact hrun number hnames
    · exact hintegrity.runs other hold number hnames
  · intro run hmade number hnames
    exact hkept (hintegrity.triggers run hmade number hnames)

/-- Edges may go, since the references to them go as well. -/
theorem withoutEdges (hintegrity : store.Integrity) (gone : List Int) :
    (store.withoutEdges gone).Integrity := by
  refine { hintegrity.lawful.withoutEdges gone with keys := hintegrity.keys, ends := ?_ }
  intro edge hedge edgeEnd
  obtain ⟨old, hold, _, rfl⟩ := mem_withoutEdges_iff.1 hedge
  rw [Relationship.forgetting_endStub]
  exact hintegrity.ends old hold edgeEnd

/-- A record that no edge touches may go. -/
theorem removeObject {stub : Stub} (hintegrity : store.Integrity)
    (huntouched : ∀ edge ∈ store.relationships, edge.touches stub = false) :
    (store.removeObject stub).Integrity := by
  refine { hintegrity with keys := hintegrity.keys.filter _, ends := ?_ }
  intro edge hedge edgeEnd
  obtain ⟨object, hobject, hstub⟩ := hasObject_iff.1 (hintegrity.ends edge hedge edgeEnd)
  have hother : object.stub ≠ stub := by
    have hneither := huntouched edge hedge
    simp only [Relationship.touches, Bool.or_eq_false_iff, beq_eq_false_iff_ne] at hneither
    rw [hstub]
    cases edgeEnd with
    | source => exact hneither.1
    | destination => exact hneither.2
  refine hasObject_iff.2 ⟨object, List.mem_filter.2 ⟨hobject, ?_⟩, hstub⟩
  exact bne_iff_ne.2 hother

/-- No reference leads to a job. -/
theorem withJobs (hintegrity : store.Integrity) (jobs : List Job) (last : Int) :
    ({ store with jobs, lastJobId := last } : Store).Integrity :=
  { hintegrity with }

theorem stable : Stable Integrity where
  record hintegrity _ hstored := hintegrity.insertObject hstored
  run hintegrity hstored := hintegrity.insertAutomapping hstored
  edge hintegrity hjoinable hstored :=
    hintegrity.insertRelationship hjoinable.sourceStored hjoinable.destinationStored hstored
  edgesGone _ gone hintegrity := hintegrity.withoutEdges gone
  recordGone _ _ hintegrity huntouched := hintegrity.removeObject huntouched

end Integrity

end Store

/-- After any calls on a fresh store, whoever makes them, under whatever registries, and whether
they succeed or not: both ends of every edge are stored, no two edges share their ordered ends or
their number, and every reference to an edge or a mapping run names a stored one. -/
theorem GraphCall.integrity_run (calls : List GraphCall) :
    (GraphCall.run calls {}).store.Integrity :=
  Store.Integrity.stable.run_empty Store.Integrity.empty calls

end RecordGraph
