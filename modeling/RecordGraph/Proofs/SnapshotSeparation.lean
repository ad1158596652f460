import RecordGraph.Proofs.StoreIntegrity

/-!
# Snapshots stay apart from their origins

An edge between a snapshot and the record that it was taken of is refused when it is asked for, by
what is stored at that moment.  No later call brings such a pair about either: a record that is
stored anew finds no edge left over from an earlier record of its number, and a stored record is
never changed.
-/

namespace RecordGraph

namespace Store

/-- No edge joins a stored snapshot with the origin recorded for it. -/
def SnapshotsApart (store : Store) : Prop :=
  ∀ snapshot ∈ store.objects, snapshot.isSnapshot = true →
    ∀ origin, snapshot.origin = some origin →
      ∀ edge ∈ store.relationships, ¬edge.Joins snapshot.stub origin

namespace SnapshotsApart

variable {store after : Store}

theorem empty : SnapshotsApart Store.empty := by
  intro snapshot hsnapshot
  cases hsnapshot

/-- Fewer records and fewer edges leave fewer pairs.  The parents of edges do not matter. -/
theorem mono (hapart : store.SnapshotsApart)
    (hobjects : ∀ object ∈ after.objects, object ∈ store.objects)
    (hedges : ∀ edge ∈ after.relationships, ∃ old ∈ store.relationships,
      old.source = edge.source ∧ old.destination = edge.destination) :
    after.SnapshotsApart := by
  intro snapshot hsnapshot htype origin horigin edge hedge hjoins
  obtain ⟨old, hold, hsource, hdestination⟩ := hedges edge hedge
  apply hapart snapshot (hobjects snapshot hsnapshot) htype origin horigin old hold
  rw [Relationship.Joins, hsource, hdestination]
  exact hjoins

/-- A record that is new finds no edge that touches it. -/
theorem insertObject {object : Object} (hintegrity : store.Integrity)
    (hapart : store.SnapshotsApart) (hstored : store.insertObject object = .ok after) :
    after.SnapshotsApart := by
  obtain ⟨_, hfresh, rfl⟩ := insertObject_eq_ok_iff.1 hstored
  intro snapshot hsnapshot htype origin horigin edge hedge hjoins
  rcases Ordered.mem_of_mem_insert hsnapshot with rfl | hold
  · have hsource := hintegrity.ends edge hedge .source
    have hdestination := hintegrity.ends edge hedge .destination
    rcases hjoins with ⟨hstub, _⟩ | ⟨_, hstub⟩
    · rw [Relationship.endStub, hstub, hfresh] at hsource
      cases hsource
    · rw [Relationship.endStub, hstub, hfresh] at hdestination
      cases hdestination
  · exact hapart snapshot hold htype origin horigin edge hedge hjoins

/-- A snapshot that passed its check is not joined with its origin. -/
theorem origin_ne_of_checkSnapshot {source destination object other snapshot : Object}
    {origin : Stub} (hintegrity : store.Integrity) (hsnapshot : snapshot ∈ store.objects)
    (htype : snapshot.isSnapshot = true) (horigin : snapshot.origin = some origin)
    (hstub : object.stub = snapshot.stub)
    (hcheck : Graph.checkSnapshot store source destination object other = .ok ()) :
    origin ≠ other.stub := by
  have hobject : object.isSnapshot = true := by
    have hsame : object.type = snapshot.type := congrArg Stub.type hstub
    rw [Object.isSnapshot, hsame]
    exact htype
  obtain ⟨stored, hstored, hne⟩ := Graph.checkSnapshot_eq_ok_iff.1 hcheck hobject
  rw [hstub, hintegrity.object?_of_mem hsnapshot, Option.bind_some, horigin] at hstored
  cases hstored
  exact hne

theorem insertRelationship {registry : TypeRegistry} {actor : Actor} {now : Int}
    {request : Graph.Request} {source destination : Object} {edge : Relationship}
    (hintegrity : store.Integrity) (hapart : store.SnapshotsApart)
    (hjoinable : Graph.Joinable registry actor store source destination)
    (hstored : store.insertRelationship (request.row actor now source.stub destination.stub) =
      .ok (edge, after)) : after.SnapshotsApart := by
  obtain ⟨id, _, _, _, _, _, hedge, rfl⟩ := insertRelationship_eq_ok_iff.1 hstored
  intro snapshot hsnapshot htype origin horigin other hother hjoins
  rcases Ordered.mem_of_mem_insert hother with rfl | hold
  · have hsource : other.source = source.stub := by
      rw [hedge]
      rfl
    have hdestination : other.destination = destination.stub := by
      rw [hedge]
      rfl
    rw [Relationship.Joins, hsource, hdestination] at hjoins
    rcases hjoins with ⟨hstub, hother⟩ | ⟨hother, hstub⟩
    · exact origin_ne_of_checkSnapshot hintegrity hsnapshot htype horigin hstub
        hjoinable.sourceApart hother.symm
    · exact origin_ne_of_checkSnapshot hintegrity hsnapshot htype horigin hstub
        hjoinable.destinationApart hother.symm
  · exact hapart snapshot hsnapshot htype origin horigin other hold hjoins

theorem stable : Stable fun store => store.Integrity ∧ store.SnapshotsApart where
  record hstore hcheck hstored :=
    ⟨Integrity.stable.record hstore.1 hcheck hstored,
      insertObject hstore.1 hstore.2 hstored⟩
  run hstore hstored := by
    refine ⟨Integrity.stable.run hstore.1 hstored, ?_⟩
    obtain ⟨_, _, _, _, rfl⟩ := insertAutomapping_eq_ok_iff.1 hstored
    exact hstore.2
  edge hstore hjoinable hstored :=
    ⟨Integrity.stable.edge hstore.1 hjoinable hstored,
      insertRelationship hstore.1 hstore.2 hjoinable hstored⟩
  edgesGone store gone hstore := by
    refine ⟨hstore.1.withoutEdges gone, hstore.2.mono (fun _ hobject => hobject) ?_⟩
    intro edge hedge
    obtain ⟨old, hold, _, rfl⟩ := mem_withoutEdges_iff.1 hedge
    exact ⟨old, hold, rfl, rfl⟩
  recordGone store stub hstore huntouched := by
    refine ⟨hstore.1.removeObject huntouched, hstore.2.mono ?_ ?_⟩
    · intro object hobject
      exact (List.mem_filter.1 hobject).1
    · intro edge hedge
      exact ⟨edge, hedge, rfl, rfl⟩

end SnapshotsApart

end Store

/-- After any calls on a fresh store no edge joins a stored snapshot with its recorded origin. -/
theorem GraphCall.snapshotsApart_run (calls : List GraphCall) :
    (GraphCall.run calls {}).store.SnapshotsApart :=
  (Store.SnapshotsApart.stable.run_empty
    ⟨Store.Integrity.empty, Store.SnapshotsApart.empty⟩ calls).2

end RecordGraph
