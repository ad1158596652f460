import RecordGraph.Proofs.EdgeChanges

/-!
# One store after another

Numbers are given out in increasing order, so that under the numbers known to an old store a later
store holds what the old one held, or nothing.  What it holds is unchanged, but for references to
edges that are removed, which are forgotten.  Every elementary change of the graph keeps this.
-/

namespace RecordGraph

/-! ## Rows as of a later store -/

/-- The reference to an edge, forgotten unless the edge is stored. -/
def Store.remembered (store : Store) (reference : Option Int) : Option Int :=
  reference.filter store.hasRelationship

/-- The edge with its parent forgotten unless it is stored. -/
def Relationship.asOf (edge : Relationship) (store : Store) : Relationship :=
  { edge with parentId := store.remembered edge.parentId }

/-- The run with its trigger forgotten unless it is stored. -/
def Automapping.asOf (run : Automapping) (store : Store) : Automapping :=
  { run with relationshipId := store.remembered run.relationshipId }

@[simp]
theorem Relationship.asOf_id (edge : Relationship) (store : Store) :
    (edge.asOf store).id = edge.id := rfl

@[simp]
theorem Automapping.asOf_id (run : Automapping) (store : Store) :
    (run.asOf store).id = run.id := rfl

namespace Store

variable {old store after : Store} {reference : Option Int}

theorem remembered_eq_some_iff {id : Int} :
    store.remembered reference = some id ↔
      reference = some id ∧ store.hasRelationship id = true := by
  simp [remembered, Option.filter_eq_some_iff]

theorem remembered_some (id : Int) :
    store.remembered (some id) = if store.hasRelationship id then some id else none := rfl

/-- What is stored is remembered. -/
theorem remembered_of_stored
    (hstored : ∀ id, reference = some id → store.hasRelationship id = true) :
    store.remembered reference = reference := by
  cases reference with
  | none => rfl
  | some id => simp [remembered, Option.filter, hstored id rfl]

theorem remembered_congr
    (hsame : ∀ id, reference = some id → after.hasRelationship id = store.hasRelationship id) :
    after.remembered reference = store.remembered reference := by
  cases reference with
  | none => rfl
  | some id => simp [remembered, Option.filter, hsame id rfl]

/-- What is removed is forgotten. -/
theorem filter_remembered (gone : List Int) :
    (store.remembered reference).filter (fun id => !gone.contains id) =
      (store.withoutEdges gone).remembered reference := by
  ext id
  simp only [Option.filter_eq_some_iff, remembered_eq_some_iff,
    hasRelationship_withoutEdges_iff]
  simp [and_assoc]

theorem forgetting_asOf (edge : Relationship) (gone : List Int) :
    (edge.asOf store).forgetting gone = edge.asOf (store.withoutEdges gone) := by
  simp only [Relationship.asOf, Relationship.forgetting, filter_remembered]

theorem forgetting_run_asOf (run : Automapping) (gone : List Int) :
    (run.asOf store).forgetting gone = run.asOf (store.withoutEdges gone) := by
  simp only [Automapping.asOf, Automapping.forgetting, filter_remembered]

/-! ## Numbers -/

/-- A new edge gets the number after the last. -/
theorem number_of_insertRelationship {request : Graph.Request} {actor : Actor} {now : Int}
    {source destination : Stub} {edge : Relationship}
    (hstored : store.insertRelationship (request.row actor now source destination) =
      .ok (edge, after)) :
    edge.id = store.lastRelationshipId + 1 ∧ after.lastRelationshipId = edge.id := by
  obtain ⟨id, hid, _, _, _, _, rfl, rfl⟩ := insertRelationship_eq_ok_iff.1 hstored
  have hnext : id = store.lastRelationshipId + 1 := (freshId?_eq_some_iff.1 hid).2
  refine ⟨hnext, ?_⟩
  simp only [NewEdge.edge]
  omega

/-- A new run gets the number after the last. -/
theorem number_of_insertAutomapping {row : NewAutomapping} {run : Automapping}
    (hstored : store.insertAutomapping row = .ok (run, after)) :
    run.id = store.lastAutomappingId + 1 ∧ after.lastAutomappingId = run.id := by
  obtain ⟨id, hid, _, rfl, rfl⟩ := insertAutomapping_eq_ok_iff.1 hstored
  have hnext : id = store.lastAutomappingId + 1 := (freshId?_eq_some_iff.1 hid).2
  refine ⟨hnext, ?_⟩
  simp only [NewAutomapping.run]
  omega

/-- No row has a number beyond the last, and a number names one run. -/
structure Numbered (store : Store) : Prop where
  edges : ∀ edge ∈ store.relationships, edge.id ≤ store.lastRelationshipId
  runs : ∀ run ∈ store.automappings, run.id ≤ store.lastAutomappingId
  runIds : store.automappings.Pairwise fun left right => left.id ≠ right.id

namespace Numbered

theorem empty : Numbered Store.empty where
  edges := by simp [Store.empty]
  runs := by simp [Store.empty]
  runIds := List.Pairwise.nil

/-- A new run joins the runs. -/
theorem automappings_insert_perm {row : NewAutomapping} {run : Automapping}
    (hnumbered : store.Numbered) (hstored : store.insertAutomapping row = .ok (run, after)) :
    after.automappings.Perm (run :: store.automappings) := by
  obtain ⟨hid, _⟩ := number_of_insertAutomapping hstored
  obtain ⟨_, _, _, _, rfl⟩ := insertAutomapping_eq_ok_iff.1 hstored
  apply Ordered.insert_perm
  intro other hother
  have hbound := hnumbered.runs other hother
  simp only [Automapping.before, decide_eq_true_eq]
  omega

theorem insertAutomapping {row : NewAutomapping} {run : Automapping} (hnumbered : store.Numbered)
    (hstored : store.insertAutomapping row = .ok (run, after)) : after.Numbered := by
  obtain ⟨hid, hlast⟩ := number_of_insertAutomapping hstored
  have hperm := hnumbered.automappings_insert_perm hstored
  have hnew : ∀ other ∈ store.automappings, other.id < run.id := by
    intro other hother
    have hbound := hnumbered.runs other hother
    omega
  refine ⟨?_, ?_, ?_⟩
  · obtain ⟨_, _, _, _, rfl⟩ := insertAutomapping_eq_ok_iff.1 hstored
    exact hnumbered.edges
  · intro other hother
    rw [hlast]
    rcases List.mem_cons.1 (hperm.mem_iff.1 hother) with rfl | hold
    · exact Int.le_refl _
    · exact Int.le_of_lt (hnew other hold)
  · apply pairwise_of_perm_cons hperm Ne.symm _ hnumbered.runIds
    intro other hother
    exact (Int.ne_of_lt (hnew other hother)).symm

theorem insertRelationship {request : Graph.Request} {actor : Actor} {now : Int}
    {source destination : Stub} {edge : Relationship} (hnumbered : store.Numbered)
    (hstored : store.insertRelationship (request.row actor now source destination) =
      .ok (edge, after)) : after.Numbered := by
  obtain ⟨hid, hlast⟩ := number_of_insertRelationship hstored
  obtain ⟨_, _, _, _, _, _, _, rfl⟩ := insertRelationship_eq_ok_iff.1 hstored
  refine { hnumbered with edges := ?_ }
  intro other hother
  rw [hlast]
  rcases Ordered.mem_of_mem_insert hother with rfl | hold
  · exact Int.le_refl _
  · have hbound := hnumbered.edges other hold
    omega

theorem withoutEdges (hnumbered : store.Numbered) (gone : List Int) :
    (store.withoutEdges gone).Numbered := by
  refine ⟨?_, ?_, List.pairwise_map.2 hnumbered.runIds⟩
  · intro edge hedge
    obtain ⟨old, hold, _, rfl⟩ := mem_withoutEdges_iff.1 hedge
    exact hnumbered.edges old hold
  · intro run hrun
    obtain ⟨old, hold, rfl⟩ := List.mem_map.1 hrun
    exact hnumbered.runs old hold

theorem stable : Stable Numbered where
  record hnumbered _ hstored := by
    obtain ⟨_, _, rfl⟩ := insertObject_eq_ok_iff.1 hstored
    exact ⟨hnumbered.edges, hnumbered.runs, hnumbered.runIds⟩
  run hnumbered hstored := hnumbered.insertAutomapping hstored
  edge hnumbered _ hstored := hnumbered.insertRelationship hstored
  edgesGone _ gone hnumbered := hnumbered.withoutEdges gone
  recordGone _ _ hnumbered _ := ⟨hnumbered.edges, hnumbered.runs, hnumbered.runIds⟩

end Numbered

/-! ## One store after another -/

/-- Under the numbers that an old store has given out, a later store holds the runs of the old one
and some of its edges. -/
structure Continues (old store : Store) : Prop where
  lastEdge : old.lastRelationshipId ≤ store.lastRelationshipId
  lastRun : old.lastAutomappingId ≤ store.lastAutomappingId
  edges : ∀ edge ∈ store.relationships, edge.id ≤ old.lastRelationshipId →
    ∃ first ∈ old.relationships, edge = first.asOf store
  runs : ∀ run, run.id ≤ old.lastAutomappingId →
    (run ∈ store.automappings ↔ ∃ first ∈ old.automappings, run = first.asOf store)

namespace Continues

theorem refl (hintegrity : old.Integrity) : old.Continues old := by
  have hedge : ∀ edge ∈ old.relationships, edge.asOf old = edge := by
    intro edge hedge
    rw [Relationship.asOf, remembered_of_stored (hintegrity.parents edge hedge)]
  have hrun : ∀ run ∈ old.automappings, run.asOf old = run := by
    intro run hrun
    rw [Automapping.asOf, remembered_of_stored (hintegrity.triggers run hrun)]
  refine ⟨Int.le_refl _, Int.le_refl _, ?_, ?_⟩
  · intro edge hmem _
    exact ⟨edge, hmem, (hedge edge hmem).symm⟩
  · intro run _
    constructor
    · intro hmem
      exact ⟨run, hmem, (hrun run hmem).symm⟩
    · intro hfirst
      obtain ⟨first, hmem, rfl⟩ := hfirst
      rw [hrun first hmem]
      exact hmem

/-- Only the edges, the runs and the numbers matter. -/
theorem congr (hcontinues : old.Continues store)
    (hedges : after.relationships = store.relationships)
    (hruns : after.automappings = store.automappings)
    (hlastEdge : after.lastRelationshipId = store.lastRelationshipId)
    (hlastRun : after.lastAutomappingId = store.lastAutomappingId) : old.Continues after := by
  have hstored : ∀ id, after.hasRelationship id = store.hasRelationship id := by
    intro id
    rw [hasRelationship, hedges, hasRelationship]
  have hremembered : ∀ reference, after.remembered reference = store.remembered reference :=
    fun reference => remembered_congr fun id _ => hstored id
  have hedge : ∀ edge : Relationship, edge.asOf after = edge.asOf store := by
    intro edge
    rw [Relationship.asOf, hremembered, Relationship.asOf]
  have hrun : ∀ run : Automapping, run.asOf after = run.asOf store := by
    intro run
    rw [Automapping.asOf, hremembered, Automapping.asOf]
  refine ⟨?_, ?_, ?_, ?_⟩
  · rw [hlastEdge]
    exact hcontinues.lastEdge
  · rw [hlastRun]
    exact hcontinues.lastRun
  · simp only [hedges, hedge]
    exact hcontinues.edges
  · simp only [hruns, hrun]
    exact hcontinues.runs

theorem insertAutomapping {row : NewAutomapping} {run : Automapping}
    (hcontinues : old.Continues store)
    (hstored : store.insertAutomapping row = .ok (run, after)) : old.Continues after := by
  obtain ⟨hid, hlast⟩ := number_of_insertAutomapping hstored
  have hgrown := hcontinues.lastRun
  obtain ⟨_, _, _, _, rfl⟩ := insertAutomapping_eq_ok_iff.1 hstored
  refine ⟨hcontinues.lastEdge, ?_, hcontinues.edges, ?_⟩
  · omega
  · intro other hother
    -- The new run has a later number than any that the old store knew.
    have hnew : other ≠ run := by
      intro hsame
      rw [hsame] at hother
      omega
    refine Iff.trans ?_ (hcontinues.runs other hother)
    constructor
    · intro hmem
      exact (Ordered.mem_of_mem_insert hmem).resolve_left hnew
    · exact Ordered.mem_insert_of_mem

theorem insertRelationship {request : Graph.Request} {actor : Actor} {now : Int}
    {source destination : Stub} {edge : Relationship} (hintegrity : old.Integrity)
    (hnumbered : old.Numbered) (hcontinues : old.Continues store)
    (hstored : store.insertRelationship (request.row actor now source destination) =
      .ok (edge, after)) : old.Continues after := by
  obtain ⟨hid, hlast⟩ := number_of_insertRelationship hstored
  have hgrown := hcontinues.lastEdge
  -- A reference of the old store does not lead to the new edge.
  have hremembered : ∀ reference, (∀ id, reference = some id → old.hasRelationship id = true) →
      after.remembered reference = store.remembered reference := by
    intro reference hold
    apply remembered_congr
    intro id hreference
    obtain ⟨other, hother, hnumber⟩ := hasRelationship_iff.1 (hold id hreference)
    have hbound := hnumbered.edges other hother
    have hne : id ≠ edge.id := by omega
    rw [Bool.eq_iff_iff, hasRelationship_of_insertRelationship hstored, or_iff_right hne]
  have hedges : ∀ first ∈ old.relationships, first.asOf after = first.asOf store := by
    intro first hfirst
    rw [Relationship.asOf, hremembered _ (hintegrity.parents first hfirst), Relationship.asOf]
  have hruns : ∀ first ∈ old.automappings, first.asOf after = first.asOf store := by
    intro first hfirst
    rw [Automapping.asOf, hremembered _ (hintegrity.triggers first hfirst), Automapping.asOf]
  obtain ⟨_, _, _, _, _, _, _, hafter⟩ := insertRelationship_eq_ok_iff.1 hstored
  refine ⟨?_, ?_, ?_, ?_⟩
  · omega
  · rw [hafter]
    exact hcontinues.lastRun
  · intro other hother hknown
    rw [hafter] at hother
    rcases Ordered.mem_of_mem_insert hother with rfl | hold
    · omega
    · obtain ⟨first, hfirst, hsame⟩ := hcontinues.edges other hold hknown
      exact ⟨first, hfirst, hsame.trans (hedges first hfirst).symm⟩
  · intro run hknown
    have hsame : after.automappings = store.automappings := by rw [hafter]
    rw [hsame, hcontinues.runs run hknown]
    refine exists_congr fun first => and_congr_right fun hfirst => ?_
    rw [hruns first hfirst]

theorem withoutEdges (hcontinues : old.Continues store) (gone : List Int) :
    old.Continues (store.withoutEdges gone) := by
  refine ⟨hcontinues.lastEdge, hcontinues.lastRun, ?_, ?_⟩
  · intro edge hedge hknown
    obtain ⟨kept, hkept, _, rfl⟩ := mem_withoutEdges_iff.1 hedge
    obtain ⟨first, hfirst, rfl⟩ := hcontinues.edges kept hkept hknown
    exact ⟨first, hfirst, forgetting_asOf first gone⟩
  · intro run hknown
    constructor
    · intro hrun
      obtain ⟨kept, hkept, rfl⟩ := List.mem_map.1 hrun
      obtain ⟨first, hfirst, rfl⟩ := (hcontinues.runs kept hknown).1 hkept
      exact ⟨first, hfirst, forgetting_run_asOf first gone⟩
    · intro hfirst
      obtain ⟨first, hfirst, rfl⟩ := hfirst
      have hkept : first.asOf store ∈ store.automappings :=
        (hcontinues.runs (first.asOf store) hknown).2 ⟨first, hfirst, rfl⟩
      exact List.mem_map.2 ⟨_, hkept, forgetting_run_asOf first gone⟩

/-- No run is removed. -/
theorem run_stays (hcontinues : old.Continues store) (hnumbered : old.Numbered)
    {run : Automapping} (hrun : run ∈ old.automappings) : run.asOf store ∈ store.automappings :=
  (hcontinues.runs (run.asOf store) (hnumbered.runs run hrun)).2 ⟨run, hrun, rfl⟩

theorem stable (hintegrity : old.Integrity) (hnumbered : old.Numbered) :
    Stable old.Continues where
  record hcontinues _ hstored := by
    obtain ⟨_, _, rfl⟩ := insertObject_eq_ok_iff.1 hstored
    exact hcontinues.congr rfl rfl rfl rfl
  run hcontinues hstored := hcontinues.insertAutomapping hstored
  edge hcontinues _ hstored := hcontinues.insertRelationship hintegrity hnumbered hstored
  edgesGone _ gone hcontinues := hcontinues.withoutEdges gone
  recordGone _ _ hcontinues _ := hcontinues.congr rfl rfl rfl rfl

end Continues

/-- A reference to a stored edge is forgotten where a change loses the edge. -/
theorem remembered_ne_iff
    (hstored : ∀ id, reference = some id → store.hasRelationship id = true) :
    after.remembered reference ≠ reference ↔
      ∃ edge, reference = some edge.id ∧ store.Loses after edge := by
  cases reference with
  | none => simp [remembered]
  | some id =>
    obtain ⟨edge, hedge, rfl⟩ := hasRelationship_iff.1 (hstored id rfl)
    cases hkept : after.hasRelationship edge.id with
    | true =>
      have hsame : after.remembered (some edge.id) = some edge.id :=
        remembered_eq_some_iff.2 ⟨rfl, hkept⟩
      simp only [hsame, ne_eq, not_true_eq_false, false_iff, not_exists, not_and]
      intro other hid hloses
      rw [Option.some.inj hid, hasRelationship_eq_false_iff.2 hloses.2] at hkept
      cases hkept
    | false =>
      have hnone : after.remembered (some edge.id) = none := by
        simp [remembered, Option.filter, hkept]
      simp only [hnone, ne_eq, reduceCtorEq, not_false_eq_true, true_iff]
      exact ⟨edge, rfl, hedge, hasRelationship_eq_false_iff.1 hkept⟩

theorem remembered_eq_none_of_ne (hne : store.remembered reference ≠ reference) :
    store.remembered reference = none := by
  rw [Option.eq_none_iff_forall_ne_some]
  intro id hid
  rw [hid, (remembered_eq_some_iff.1 hid).1] at hne
  exact hne rfl

end Store

end RecordGraph
