import RecordGraph.Proofs.FailureAtomicity

/-!
# Removing a record with its edges

A record goes together with every edge that touches it, or it stays because one of these edges may
not be removed; of several, the one with the smallest number is reported.  The edges are found from
both sides, put in order and removed one after the other, and an edge that waits for its turn may
lose its parent to one before it.  What this comes to is said here in one step: the rows that are
left, and the references to removed edges that are forgotten in them.  All of it rests on the key of
the table of edges, by which a number names one edge.
-/

namespace RecordGraph

/-! ## The first refusal -/

/-- Of edges in the order of their numbers, the first that may not be removed decides. -/
theorem Graph.checkDeletes_eq_error_iff {registry : TypeRegistry} {actor : Actor}
    {edges : List Relationship} {error : GraphError}
    (hordered : edges.Pairwise fun left right => left.id < right.id) :
    checkDeletes registry actor edges = .error error ↔
      ∃ edge ∈ edges, checkDelete registry actor edge = .error error ∧
        ∀ earlier ∈ edges, earlier.id < edge.id → checkDelete registry actor earlier = .ok () := by
  induction edges with
  | nil => simp [checkDeletes]
  | cons head rest ih =>
    obtain ⟨hhead, hrest⟩ := List.pairwise_cons.1 hordered
    rw [checkDeletes]
    cases hcheck : checkDelete registry actor head with
    | error found =>
      constructor
      · rintro ⟨⟩
        have hnone : ∀ earlier ∈ head :: rest, ¬earlier.id < head.id := by
          refine List.forall_mem_cons.2 ⟨Int.lt_irrefl _, fun earlier hearlier => ?_⟩
          exact Int.lt_asymm (hhead earlier hearlier)
        exact ⟨head, List.mem_cons_self, hcheck,
          fun earlier hearlier hless => absurd hless (hnone earlier hearlier)⟩
      · rintro ⟨edge, hedge, herror, hearlier⟩
        rcases List.mem_cons.1 hedge with rfl | hlater
        · rw [← herror, hcheck]
          rfl
        · have hpassed := hearlier head List.mem_cons_self (hhead edge hlater)
          rw [hcheck] at hpassed
          cases hpassed
    | ok _ =>
      change checkDeletes registry actor rest = .error error ↔ _
      rw [ih hrest]
      constructor
      · rintro ⟨edge, hedge, herror, hearlier⟩
        exact ⟨edge, List.mem_cons_of_mem head hedge, herror,
          List.forall_mem_cons.2 ⟨fun _ => hcheck, hearlier⟩⟩
      · rintro ⟨edge, hedge, herror, hearlier⟩
        rcases List.mem_cons.1 hedge with rfl | hlater
        · rw [hcheck] at herror
          cases herror
        · exact ⟨edge, hlater, herror, (List.forall_mem_cons.1 hearlier).2⟩

namespace Store

variable {store : Store} {stub : Stub}

/-! ## The edges that go -/

theorem edgesTouching_ordered (store : Store) (stub : Stub) :
    (store.edgesTouching stub).Pairwise fun left right => left.id < right.id := by
  have hordered : (store.edgesTouching stub).Pairwise
      fun left right => left.before right = true :=
    Ordered.pairwise_ofList _ Relationship.before_trans
  exact hordered.imp of_decide_eq_true

/-- Where a number names one edge, the edges that go are those that touch the record. -/
theorem mem_edgesTouching_iff
    (hids : store.relationships.Pairwise fun left right => left.id ≠ right.id)
    {edge : Relationship} :
    edge ∈ store.edgesTouching stub ↔
      edge ∈ store.relationships ∧ edge.touches stub = true := by
  constructor
  · exact mem_of_mem_edgesTouching
  · rintro ⟨hedge, htouches⟩
    obtain ⟨found, hfound, hid⟩ := exists_edgesTouching hedge htouches
    have hstored := (mem_of_mem_edgesTouching hfound).1
    rwa [← edge_eq_of_id_eq hids hedge hstored hid]

/-! ## The rows that stay -/

/-- The store without a record and the edges that touch it, every reference to these forgotten. -/
def withoutRecord (store : Store) (stub : Stub) : Store :=
  let gone := (store.relationships.filter (fun edge => edge.touches stub)).map Relationship.id
  { store with
    objects := store.objects.filter (fun object => object.stub != stub)
    relationships := (store.relationships.filter (fun edge => !edge.touches stub)).map
      (fun edge => edge.forgetting gone)
    automappings := store.automappings.map (fun run => run.forgetting gone) }

/-- Which edges go is a matter of their numbers, not of their order. -/
theorem withoutEdges_congr (store : Store) {gone more : List Int}
    (hsame : ∀ id, id ∈ gone ↔ id ∈ more) : store.withoutEdges gone = store.withoutEdges more := by
  have hcontains : ∀ id, gone.contains id = more.contains id := by
    intro id
    rw [Bool.eq_iff_iff, List.contains_iff_mem, List.contains_iff_mem]
    exact hsame id
  simp only [withoutEdges, Relationship.forgetting, Automapping.forgetting, hcontains]

/-- Where a number names one edge, removing the edges that touch a record and then the record leaves
the store without them. -/
theorem removeObject_removeRelationships
    (hids : store.relationships.Pairwise fun left right => left.id ≠ right.id) (stub : Stub) :
    (store.removeRelationships (store.edgesTouching stub)).removeObject stub =
      store.withoutRecord stub := by
  have hgone : ∀ id, id ∈ (store.edgesTouching stub).map Relationship.id ↔
      id ∈ (store.relationships.filter (fun edge => edge.touches stub)).map Relationship.id := by
    intro id
    simp only [List.mem_map, mem_edgesTouching_iff hids, List.mem_filter]
  have hkept : ∀ edge ∈ store.relationships,
      (!((store.relationships.filter (fun edge => edge.touches stub)).map
        Relationship.id).contains edge.id) = !edge.touches stub := by
    intro edge hedge
    rw [contains_id_filter hids _ hedge]
  rw [removeRelationships_eq_withoutEdges, withoutEdges_congr store hgone, withoutEdges,
    List.filter_congr hkept]
  rfl

end Store

/-! ## The removal -/

theorem Transition.deleteObject_eq_error_iff {registry : TypeRegistry} {actor : Actor}
    {stub : Stub} {store : Store} {error : GraphError} :
    deleteObject registry actor stub store = .error error ↔
      (store.hasObject stub = false ∧ error = .notFound "object" stub.text) ∨
        (store.hasObject stub = true ∧
          Graph.checkDeletes registry actor (store.edgesTouching stub) = .error error) := by
  rw [deleteObject]
  cases store.hasObject stub with
  | false => simp [eq_comm]
  | true => simp [bind_eq_error_iff, pure, Except.pure]

namespace Graph

/-- A record is removed if and only if it is stored and every edge that touches it may be removed.
The result is then each of these edges once, in the order of their numbers and as they were stored,
and what is left is the store without them and the record.  Otherwise nothing is changed, and it is
reported that the record is not stored, or why the first of the edges that may not be removed may
not. -/
theorem deleteObject_removes_record (registry : TypeRegistry) (actor : Actor) (stub : Stub)
    (connection : Connection)
    (hids : connection.store.relationships.Pairwise fun left right => left.id ≠ right.id) :
    let store := connection.store
    let outcome := deleteObject registry actor stub connection
    ((∃ removed, outcome.result = .ok removed) ↔
      store.hasObject stub = true ∧
        ∀ edge ∈ store.relationships, edge.touches stub = true →
          checkDelete registry actor edge = .ok ()) ∧
      (∀ removed, outcome.result = .ok removed →
        (removed.Pairwise fun left right => left.id < right.id) ∧
          (∀ edge, edge ∈ removed ↔ edge ∈ store.relationships ∧ edge.touches stub = true) ∧
          outcome.connection = { connection with store := store.withoutRecord stub }) ∧
      ∀ error,
        (outcome.result = .error error ↔
          (store.hasObject stub = false ∧ error = .notFound "object" stub.text) ∨
            (store.hasObject stub = true ∧ ∃ edge ∈ store.relationships,
              edge.touches stub = true ∧ checkDelete registry actor edge = .error error ∧
                ∀ earlier ∈ store.relationships, earlier.touches stub = true →
                  earlier.id < edge.id → checkDelete registry actor earlier = .ok ())) ∧
          (outcome.result = .error error → outcome.connection = connection) := by
  intro store outcome
  have hrealizes := realizes_deleteObject registry actor stub
  have hmem : ∀ edge, edge ∈ store.edgesTouching stub ↔
      edge ∈ store.relationships ∧ edge.touches stub = true :=
    fun _ => Store.mem_edgesTouching_iff hids
  refine ⟨?_, ?_, ?_⟩
  · simp only [outcome, hrealizes.result_eq_ok_iff, Transition.deleteObject_eq_ok_iff,
      checkDeletes_eq_ok_iff]
    constructor
    · rintro ⟨_, _, hstored, rfl, hpassed, _⟩
      exact ⟨hstored, fun edge hedge htouches => hpassed edge ((hmem edge).2 ⟨hedge, htouches⟩)⟩
    · rintro ⟨hstored, hpassed⟩
      refine ⟨_, _, hstored, rfl, fun edge hedge => ?_, rfl⟩
      obtain ⟨hkept, htouches⟩ := (hmem edge).1 hedge
      exact hpassed edge hkept htouches
  · intro removed hremoved
    obtain ⟨after, hdeleted⟩ := hrealizes.result_eq_ok_iff.1 hremoved
    have hconnection : outcome.connection = { connection with store := after } :=
      hrealizes.connection_of_ok hdeleted
    obtain ⟨_, rfl, _, rfl⟩ := Transition.deleteObject_eq_ok_iff.1 hdeleted
    rw [hconnection, Store.removeObject_removeRelationships hids]
    exact ⟨store.edgesTouching_ordered stub, hmem, rfl⟩
  · intro error
    constructor
    · rw [hrealizes.result_eq_error_iff, Transition.deleteObject_eq_error_iff,
        checkDeletes_eq_error_iff (store.edgesTouching_ordered stub)]
      simp only [hmem, and_imp, and_assoc, store]
    · intro hrefused
      have hnumber := Transition.deleteObject_ne_full registry actor stub connection.store
      exact hrealizes.connection_eq_of_refused hnumber hrefused

/-- An edge of a control, an objective or a regulation. -/
def linkedEdge (id : Int) (source destination : Stub) (parentId : Option Int) : Relationship :=
  { id, source, destination, parentId, automappingId := none, external := false
    modifiedBy := none, createdAt := 0, updatedAt := 0 }

/-- A control with an edge to itself and edges to and from an objective, one of them the parent of
another edge of the control and of an edge that leads elsewhere; a second one set off a run. -/
def linkedControl : Connection where
  store :=
    { objects := [Object.draft "Control" 1 "c", Object.draft "Objective" 3 "o",
        Object.draft "Regulation" 2 "r"]
      relationships :=
        [linkedEdge 2 ⟨"Objective", 3⟩ ⟨"Control", 1⟩ none,
          linkedEdge 3 ⟨"Objective", 3⟩ ⟨"Regulation", 2⟩ (some 2),
          linkedEdge 4 ⟨"Control", 1⟩ ⟨"Control", 1⟩ (some 2),
          linkedEdge 5 ⟨"Control", 1⟩ ⟨"Objective", 3⟩ none]
      automappings :=
        [{ id := 1, relationshipId := some 5, source := ⟨"Control", 1⟩
           destination := ⟨"Objective", 3⟩, modifiedBy := none, createdAt := 0 }]
      lastRelationshipId := 5
      lastAutomappingId := 1 }

/-- An internal actor removes the control with three edges, and the edge that stays and the run
forget them.  An external actor may remove none of the edges, which are internal, and is refused. -/
theorem linked_control_removed :
    (linkedControl.store.relationships.Pairwise fun left right => left.id ≠ right.id) ∧
      (∃ removed,
        (deleteObject .builtin ⟨1, false⟩ ⟨"Control", 1⟩ linkedControl).result = .ok removed ∧
          (deleteObject .builtin ⟨1, false⟩ ⟨"Control", 1⟩ linkedControl).connection.store =
            linkedControl.store.withoutRecord ⟨"Control", 1⟩ ∧
          linkedEdge 4 ⟨"Control", 1⟩ ⟨"Control", 1⟩ (some 2) ∈ removed) ∧
      (linkedControl.store.withoutRecord ⟨"Control", 1⟩).relationships =
        [linkedEdge 3 ⟨"Objective", 3⟩ ⟨"Regulation", 2⟩ none] ∧
      (linkedControl.store.withoutRecord ⟨"Control", 1⟩).automappings.map
        Automapping.relationshipId = [none] ∧
      (deleteObject .builtin ⟨1, true⟩ ⟨"Control", 1⟩ linkedControl).result =
        .error (.validation .notExternal) := by
  have hids : linkedControl.store.relationships.Pairwise
      fun left right => left.id ≠ right.id := by decide
  obtain ⟨hinternal, hremoval, _⟩ :=
    deleteObject_removes_record .builtin ⟨1, false⟩ ⟨"Control", 1⟩ linkedControl hids
  obtain ⟨_, _, hexternal⟩ :=
    deleteObject_removes_record .builtin ⟨1, true⟩ ⟨"Control", 1⟩ linkedControl hids
  obtain ⟨removed, hremoved⟩ := hinternal.2 ⟨by decide, by decide⟩
  obtain ⟨_, hmem, hconnection⟩ := hremoval removed hremoved
  refine ⟨hids, ⟨removed, hremoved, by rw [hconnection], (hmem _).2 (by decide)⟩, by decide,
    by decide, ?_⟩
  refine (hexternal _).1.2 (.inr ⟨by decide, linkedEdge 2 ⟨"Objective", 3⟩ ⟨"Control", 1⟩ none, ?_⟩)
  exact ⟨by decide, by decide, by decide, by decide⟩

end Graph

end RecordGraph
