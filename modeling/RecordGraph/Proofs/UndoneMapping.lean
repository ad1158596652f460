import RecordGraph.Proofs.Requirements

/-!
# Deleting undoes creating

Whoever has made an edge may remove it again, but for an external actor, who removes external edges
only.  What is left then is the store as it was, down to the last row: the policy asks the same of
both calls, the row reads back as it was made, and since the number of the edge is new, no row has
had the time to refer to it.  Only the number is spent, and the same request made again gets the
next one.
-/

namespace RecordGraph

namespace Store

variable {store : Store}

/-- The store with its numbers of edges given out up to `id`. -/
def countedTo (store : Store) (id : Int) : Store := { store with lastRelationshipId := id }

/-- No row refers to the next number. -/
theorem Numbered.ne_next (hnumbered : store.Numbered) {id : Int}
    (hstored : store.hasRelationship id = true) : id ≠ store.lastRelationshipId + 1 := by
  rintro rfl
  rw [hnumbered.hasRelationship_next] at hstored
  cases hstored

theorem Numbered.countedTo (hnumbered : store.Numbered) {id : Int}
    (hlast : store.lastRelationshipId ≤ id) : (store.countedTo id).Numbered where
  edges edge hedge := Int.le_trans (hnumbered.edges edge hedge) hlast
  runs := hnumbered.runs
  runIds := hnumbered.runIds

/-- An edge that has just been stored goes without a trace, but for its number. -/
theorem removeRelationship_withEdge (hnumbered : store.Numbered) (hkeys : store.ForeignKeys)
    {edge : Relationship} (hid : edge.id = store.lastRelationshipId + 1) :
    (store.withEdge edge).removeRelationship edge.id = store.countedTo edge.id := by
  have hkept : (store.relationships ++ [edge]).filter (fun other => other.id != edge.id) =
      store.relationships := by
    rw [List.filter_append, List.filter_cons_of_neg (by simp), List.filter_nil, List.append_nil]
    refine List.filter_eq_self.2 fun other hother => bne_iff_ne.2 ?_
    rw [hid]
    exact hnumbered.ne_next (hasRelationship_iff.2 ⟨other, hother, rfl⟩)
  have hparents : ∀ other ∈ store.relationships, clearParent edge.id other = other := by
    intro other hother
    rw [clearParent, if_neg]
    intro hparent
    exact hnumbered.ne_next (hkeys.parents other hother edge.id (beq_iff_eq.1 hparent)) hid
  have htriggers : ∀ run ∈ store.automappings, clearTrigger edge.id run = run := by
    intro run hrun
    rw [clearTrigger, if_neg]
    intro htrigger
    exact hnumbered.ne_next (hkeys.triggers run hrun edge.id (beq_iff_eq.1 htrigger)) hid
  simp only [removeRelationship, withEdge, hkept]
  rw [List.map_congr_left hparents, List.map_congr_left htriggers, List.map_id', List.map_id']
  rfl

end Store

namespace Graph

variable {registry : TypeRegistry} {actor : Actor} {now : Int} {request : Request}
variable {store after : Store} {edge : Relationship}

/-- An edge is made only while there are numbers left. -/
theorem room_of_create
    (hcreated : Transition.create registry actor now request store = .ok (edge, after)) :
    store.lastRelationshipId < Decimal.maxId := by
  obtain ⟨_, _, _, hstored⟩ := Transition.create_eq_ok_iff.1 hcreated
  obtain ⟨_, hid, _⟩ := Store.insertRelationship_eq_ok_iff.1 hstored
  exact (Store.freshId?_eq_some_iff.1 hid).1

/-- The actor that has made an edge may remove it, unless the actor is external and the edge is
not. -/
theorem checkDelete_created
    (hcreated : Transition.create registry actor now request store = .ok (edge, after)) :
    checkDelete registry actor edge = .ok () ↔
      (actor.external = true → edge.external = true) := by
  obtain ⟨source, destination, hcheck, hstored⟩ := Transition.create_eq_ok_iff.1 hcreated
  obtain ⟨_, _, hjoinable⟩ := checkRequest_eq_ok_iff.1 hcheck
  obtain ⟨id, _, _, _, _, _, rfl, _⟩ := Store.insertRelationship_eq_ok_iff.1 hstored
  rw [checkDelete_eq_ok_iff]
  exact and_iff_right hjoinable.allowed

/-- After an edge was made, its maker removes it, if at all, without a trace. -/
theorem delete_created_eq_ok_iff (hnumbered : store.Numbered) (hkeys : store.ForeignKeys)
    (hcreated : Transition.create registry actor now request store = .ok (edge, after))
    {removed : Relationship} {rest : Store} :
    Transition.delete registry actor edge.id after = .ok (removed, rest) ↔
      (actor.external = true → edge.external = true) ∧ removed = edge ∧
        rest = store.countedTo edge.id := by
  have hallowed := checkDelete_created hcreated
  obtain ⟨hid, _, rfl⟩ := made_of_create hnumbered (room_of_create hcreated) hcreated
  rw [Transition.delete_eq_ok_iff, hnumbered.relationship?_withEdge hid, Option.some.injEq]
  constructor
  · rintro ⟨rfl, hcheck, hrest⟩
    rw [Store.removeRelationship_withEdge hnumbered hkeys hid] at hrest
    exact ⟨hallowed.1 hcheck, rfl, hrest⟩
  · rintro ⟨hmay, rfl, hrest⟩
    rw [Store.removeRelationship_withEdge hnumbered hkeys hid]
    exact ⟨rfl, hallowed.2 hmay, hrest⟩

/-- The same request makes the same edge again, under the next number and at its own time, for as
long as there are numbers left. -/
theorem create_again_eq_ok_iff (hnumbered : store.Numbered)
    (hparent : ∀ parent, request.parentId = some parent → store.hasRelationship parent = true)
    (hcreated : Transition.create registry actor now request store = .ok (edge, after))
    (later : Int) {again : Relationship} :
    (∃ next, Transition.create registry actor later request (store.countedTo edge.id) =
        .ok (again, next)) ↔
      edge.id < Decimal.maxId ∧
        again = { edge with id := edge.id + 1, createdAt := later, updatedAt := later } := by
  obtain ⟨hid, _⟩ := made_of_create hnumbered (room_of_create hcreated) hcreated
  obtain ⟨source, destination, hcheck, hstored⟩ := Transition.create_eq_ok_iff.1 hcreated
  obtain ⟨_, _, _, hpair, _, hrun, hedge, _⟩ := Store.insertRelationship_eq_ok_iff.1 hstored
  have hcounted : (store.countedTo edge.id).Numbered := hnumbered.countedTo (by omega)
  let row : NewEdge := request.row actor later source.stub destination.stub
  have hinserted : edge.id < Decimal.maxId → (store.countedTo edge.id).insertRelationship row =
      .ok (row.edge (edge.id + 1), _) := fun hroom =>
    Store.insertRelationship_eq_ok_iff.2
      ⟨edge.id + 1, Store.freshId?_eq_some_iff.2 ⟨hroom, rfl⟩, hcounted.hasRelationship_next, hpair,
        fun parent hnames => .inr (hparent parent hnames), hrun, rfl, rfl⟩
  have hmade : edge.id < Decimal.maxId →
      Transition.create registry actor later request (store.countedTo edge.id) =
        .ok (row.edge (edge.id + 1), _) := fun hroom =>
    Transition.create_eq_ok_iff.2 ⟨source, destination, hcheck, hinserted hroom⟩
  have hagain : { edge with id := edge.id + 1, createdAt := later, updatedAt := later } =
      row.edge (edge.id + 1) := by
    rw [hedge]
    rfl
  rw [hagain]
  constructor
  · rintro ⟨next, hrepeated⟩
    have hroom : edge.id < Decimal.maxId := room_of_create hrepeated
    rw [hmade hroom] at hrepeated
    cases hrepeated
    exact ⟨hroom, rfl⟩
  · rintro ⟨hroom, rfl⟩
    exact ⟨_, hmade hroom⟩

/-- An edge that has just been made may be removed again by its maker, if the maker is internal or
the edge is external.  The call returns the edge and leaves everything as it was before the edge was
made, but for the number, which is spent: the same request then makes the same edge under the next
number, as long as there is one. -/
theorem delete_undoes_create (registry : TypeRegistry) (actor : Actor) (now later : Int)
    (request : Request) (connection : Connection) (edge : Relationship)
    (hnumbered : connection.store.Numbered) (hkeys : connection.store.ForeignKeys)
    (hparent : ∀ parent, request.parentId = some parent →
      connection.store.hasRelationship parent = true)
    (hcreated : (create registry actor now request connection).result = .ok edge) :
    let created := (create registry actor now request connection).connection
    let deleted := delete registry actor edge.id created
    let repeated := create registry actor later request deleted.connection
    connection.store.lastRelationshipId < edge.id ∧
      (∀ removed, deleted.result = .ok removed ↔
        (actor.external = true → edge.external = true) ∧ removed = edge) ∧
      ((actor.external = true → edge.external = true) →
        deleted.connection = { connection with
          store := { connection.store with lastRelationshipId := edge.id } } ∧
        ∀ again, repeated.result = .ok again ↔
          edge.id < Decimal.maxId ∧
            again = { edge with id := edge.id + 1, createdAt := later, updatedAt := later }) := by
  intro created deleted repeated
  obtain ⟨after, hmade⟩ := (realizes_create registry actor now request).result_eq_ok_iff.1 hcreated
  have hafter : created = { connection with store := after } :=
    (realizes_create registry actor now request).connection_of_ok hmade
  have hdeletes := realizes_delete registry actor edge.id
  have hremoves : ∀ {removed rest},
      Transition.delete registry actor edge.id created.store = .ok (removed, rest) ↔
        (actor.external = true → edge.external = true) ∧ removed = edge ∧
          rest = connection.store.countedTo edge.id := by
    rw [hafter]
    exact delete_created_eq_ok_iff hnumbered hkeys hmade
  obtain ⟨hid, _⟩ := made_of_create hnumbered (room_of_create hmade) hmade
  refine ⟨by omega, fun removed => ?_, fun hmay => ?_⟩
  · simp only [deleted, hdeletes.result_eq_ok_iff, hremoves, exists_and_left, exists_eq, and_true]
  · have hrestored : deleted.connection =
        { connection with store := connection.store.countedTo edge.id } := by
      have hconnection : deleted.connection = { created with store := _ } :=
        hdeletes.connection_of_ok (hremoves.2 ⟨hmay, rfl, rfl⟩)
      rw [hconnection, hafter]
    refine ⟨hrestored, fun again => ?_⟩
    simp only [repeated, hrestored, (realizes_create registry actor later request).result_eq_ok_iff]
    exact create_again_eq_ok_iff hnumbered hparent hmade later

/-- The store of a mapped control, with a run that its edge set off. -/
def mappedOnce : Connection where
  store :=
    { mappedControl.store with
      automappings :=
        [{ id := 1, relationshipId := some 1, source := ⟨"Control", 1⟩
           destination := ⟨"Objective", 3⟩, modifiedBy := none, createdAt := 0 }]
      lastAutomappingId := 1 }

/-- An internal edge from the objective to the regulation, derived from the first edge in that
run. -/
def followingRequest : Request :=
  { source := some (Object.draft "Objective" 3 "o")
    destination := some (Object.draft "Regulation" 2 "r")
    parentId := some 1
    automappingId := some 1 }

/-- The edge gets the number 2.  An internal actor removes it again, which leaves the store as it
was but for the number, and makes it again under the number 3.  An external actor may make the edge
as well, but not remove it. -/
theorem following_mapping_undone :
    ∃ edge, (create .builtin ⟨1, false⟩ 5 followingRequest mappedOnce).result = .ok edge ∧
      let created := (create .builtin ⟨1, false⟩ 5 followingRequest mappedOnce).connection
      let deleted := delete .builtin ⟨1, false⟩ edge.id created
      deleted.result = .ok edge ∧
        deleted.connection.store = { mappedOnce.store with lastRelationshipId := 2 } ∧
        (create .builtin ⟨1, false⟩ 8 followingRequest deleted.connection).result =
          .ok { edge with id := 3, createdAt := 8, updatedAt := 8 } ∧
        (delete .builtin ⟨1, true⟩ edge.id
          (create .builtin ⟨1, true⟩ 5 followingRequest mappedOnce).connection).result =
            .error (.validation .notExternal) := by
  have hnumbered : mappedOnce.store.Numbered := ⟨by decide, by decide, by decide⟩
  have hkeys : mappedOnce.store.ForeignKeys := ⟨by decide, by decide, by decide⟩
  have hparent : ∀ parent, followingRequest.parentId = some parent →
      mappedOnce.store.hasRelationship parent = true := by
    rintro _ ⟨⟩
    rfl
  have hcreated : (create .builtin ⟨1, false⟩ 5 followingRequest mappedOnce).result =
      .ok ((followingRequest.row ⟨1, false⟩ 5 ⟨"Objective", 3⟩ ⟨"Regulation", 2⟩).edge 2) := rfl
  obtain ⟨_, hremoved, hundone⟩ := delete_undoes_create .builtin ⟨1, false⟩ 5 8 followingRequest
    mappedOnce _ hnumbered hkeys hparent hcreated
  have hinternal : (⟨1, false⟩ : Actor).external = true → followingRequest.external = true :=
    fun hexternal => absurd hexternal (by decide)
  obtain ⟨hrestored, hrepeated⟩ := hundone hinternal
  exact ⟨_, hcreated, (hremoved _).2 ⟨hinternal, rfl⟩, congrArg Connection.store hrestored,
    (hrepeated _).2 ⟨by decide, rfl⟩, rfl⟩

end Graph

end RecordGraph
