import RecordGraph.Proofs.RelatedQueries
import RecordGraph.Proofs.Requirements

/-!
# Deriving an edge against mapping its records

An edge is derived between two records only if no edge joins them yet, in either direction, and
this is asked before anything else.  Otherwise deriving an edge comes to mapping the two records:
the run that is recorded first changes nothing that the checks look at, the pair is free, and the
edge refers to a parent and a run that are both stored.  So it succeeds and fails just where a plain
request for the pair does, and for the same reason.
-/

namespace RecordGraph

/-! ## Records that are related already -/

theorem Store.findRelated?_eq_none_iff {store : Store} {first second : Stub} :
    store.findRelated? first second = none ↔
      ¬∃ edge ∈ store.relationships, edge.Joins first second := by
  rw [findRelated?, RelatedQuery.first?_eq_head?, RelatedQuery.all_eq_filter,
    List.head?_eq_none_iff, List.filter_eq_nil_iff]
  simp only [RelatedQuery.wants_ofStubs_iff, not_exists, not_and]

theorem Store.hasPair_eq_false_of_not_joined {store : Store} {first second : Stub}
    (hfree : ¬∃ edge ∈ store.relationships, edge.Joins first second) :
    store.hasPair first second = false := by
  rw [hasPair_eq_false_iff]
  intro edge hedge hends
  exact hfree ⟨edge, hedge, .inl hends⟩

namespace Graph

variable {registry : TypeRegistry} {actor : Actor} {now : Int} {parent : Relationship}
variable {source destination : Object} {store : Store}

/-! ## The run -/

/-- The run that `parent` sets off, under the next number. -/
def nextRun (actor : Actor) (now : Int) (parent : Relationship) (store : Store) : Automapping :=
  (runRow actor now parent).run (store.lastAutomappingId + 1)

/-- The store once the run is recorded. -/
def recorded (actor : Actor) (now : Int) (parent : Relationship) (store : Store) : Store :=
  store.withRun (nextRun actor now parent store)

/-- The request for the edge that the run derives. -/
def derivation (actor : Actor) (now : Int) (parent : Relationship) (store : Store)
    (source destination : Object) : Request :=
  derivedRequest parent (nextRun actor now parent store) source destination

theorem insertAutomapping_runRow (hnumbered : store.Numbered)
    (hroom : store.lastAutomappingId < Decimal.maxId)
    (hparent : store.hasRelationship parent.id = true) :
    store.insertAutomapping (runRow actor now parent) =
      .ok (nextRun actor now parent store, recorded actor now parent store) := by
  refine hnumbered.insertAutomapping_next hroom ?_
  rintro trigger ⟨⟩
  exact hparent

theorem numbered_recorded (hnumbered : store.Numbered)
    (hroom : store.lastAutomappingId < Decimal.maxId)
    (hparent : store.hasRelationship parent.id = true) :
    (recorded actor now parent store).Numbered :=
  hnumbered.insertAutomapping (insertAutomapping_runRow hnumbered hroom hparent)

/-- The run is stored once it is recorded, and so is the parent. -/
theorem refersToStored_derivation (hparent : store.hasRelationship parent.id = true) :
    (recorded actor now parent store).RefersToStored (some parent.id)
      (some (nextRun actor now parent store).id) := by
  constructor
  · rintro id ⟨⟩
    exact .inr hparent
  · rintro id ⟨⟩
    exact Store.hasAutomapping_iff.2 ⟨_, List.mem_append_right _ (List.mem_singleton.2 rfl), rfl⟩

/-! ## The edge -/

/-- Where the pair is free and the references are stored, what a request requires are its records
alone. -/
theorem decides_create_of_free {request : Request} (hnumbered : store.Numbered)
    (hroom : store.lastRelationshipId < Decimal.maxId) (hsource : request.source = some source)
    (hdestination : request.destination = some destination)
    (hfree : store.hasPair source.stub destination.stub = false)
    (hrefers : store.RefersToStored request.parentId request.automappingId) :
    let edge := request.nextEdge actor now store source.stub destination.stub
    Decides (recordRequirements registry actor store source destination)
      (edge, store.withEdge edge) (Transition.create registry actor now request store) := by
  intro edge
  have hdecides : Decides (request.requirements registry actor store) (edge, store.withEdge edge)
      (Transition.create registry actor now request store) :=
    decides_create_of_given hnumbered hroom hsource hdestination
  rw [requirements_of_given hsource hdestination] at hdecides
  exact hdecides.of_append_met
    (List.forall_mem_cons.2 ⟨hfree, List.forall_mem_singleton.2 hrefers⟩)

/-- Where an edge joins the two records, nothing is derived. -/
theorem createDerived_of_joined
    (hjoined : ∃ edge ∈ store.relationships, edge.Joins source.stub destination.stub) :
    Transition.createDerived registry actor now parent source destination store =
      .ok (none, store) := by
  rw [Transition.createDerived]
  cases hfound : store.findRelated? source.stub destination.stub with
  | none => exact absurd hjoined (Store.findRelated?_eq_none_iff.1 hfound)
  | some edge => rfl

/-- Where no edge joins the two records, deriving one records the run and then makes the edge. -/
theorem createDerived_of_free (hnumbered : store.Numbered)
    (hroom : store.lastAutomappingId < Decimal.maxId)
    (hparent : store.hasRelationship parent.id = true)
    (hfree : ¬∃ edge ∈ store.relationships, edge.Joins source.stub destination.stub) :
    Transition.createDerived registry actor now parent source destination store =
      (Transition.create registry actor now
        (derivation actor now parent store source destination)
        (recorded actor now parent store)).map (fun made => (some made.1, made.2)) := by
  rw [Transition.createDerived, Store.findRelated?_eq_none_iff.2 hfree,
    Transition.createFromParent, insertAutomapping_runRow hnumbered hroom hparent, derivation]
  change (Transition.create registry actor now _ _ >>= _) = _
  cases Transition.create registry actor now
    (derivedRequest parent (nextRun actor now parent store) source destination)
    (recorded actor now parent store) with
  | error error => rfl
  | ok made => rfl

/-- What deriving an edge between two records requires is what mapping them requires, whether the
run is recorded or not. -/
theorem decides_createDerived_of_free (hnumbered : store.Numbered)
    (hedges : store.lastRelationshipId < Decimal.maxId)
    (hruns : store.lastAutomappingId < Decimal.maxId)
    (hparent : store.hasRelationship parent.id = true)
    (hfree : ¬∃ edge ∈ store.relationships, edge.Joins source.stub destination.stub) :
    let after := recorded actor now parent store
    let edge := (derivation actor now parent store source destination).nextEdge actor now after
      source.stub destination.stub
    Decides (recordRequirements registry actor store source destination)
      (some edge, after.withEdge edge)
      (Transition.createDerived registry actor now parent source destination store) := by
  intro after edge
  have hsame : recordRequirements registry actor after source destination =
      recordRequirements registry actor store source destination := rfl
  have hnumberedAfter : after.Numbered := numbered_recorded hnumbered hruns hparent
  have hcreate : Decides (recordRequirements registry actor after source destination)
      (edge, after.withEdge edge)
      (Transition.create registry actor now (derivation actor now parent store source destination)
        after) :=
    decides_create_of_free hnumberedAfter hedges rfl rfl
      (Store.hasPair_eq_false_of_not_joined hfree) (refersToStored_derivation hparent)
  rw [createDerived_of_free hnumbered hruns hparent hfree, ← hsame]
  exact hcreate.map fun made => (some made.1, made.2)

/-- Where no edge joins the two records, deriving an edge and mapping them succeed together or are
refused for one reason. -/
theorem createDerived_agrees_of_free (external : Bool) (hnumbered : store.Numbered)
    (hedges : store.lastRelationshipId < Decimal.maxId)
    (hruns : store.lastAutomappingId < Decimal.maxId)
    (hparent : store.hasRelationship parent.id = true)
    (hfree : ¬∃ edge ∈ store.relationships, edge.Joins source.stub destination.stub) :
    let derived := Transition.createDerived registry actor now parent source destination store
    let plain := Transition.create registry actor now
      { source := some source, destination := some destination, external } store
    let after := recorded actor now parent store
    let edge := (derivation actor now parent store source destination).nextEdge actor now after
      source.stub destination.stub
    (derived = .ok (some edge, after.withEdge edge) ∧ ∃ made, plain = .ok made) ∨
      ∃ error, derived = .error error ∧ plain = .error error := by
  intro derived plain after edge
  have hplain : Decides (recordRequirements registry actor store source destination) _ plain :=
    decides_create_of_free hnumbered hedges rfl rfl
      (Store.hasPair_eq_false_of_not_joined hfree) ⟨nofun, nofun⟩
  have hderived : Decides (recordRequirements registry actor store source destination)
      (some edge, after.withEdge edge) derived :=
    decides_createDerived_of_free hnumbered hedges hruns hparent hfree
  rcases hderived.agree hplain with ⟨hmade, hcreated⟩ | hrefused
  · exact .inl ⟨hmade, _, hcreated⟩
  · exact .inr hrefused

/-- Deriving an edge where one joins the two records already, in whatever direction, changes nothing
and gives none, whatever the registry and the policy say.  Everywhere else deriving an edge from a
stored parent succeeds if and only if mapping the two records does, without parent and run, and is
refused for the same reason.  Where it succeeds, a run that records the parent and an edge that
refers to both are the only new rows; where it is refused, nothing is changed. -/
theorem createDerived_matches_create (registry : TypeRegistry) (actor : Actor) (now : Int)
    (parent : Relationship) (source destination : Object) (external : Bool)
    (connection : Connection) (hnumbered : connection.store.Numbered)
    (hedges : connection.store.lastRelationshipId < Decimal.maxId)
    (hruns : connection.store.lastAutomappingId < Decimal.maxId)
    (hparent : connection.store.hasRelationship parent.id = true) :
    let outcome := createDerived registry actor now parent source destination connection
    let plain := create registry actor now
      { source := some source, destination := some destination, external } connection
    let joined := ∃ edge ∈ connection.store.relationships, edge.Joins source.stub destination.stub
    (outcome.result = .ok none ↔ joined) ∧
      (joined → outcome.connection = connection) ∧
      (¬joined →
        ((∃ edge, outcome.result = .ok (some edge)) ↔ ∃ edge, plain.result = .ok edge) ∧
          ∀ error, outcome.result = .error error ↔ plain.result = .error error) ∧
      (∀ error, outcome.result = .error error → outcome.connection = connection) ∧
      ∀ edge, outcome.result = .ok (some edge) → ∃ run : Automapping,
        run = { id := connection.store.lastAutomappingId + 1, relationshipId := some parent.id
                source := parent.source, destination := parent.destination
                modifiedBy := some actor.userId, createdAt := now } ∧
          edge = { id := connection.store.lastRelationshipId + 1, source := source.stub
                   destination := destination.stub, parentId := some parent.id
                   automappingId := some run.id, external := parent.external
                   modifiedBy := some actor.userId, createdAt := now, updatedAt := now } ∧
          outcome.connection =
            { connection with store := (connection.store.withRun run).withEdge edge } := by
  intro outcome plain joined
  have hrealizes := realizes_createDerived registry actor now parent source destination
  have hrealizesPlain := realizes_create registry actor now
    { source := some source, destination := some destination, external }
  by_cases hjoined : joined
  · have hnothing : Transition.createDerived registry actor now parent source destination
        connection.store = .ok (none, connection.store) := createDerived_of_joined hjoined
    have hnone : outcome.result = .ok none := hrealizes.result_eq_ok_iff.2 ⟨_, hnothing⟩
    have hunchanged : outcome.connection = connection := hrealizes.connection_of_ok hnothing
    refine ⟨iff_of_true hnone hjoined, fun _ => hunchanged, fun hfree => absurd hjoined hfree,
      fun _ _ => hunchanged, fun edge hedge => ?_⟩
    rw [hnone] at hedge
    cases hedge
  · rcases createDerived_agrees_of_free external hnumbered hedges hruns hparent hjoined with
      ⟨hmade, _, hcreated⟩ | ⟨error, hrefused, hrefusedPlain⟩
    · have hresult : outcome.result = .ok (some _) := hrealizes.result_eq_ok_iff.2 ⟨_, hmade⟩
      have hresultPlain : plain.result = .ok _ := hrealizesPlain.result_eq_ok_iff.2 ⟨_, hcreated⟩
      have hconnection : outcome.connection = { connection with store := _ } :=
        hrealizes.connection_of_ok hmade
      rw [hresult, hresultPlain, hconnection]
      refine ⟨iff_of_false (by simp) hjoined, fun hjoins => absurd hjoins hjoined, fun _ => ?_,
        by simp, ?_⟩
      · exact ⟨iff_of_true ⟨_, rfl⟩ ⟨_, rfl⟩, by simp⟩
      · rintro edge ⟨⟩
        exact ⟨nextRun actor now parent connection.store, rfl, rfl, rfl⟩
    · have hresult : outcome.result = .error error := hrealizes.result_eq_error_iff.2 hrefused
      have hresultPlain : plain.result = .error error :=
        hrealizesPlain.result_eq_error_iff.2 hrefusedPlain
      -- The plain request does not run out of numbers, so neither does the derivation.
      have hnumber : error ≠ .storage .full := by
        rintro rfl
        exact Transition.create_ne_full registry actor now _ hedges hrefusedPlain
      have hconnection : outcome.connection = connection := by
        refine hrealizes.connection_eq_of_refused ?_ hresult
        rwa [hrefused, Ne, Except.error.injEq]
      rw [hresult, hresultPlain]
      refine ⟨iff_of_false (by simp) hjoined, fun _ => hconnection, fun _ => ?_,
        fun _ _ => hconnection, by simp⟩
      exact ⟨iff_of_false (by simp) (by simp), by simp⟩

/-- From the edge between a control and an objective, nothing is derived back from the objective to
the control; a mapping of the control to the regulation is refused to an internal actor, as it is
where nothing derives it, and made for an external one. -/
theorem derivation_from_control_mapping :
    mappedControl.store.Numbered ∧ mappedControl.store.lastRelationshipId < Decimal.maxId ∧
      mappedControl.store.lastAutomappingId < Decimal.maxId ∧
      mappedControl.store.hasRelationship controlMapping.id = true ∧
      (createDerived .builtin ⟨1, false⟩ 0 controlMapping (Object.draft "Objective" 3 "o")
        (Object.draft "Control" 1 "c") mappedControl).result = .ok none ∧
      (createDerived .builtin ⟨1, false⟩ 0 controlMapping (Object.draft "Control" 1 "c")
        (Object.draft "Regulation" 2 "r") mappedControl).result =
          .error (.validation (.restricted .control)) ∧
      ∃ edge, (createDerived .builtin ⟨1, true⟩ 0 controlMapping (Object.draft "Control" 1 "c")
          (Object.draft "Regulation" 2 "r") mappedControl).result = .ok (some edge) ∧
        edge.parentId = some 1 ∧ edge.automappingId = some 1 := by
  have hnumbered : mappedControl.store.Numbered := ⟨by decide, by decide, by decide⟩
  have hedges : mappedControl.store.lastRelationshipId < Decimal.maxId := by decide
  have hruns : mappedControl.store.lastAutomappingId < Decimal.maxId := by decide
  have hparent : mappedControl.store.hasRelationship controlMapping.id = true := by decide
  obtain ⟨hnone, _⟩ := createDerived_matches_create .builtin ⟨1, false⟩ 0 controlMapping
    (Object.draft "Objective" 3 "o") (Object.draft "Control" 1 "c") false mappedControl hnumbered
    hedges hruns hparent
  obtain ⟨_, _, hinternal, _⟩ := createDerived_matches_create .builtin ⟨1, false⟩ 0 controlMapping
    (Object.draft "Control" 1 "c") (Object.draft "Regulation" 2 "r") false mappedControl hnumbered
    hedges hruns hparent
  obtain ⟨_, _, hexternal, _, hmade⟩ := createDerived_matches_create .builtin ⟨1, true⟩ 0
    controlMapping (Object.draft "Control" 1 "c") (Object.draft "Regulation" 2 "r") false
    mappedControl hnumbered hedges hruns hparent
  have hfree : ¬∃ edge ∈ mappedControl.store.relationships,
      edge.Joins ⟨"Control", 1⟩ ⟨"Regulation", 2⟩ := by decide
  obtain ⟨edge, hedge⟩ := (hexternal hfree).1.2 ⟨_, rfl⟩
  obtain ⟨run, rfl, rfl, _⟩ := hmade edge hedge
  exact ⟨hnumbered, hedges, hruns, hparent, hnone.2 (by decide), ((hinternal hfree).2 _).2 rfl, _,
    hedge, rfl, rfl⟩

end Graph

end RecordGraph
