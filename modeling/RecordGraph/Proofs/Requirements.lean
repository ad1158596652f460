import RecordGraph.Proofs.FailureAtomicity
import RecordGraph.Proofs.NextNumbers

/-!
# What a new edge requires

A request for an edge has to meet a list of requirements, which has a fixed order: each end is
given, of a relatable type and stored, the policy allows the types to the actor, neither end is a
snapshot of the other, the pair is free, and the references lead to stored rows.  The edge is made
just where all of them are met, and where several are not, the first of them is reported.  What is
required is listed here once, apart from the steps that look at it.
-/

namespace RecordGraph

/-! ## Requirements in order -/

/-- Something that must hold, and the failure that is reported where it does not. -/
structure Requirement where
  met : Prop
  refusal : GraphError

/-- The first of some requirements that is not met is reported as `error`. -/
inductive FirstUnmet : List Requirement → GraphError → Prop
  | here {requirement : Requirement} {rest : List Requirement} (unmet : ¬requirement.met) :
      FirstUnmet (requirement :: rest) requirement.refusal
  | later {requirement : Requirement} {rest : List Requirement} {error : GraphError}
      (met : requirement.met) (unmet : FirstUnmet rest error) :
      FirstUnmet (requirement :: rest) error

/-- An outcome is a value where all requirements are met, and the failure of the first one that is
not met otherwise. -/
inductive Decides {α : Type} (requirements : List Requirement) (value : α) :
    Except GraphError α → Prop
  | met (all : ∀ requirement ∈ requirements, requirement.met) :
      Decides requirements value (.ok value)
  | unmet {error : GraphError} (first : FirstUnmet requirements error) :
      Decides requirements value (.error error)

namespace FirstUnmet

variable {requirements more : List Requirement} {error : GraphError}

theorem not_all_met (hunmet : FirstUnmet requirements error) :
    ¬∀ requirement ∈ requirements, requirement.met := by
  induction hunmet with
  | here unmet => exact fun hall => unmet (hall _ List.mem_cons_self)
  | later _ _ ih => exact fun hall => ih (List.forall_mem_cons.1 hall).2

theorem unique (hunmet : FirstUnmet requirements error) {other : GraphError}
    (hother : FirstUnmet requirements other) : other = error := by
  induction hunmet with
  | here unmet =>
    cases hother with
    | here _ => rfl
    | later met _ => exact absurd met unmet
  | later met _ ih =>
    cases hother with
    | here unmet => exact absurd met unmet
    | later _ hrest => exact ih hrest

/-- What comes later does not matter. -/
theorem append (hunmet : FirstUnmet requirements error) (more : List Requirement) :
    FirstUnmet (requirements ++ more) error := by
  induction hunmet with
  | here unmet => exact .here unmet
  | later met _ ih => exact .later met ih

/-- What comes earlier and is met does not matter. -/
theorem of_met (hmet : ∀ requirement ∈ requirements, requirement.met)
    (hunmet : FirstUnmet more error) : FirstUnmet (requirements ++ more) error := by
  induction requirements with
  | nil => exact hunmet
  | cons requirement rest ih =>
    obtain ⟨hfirst, hrest⟩ := List.forall_mem_cons.1 hmet
    exact .later hfirst (ih hrest)

/-- Where everything at the end is met, the first that is not met is before it. -/
theorem of_append_met (hunmet : FirstUnmet (requirements ++ more) error)
    (hmore : ∀ requirement ∈ more, requirement.met) : FirstUnmet requirements error := by
  induction requirements with
  | nil => exact absurd hmore hunmet.not_all_met
  | cons requirement rest ih =>
    cases hunmet with
    | here unmet => exact .here unmet
    | later met hrest => exact .later met (ih hrest)

end FirstUnmet

namespace Decides

variable {α β : Type} {requirements more : List Requirement} {value : α}
variable {outcome : Except GraphError α}

theorem ok_iff (hdecides : Decides requirements value outcome) :
    (∃ result, outcome = .ok result) ↔ ∀ requirement ∈ requirements, requirement.met := by
  cases hdecides with
  | met all => exact iff_of_true ⟨value, rfl⟩ all
  | unmet first => exact iff_of_false (by simp) first.not_all_met

theorem error_iff (hdecides : Decides requirements value outcome) {error : GraphError} :
    outcome = .error error ↔ FirstUnmet requirements error := by
  cases hdecides with
  | met all => simpa using fun hunmet => FirstUnmet.not_all_met hunmet all
  | unmet first =>
    constructor
    · rintro ⟨⟩
      exact first
    · intro hunmet
      rw [first.unique hunmet]

/-- Requirements at the end that are met decide nothing. -/
theorem of_append_met (hdecides : Decides (requirements ++ more) value outcome)
    (hmore : ∀ requirement ∈ more, requirement.met) : Decides requirements value outcome := by
  cases hdecides with
  | met all => exact .met (List.forall_mem_append.1 all).1
  | unmet first => exact .unmet (first.of_append_met hmore)

/-- Two outcomes that the same requirements decide are both values or the same failure. -/
theorem agree {other : β} {second : Except GraphError β}
    (hdecides : Decides requirements value outcome) (hsecond : Decides requirements other second) :
    (outcome = .ok value ∧ second = .ok other) ∨
      ∃ error, outcome = .error error ∧ second = .error error := by
  cases hdecides with
  | met all =>
    cases hsecond with
    | met _ => exact .inl ⟨rfl, rfl⟩
    | unmet first => exact absurd all first.not_all_met
  | unmet first => exact .inr ⟨_, rfl, hsecond.error_iff.2 first⟩

theorem map (transform : α → β) (hdecides : Decides requirements value outcome) :
    Decides requirements (transform value) (outcome.map transform) := by
  cases hdecides with
  | met all => exact .met all
  | unmet first => exact .unmet first

/-- After a step that some requirements decide, more requirements decide the rest. -/
theorem bind {next : α → Except GraphError β} {result : β}
    (hfirst : Decides requirements value outcome) (hnext : Decides more result (next value)) :
    Decides (requirements ++ more) result (outcome >>= next) := by
  cases hfirst with
  | met all =>
    change Decides _ result (next value)
    generalize next value = rest at hnext
    cases hnext with
    | met allMore => exact .met (List.forall_mem_append.2 ⟨all, allMore⟩)
    | unmet firstMore => exact .unmet (.of_met all firstMore)
  | unmet first => exact .unmet (first.append more)

end Decides

namespace Graph

/-! ## The list -/

/-- An end is given, of a relatable type, and stored. -/
def endRequirements (registry : TypeRegistry) (store : Store) (edgeEnd : EdgeEnd)
    (given : Option Object) : List Requirement :=
  ⟨given.isSome = true, .validation (.endMissing edgeEnd)⟩ ::
    given.elim [] fun object =>
      [⟨registry.isRelatable object.type = true, .validation (.notRelatable object.type)⟩,
        ⟨store.hasObject object.stub = true, .validation (.endAbsent edgeEnd object.stub)⟩]

/-- Types that a rule of the policy keeps apart are mapped by external actors only. -/
def policyRequirements (registry : TypeRegistry) (actor : Actor) (source destination : String) :
    List Requirement :=
  (Policy.restriction? registry.scopingNames source destination).toList.map fun violation =>
    ⟨actor.external = true, .validation (.restricted violation)⟩

/-- A snapshot is stored with an origin, and it is not the record at the other end. -/
def snapshotRequirements (store : Store) (source destination object other : Object) :
    List Requirement :=
  let origin := (store.object? object.stub).bind Object.origin
  [⟨object.isSnapshot = true → origin.isSome = true, .validation (.snapshotAbsent object.stub)⟩,
    ⟨object.isSnapshot = true → origin ≠ some other.stub,
      .validation (.snapshotWithOrigin source.type destination.type)⟩]

/-- What two records require to be joined. -/
def joinRequirements (registry : TypeRegistry) (actor : Actor) (store : Store)
    (source destination : Object) : List Requirement :=
  policyRequirements registry actor source.type destination.type ++
    snapshotRequirements store source destination source destination ++
    snapshotRequirements store source destination destination source

/-- What two given records require, whatever else is asked of the edge. -/
def recordRequirements (registry : TypeRegistry) (actor : Actor) (store : Store)
    (source destination : Object) : List Requirement :=
  endRequirements registry store .source (some source) ++
    endRequirements registry store .destination (some destination) ++
    joinRequirements registry actor store source destination

/-- What the row of an edge requires: a pair that is free, and stored rows to refer to. -/
def rowRequirements (store : Store) (request : Request) (source destination : Stub) :
    List Requirement :=
  [⟨store.hasPair source destination = false, .conflict (pairText source destination)⟩,
    ⟨store.RefersToStored request.parentId request.automappingId, .storage .foreignKey⟩]

/-- Everything that a request requires, in order. -/
def Request.requirements (request : Request) (registry : TypeRegistry) (actor : Actor)
    (store : Store) : List Requirement :=
  endRequirements registry store .source request.source ++
    endRequirements registry store .destination request.destination ++
    match request.source, request.destination with
    | some source, some destination =>
      joinRequirements registry actor store source destination ++
        rowRequirements store request source.stub destination.stub
    | _, _ => []

/-! ## The checks -/

variable {registry : TypeRegistry} {actor : Actor} {now : Int} {store : Store} {request : Request}

theorem decides_checkEnd (edgeEnd : EdgeEnd) (object : Object) :
    Decides (endRequirements registry store edgeEnd (some object)) object
      (checkEnd registry store edgeEnd (some object)) := by
  rw [checkEnd]
  split
  · next hrelatable =>
    split
    · next hstored => exact .met (by simp [endRequirements, hrelatable, hstored])
    · next hstored => exact .unmet (.later rfl (.later hrelatable (.here hstored)))
  · next hrelatable => exact .unmet (.later rfl (.here hrelatable))

theorem decides_checkPair (source destination : String) :
    Decides (policyRequirements registry actor source destination) ()
      (checkPair registry actor source destination) := by
  rw [policyRequirements, checkPair, Policy.violation?]
  cases hexternal : actor.external with
  | true => exact .met (by simp)
  | false =>
    cases Policy.restriction? registry.scopingNames source destination with
    | none => exact .met (by simp)
    | some violation => exact .unmet (.here Bool.false_ne_true)

theorem decides_checkSnapshot (source destination object other : Object) :
    Decides (snapshotRequirements store source destination object other) ()
      (checkSnapshot store source destination object other) := by
  rw [snapshotRequirements, checkSnapshot]
  cases object.isSnapshot with
  | false => exact .met (by simp)
  | true =>
    cases (store.object? object.stub).bind Object.origin with
    | none => exact .unmet (.here (by simp))
    | some origin =>
      by_cases hother : origin = other.stub
      · rw [if_pos rfl]
        simp only [hother, if_true]
        exact .unmet (.later (fun _ => rfl) (.here (by simp)))
      · simp only [hother, if_true, if_false]
        exact .met (by simp [hother])

theorem decides_checkRequest {source destination : Object}
    (hsource : request.source = some source)
    (hdestination : request.destination = some destination) :
    Decides (recordRequirements registry actor store source destination) (source, destination)
      (checkRequest registry actor request store) := by
  have hsnapshots : Decides
      (snapshotRequirements store source destination source destination ++
        snapshotRequirements store source destination destination source) ()
      (checkSnapshots store source destination) :=
    (decides_checkSnapshot source destination source destination).bind
      (decides_checkSnapshot source destination destination source)
  have hends : Decides [] (source, destination) (.ok (source, destination)) :=
    .met (List.forall_mem_nil _)
  rw [checkRequest, hsource, hdestination, recordRequirements, joinRequirements,
    List.append_assoc, List.append_assoc]
  refine (decides_checkEnd .source source).bind ?_
  refine (decides_checkEnd .destination destination).bind ?_
  refine (decides_checkPair source.type destination.type).bind ?_
  rw [← List.append_nil (_ ++ _)]
  exact hsnapshots.bind hends

/-! ## The edge -/

/-- The edge that a request asks for, under the next number. -/
def Request.nextEdge (request : Request) (actor : Actor) (now : Int) (store : Store)
    (source destination : Stub) : Relationship :=
  (request.row actor now source destination).edge (store.lastRelationshipId + 1)

theorem decides_insertRelationship (hnumbered : store.Numbered)
    (hroom : store.lastRelationshipId < Decimal.maxId) (source destination : Stub) :
    let edge := request.nextEdge actor now store source destination
    Decides (rowRequirements store request source destination) (edge, store.withEdge edge)
      ((store.insertRelationship (request.row actor now source destination)).mapError
        (explainEdge source destination)) := by
  intro edge
  rw [hnumbered.insertRelationship_next hroom rfl]
  split
  · next hpair => exact .unmet (.here (ne_false_of_eq_true hpair))
  · next hpair =>
    have hfree : store.hasPair source destination = false := eq_false_of_ne_true hpair
    split
    · next hrefers =>
      exact .met (List.forall_mem_cons.2 ⟨hfree, List.forall_mem_singleton.2 hrefers⟩)
    · next hrefers => exact .unmet (.later hfree (.here hrefers))

theorem requirements_of_given {source destination : Object}
    (hsource : request.source = some source)
    (hdestination : request.destination = some destination) :
    request.requirements registry actor store =
      recordRequirements registry actor store source destination ++
        rowRequirements store request source.stub destination.stub := by
  simp only [Request.requirements, recordRequirements, hsource, hdestination, List.append_assoc]

theorem decides_create_of_given (hnumbered : store.Numbered)
    (hroom : store.lastRelationshipId < Decimal.maxId) {source destination : Object}
    (hsource : request.source = some source)
    (hdestination : request.destination = some destination) :
    let edge := request.nextEdge actor now store source.stub destination.stub
    Decides (request.requirements registry actor store) (edge, store.withEdge edge)
      (Transition.create registry actor now request store) := by
  intro edge
  rw [requirements_of_given hsource hdestination, Transition.create]
  refine (decides_checkRequest hsource hdestination).bind ?_
  exact decides_insertRelationship hnumbered hroom source.stub destination.stub

/-- An end that is not given is reported once the end before it has passed. -/
theorem exists_decides_create (hnumbered : store.Numbered)
    (hroom : store.lastRelationshipId < Decimal.maxId) :
    ∃ made, Decides (request.requirements registry actor store) made
      (Transition.create registry actor now request store) := by
  cases hsource : request.source with
  | none =>
    refine ⟨default, ?_⟩
    rw [Request.requirements, Transition.create, checkRequest, hsource]
    exact .unmet (((FirstUnmet.here Bool.false_ne_true).append _).append _)
  | some source =>
    cases hdestination : request.destination with
    | none =>
      refine ⟨default, ?_⟩
      rw [Request.requirements, Transition.create, checkRequest, hsource, hdestination,
        List.append_nil]
      have hend : Decides (endRequirements registry store .source (some source)) source
          (checkEnd registry store .source (some source)) := decides_checkEnd .source source
      cases hcheck : checkEnd registry store .source (some source) with
      | error error => exact .unmet ((hend.error_iff.1 hcheck).append _)
      | ok found =>
        exact .unmet (.of_met (hend.ok_iff.1 ⟨found, hcheck⟩) (.here Bool.false_ne_true))
    | some destination => exact ⟨_, decides_create_of_given hnumbered hroom hsource hdestination⟩

/-- The edge is what the request asks for: its ends are those of the records that were given, and
the rest is as requested. -/
structure Request.Describes (request : Request) (actor : Actor) (now : Int) (edge : Relationship) :
    Prop where
  source : request.source.map Object.stub = some edge.source
  destination : request.destination.map Object.stub = some edge.destination
  parentId : edge.parentId = request.parentId
  automappingId : edge.automappingId = request.automappingId
  external : edge.external = request.external
  modifiedBy : edge.modifiedBy = some actor.userId
  createdAt : edge.createdAt = now
  updatedAt : edge.updatedAt = now

/-- What a request that succeeds makes is its edge, under the next number and after all others. -/
theorem made_of_create (hnumbered : store.Numbered)
    (hroom : store.lastRelationshipId < Decimal.maxId) {edge : Relationship} {after : Store}
    (hcreated : Transition.create registry actor now request store = .ok (edge, after)) :
    edge.id = store.lastRelationshipId + 1 ∧ request.Describes actor now edge ∧
      after = store.withEdge edge := by
  obtain ⟨source, destination, hcheck, _⟩ := Transition.create_eq_ok_iff.1 hcreated
  obtain ⟨hsource, hdestination, _⟩ := checkRequest_eq_ok_iff.1 hcheck
  have hdecides : Decides (request.requirements registry actor store) _
      (Transition.create registry actor now request store) :=
    decides_create_of_given hnumbered hroom hsource hdestination
  rw [hcreated] at hdecides
  cases hdecides
  refine ⟨rfl, ?_, rfl⟩
  exact {
    source := by rw [hsource]; rfl
    destination := by rw [hdestination]; rfl
    parentId := rfl
    automappingId := rfl
    external := rfl
    modifiedBy := rfl
    createdAt := rfl
    updatedAt := rfl }

/-- A request for an edge succeeds if and only if everything that it requires is met, and it is
refused with the failure of the first requirement that is not met.  Where it succeeds, the one
change is a new edge, which comes after all others, is what was asked for, and is returned as it is
stored; where it is refused, nothing is changed. -/
theorem create_decided_by_requirements (registry : TypeRegistry) (actor : Actor) (now : Int)
    (request : Request) (connection : Connection) (hnumbered : connection.store.Numbered)
    (hroom : connection.store.lastRelationshipId < Decimal.maxId) :
    let requirements := request.requirements registry actor connection.store
    let outcome := create registry actor now request connection
    ((∃ edge, outcome.result = .ok edge) ↔ ∀ requirement ∈ requirements, requirement.met) ∧
      (∀ edge, outcome.result = .ok edge →
        (∀ old ∈ connection.store.relationships, old.id < edge.id) ∧
          request.Describes actor now edge ∧
          outcome.connection = { connection with store := connection.store.withEdge edge } ∧
          outcome.connection.store.relationship? edge.id = some edge) ∧
      ∀ error, (outcome.result = .error error ↔ FirstUnmet requirements error) ∧
        (outcome.result = .error error → outcome.connection = connection) := by
  intro requirements outcome
  have hrealizes := realizes_create registry actor now request
  obtain ⟨made, hdecides⟩ : ∃ made, Decides requirements made
      (Transition.create registry actor now request connection.store) :=
    exists_decides_create hnumbered hroom
  refine ⟨?_, ?_, ?_⟩
  · rw [← hdecides.ok_iff]
    simp only [outcome, hrealizes.result_eq_ok_iff, Prod.exists]
  · intro edge hedge
    obtain ⟨after, hcreated⟩ := hrealizes.result_eq_ok_iff.1 hedge
    have hconnection : outcome.connection = { connection with store := after } :=
      hrealizes.connection_of_ok hcreated
    obtain ⟨hid, hdescribes, hafter⟩ := made_of_create hnumbered hroom hcreated
    have hfresh : ∀ old ∈ connection.store.relationships, old.id < edge.id := by
      intro old hold
      have hbound := hnumbered.edges old hold
      omega
    rw [hconnection, hafter]
    exact ⟨hfresh, hdescribes, rfl, hnumbered.relationship?_withEdge hid⟩
  · intro error
    refine ⟨hrealizes.result_eq_error_iff.trans hdecides.error_iff, fun hrefused => ?_⟩
    have hnumber := Transition.create_ne_full registry actor now request hroom
    exact hrealizes.connection_eq_of_refused hnumber hrefused

/-- An edge from a control to an objective. -/
def controlMapping : Relationship :=
  { id := 1, source := ⟨"Control", 1⟩, destination := ⟨"Objective", 3⟩, parentId := none
    automappingId := none, external := false, modifiedBy := none, createdAt := 0
    updatedAt := 0 }

/-- A store with the two records of that edge, and with a regulation. -/
def mappedControl : Connection where
  store :=
    { objects := [Object.draft "Control" 1 "c", Object.draft "Objective" 3 "o",
        Object.draft "Regulation" 2 "r"]
      relationships := [controlMapping]
      lastRelationshipId := 1 }

/-- The control is to be mapped to the regulation, under a parent that is not stored. -/
def orphanRequest : Request :=
  { source := some (Object.draft "Control" 1 "c")
    destination := some (Object.draft "Regulation" 2 "r")
    parentId := some 9 }

/-- The policy keeps an internal actor from mapping the two, and the parent is missing as well; the
policy comes first.  Without a parent an external actor meets all requirements. -/
theorem restriction_reported_before_parent :
    mappedControl.store.Numbered ∧ mappedControl.store.lastRelationshipId < Decimal.maxId ∧
      (create .builtin ⟨1, false⟩ 0 orphanRequest mappedControl).result =
        .error (.validation (.restricted .control)) ∧
      FirstUnmet (orphanRequest.requirements .builtin ⟨1, false⟩ mappedControl.store)
        (.validation (.restricted .control)) ∧
      ¬mappedControl.store.RefersToStored orphanRequest.parentId orphanRequest.automappingId ∧
      ∀ requirement ∈ ({ orphanRequest with parentId := none } : Request).requirements .builtin
        ⟨1, true⟩ mappedControl.store, requirement.met := by
  have hnumbered : mappedControl.store.Numbered := ⟨by decide, by decide, by decide⟩
  have hroom : mappedControl.store.lastRelationshipId < Decimal.maxId := by decide
  have hrefused : (create .builtin ⟨1, false⟩ 0 orphanRequest mappedControl).result =
      .error (.validation (.restricted .control)) := by rfl
  obtain ⟨_, _, herror⟩ :=
    create_decided_by_requirements .builtin ⟨1, false⟩ 0 orphanRequest mappedControl hnumbered hroom
  obtain ⟨hok, _⟩ := create_decided_by_requirements .builtin ⟨1, true⟩ 0
    { orphanRequest with parentId := none } mappedControl hnumbered hroom
  exact ⟨hnumbered, hroom, hrefused, (herror _).1.1 hrefused, by decide, hok.1 ⟨_, rfl⟩⟩

end Graph

end RecordGraph
