import RecordGraph.Proofs.StoreIntegrity

/-!
# Edges that come and go

Edges are told apart by their numbers.  A call on the graph that succeeds either stores one edge,
which it asked for and the policy allowed, or removes edges, each of which passed the check that
its actor may remove it.  The edges that stay are what they were, but for parents that are gone.
-/

namespace RecordGraph

namespace Store

/-- The edge is stored after a change, and before it no edge had its number. -/
def Gains (before after : Store) (edge : Relationship) : Prop :=
  edge ∈ after.relationships ∧ ∀ old ∈ before.relationships, old.id ≠ edge.id

/-- The edge was stored before a change, and after it no edge has its number. -/
def Loses (before after : Store) (edge : Relationship) : Prop :=
  edge ∈ before.relationships ∧ ∀ kept ∈ after.relationships, kept.id ≠ edge.id

variable {store after : Store} {edge : Relationship}

theorem not_gains_of_same (hsame : after.relationships = store.relationships) :
    ¬store.Gains after edge := by
  intro hgains
  obtain ⟨hafter, hfresh⟩ := hgains
  rw [hsame] at hafter
  exact hfresh edge hafter rfl

theorem not_loses_of_same (hsame : after.relationships = store.relationships) :
    ¬store.Loses after edge := by
  intro hloses
  obtain ⟨hbefore, hgone⟩ := hloses
  rw [← hsame] at hbefore
  exact hgone edge hbefore rfl

end Store

/-- The types at both ends are relatable, and the policy allows the edge to the actor. -/
structure Relationship.Admitted (registry : TypeRegistry) (actor : Actor) (edge : Relationship) :
    Prop where
  relatable : ∀ edgeEnd, registry.isRelatable (edge.endStub edgeEnd).type = true
  allowed : Policy.violation? registry.scopingNames actor.external edge.source.type
    edge.destination.type = none

namespace GraphCall

/-! ## What a call may do -/

/-- The call asks for the edge, which is admitted. -/
def Makes : GraphCall → Relationship → Prop
  | create registry actor _ request, edge =>
    request.source.map Object.stub = some edge.source ∧
      request.destination.map Object.stub = some edge.destination ∧
      edge.external = request.external ∧ edge.Admitted registry actor
  | createDerived registry actor _ parent source destination, edge =>
    source.stub = edge.source ∧ destination.stub = edge.destination ∧
      edge.external = parent.external ∧ edge.Admitted registry actor
  | _, _ => False

/-- The call is to remove the edge, and its actor may. -/
def Removes : GraphCall → Relationship → Prop
  | delete registry actor id, edge =>
    edge.id = id ∧ Graph.checkDelete registry actor edge = .ok ()
  | deleteObject registry actor stub, edge =>
    edge.touches stub = true ∧ Graph.checkDelete registry actor edge = .ok ()
  | _, _ => False

/-- What a call that succeeds does to the edges of a store. -/
inductive ChangesEdges (call : GraphCall) (store after : Store) : Prop
  /-- It stores one edge that it asked for. -/
  | adds (edge : Relationship) (makes : call.Makes edge)
      (fresh : ∀ old ∈ store.relationships, old.id ≠ edge.id)
      (edges : after.relationships.Perm (edge :: store.relationships))
  /-- It removes the edges of some numbers, which may be none. -/
  | removes (gone : List Int)
      (removes : ∀ edge ∈ store.relationships, edge.id ∈ gone → call.Removes edge)
      (edges : after.relationships = (store.withoutEdges gone).relationships)

variable {store after : Store}

theorem ChangesEdges.none {call : GraphCall} (hsame : after.relationships = store.relationships) :
    call.ChangesEdges store after := by
  refine .removes [] (by simp) ?_
  rw [hsame, Store.withoutEdges_nil]

/-! ## What each operation does -/

/-- The edge that is made, and the checks that it has passed. -/
theorem edge_of_create {registry : TypeRegistry} {actor : Actor} {now : Int}
    {request : Graph.Request} {edge : Relationship}
    (hcreated : Transition.create registry actor now request store = .ok (edge, after)) :
    (create registry actor now request).Makes edge ∧
      (∀ old ∈ store.relationships, old.id ≠ edge.id) ∧
      after.relationships.Perm (edge :: store.relationships) := by
  obtain ⟨source, destination, hcheck, hrow⟩ := Transition.create_eq_ok_iff.1 hcreated
  obtain ⟨hsource, hdestination, hjoinable⟩ := Graph.checkRequest_eq_ok_iff.1 hcheck
  have hfresh := Store.fresh_of_insertRelationship hrow
  have hperm := Store.relationships_insert_perm hfresh
  obtain ⟨id, _, _, _, _, _, hedge, rfl⟩ := Store.insertRelationship_eq_ok_iff.1 hrow
  refine ⟨⟨?_, ?_, ?_, ?_⟩, Store.hasRelationship_eq_false_iff.1 hfresh, hperm⟩
  · rw [hsource, hedge]
    rfl
  · rw [hdestination, hedge]
    rfl
  · rw [hedge]
    rfl
  · rw [hedge]
    refine ⟨?_, hjoinable.allowed⟩
    intro edgeEnd
    cases edgeEnd with
    | source => exact hjoinable.sourceRelatable
    | destination => exact hjoinable.destinationRelatable

/-- Numbers tell edges apart, so that the edge of a number is the only one to go with it. -/
theorem changesEdges_delete {registry : TypeRegistry} {actor : Actor} {id : Int}
    {edge : Relationship} (hintegrity : store.Integrity)
    (hdeleted : Transition.delete registry actor id store = .ok (edge, after)) :
    (delete registry actor id).ChangesEdges store after := by
  obtain ⟨hfound, hcheck, rfl⟩ := Transition.delete_eq_ok_iff.1 hdeleted
  have hedge : edge ∈ store.relationships := List.mem_of_find?_eq_some hfound
  have hid : edge.id = id := by simpa using List.find?_some hfound
  refine .removes [edge.id] ?_ (by rw [Store.removeRelationship_eq_withoutEdges])
  intro other hother hgone
  have hsame : other = edge :=
    hintegrity.eq_of_id_eq hedge hother (List.mem_singleton.1 hgone)
  rw [hsame]
  exact ⟨hid, hcheck⟩

theorem changesEdges_deleteObject {registry : TypeRegistry} {actor : Actor} {stub : Stub}
    {edges : List Relationship} (hintegrity : store.Integrity)
    (hdeleted : Transition.deleteObject registry actor stub store = .ok (edges, after)) :
    (deleteObject registry actor stub).ChangesEdges store after := by
  obtain ⟨_, rfl, hcheck, rfl⟩ := Transition.deleteObject_eq_ok_iff.1 hdeleted
  refine .removes ((store.edgesTouching stub).map Relationship.id) ?_ ?_
  · intro other hother hgone
    obtain ⟨edge, hedge, hid⟩ := List.mem_map.1 hgone
    obtain ⟨hstored, htouches⟩ := Store.mem_of_mem_edgesTouching hedge
    rw [hintegrity.eq_of_id_eq hstored hother hid.symm]
    exact ⟨htouches, Graph.checkDeletes_eq_ok_iff.1 hcheck edge hedge⟩
  · rw [Store.removeRelationships_eq_withoutEdges]
    rfl

theorem changesEdges_of_transition (call : GraphCall) (hintegrity : store.Integrity)
    (hcall : call.transition store = .ok ((), after)) : call.ChangesEdges store after := by
  cases call with
  | insertObject registry now object =>
    obtain ⟨_, hstored⟩ := Transition.void_eq_ok_iff.1 hcall
    obtain ⟨_, _, hrow⟩ := Transition.insertObject_eq_ok_iff.1 hstored
    obtain ⟨_, _, rfl⟩ := Store.insertObject_eq_ok_iff.1 hrow
    exact .none rfl
  | create registry actor now request =>
    obtain ⟨edge, hcreated⟩ := Transition.void_eq_ok_iff.1 hcall
    obtain ⟨hmakes, hfresh, hperm⟩ := edge_of_create hcreated
    exact .adds edge hmakes hfresh hperm
  | createDerived registry actor now parent source destination =>
    obtain ⟨_, hderived⟩ := Transition.void_eq_ok_iff.1 hcall
    rcases Transition.createDerived_eq_ok_iff.1 hderived with
      ⟨_, _, _, hsame⟩ | ⟨edge, _, _, hmade⟩
    · exact .none (congrArg Store.relationships hsame)
    · obtain ⟨run, recorded, hrun, hcreated⟩ := Transition.createFromParent_eq_ok_iff.1 hmade
      obtain ⟨_, _, _, _, rfl⟩ := Store.insertAutomapping_eq_ok_iff.1 hrun
      obtain ⟨⟨hsource, hdestination, hexternal, hadmitted⟩, hfresh, hperm⟩ :=
        edge_of_create hcreated
      exact .adds edge
        ⟨Option.some.inj hsource, Option.some.inj hdestination, hexternal, hadmitted⟩ hfresh hperm
  | delete registry actor id =>
    obtain ⟨_, hdeleted⟩ := Transition.void_eq_ok_iff.1 hcall
    exact changesEdges_delete hintegrity hdeleted
  | deleteObject registry actor stub =>
    obtain ⟨_, hdeleted⟩ := Transition.void_eq_ok_iff.1 hcall
    exact changesEdges_deleteObject hintegrity hdeleted

/-! ## What comes, goes and stays -/

variable {call : GraphCall} {edge : Relationship}

theorem ChangesEdges.makes_of_gains (hchanges : call.ChangesEdges store after)
    (hgains : store.Gains after edge) : call.Makes edge := by
  obtain ⟨hafter, hnew⟩ := hgains
  cases hchanges with
  | adds made hmakes _ hedges =>
    rcases List.mem_cons.1 (hedges.mem_iff.1 hafter) with rfl | hold
    · exact hmakes
    · exact absurd rfl (hnew edge hold)
  | removes gone _ hedges =>
    rw [hedges] at hafter
    obtain ⟨old, hold, _, rfl⟩ := Store.mem_withoutEdges_iff.1 hafter
    exact absurd rfl (hnew old hold)

theorem ChangesEdges.removes_of_loses (hchanges : call.ChangesEdges store after)
    (hloses : store.Loses after edge) : call.Removes edge := by
  obtain ⟨hbefore, hgone⟩ := hloses
  cases hchanges with
  | adds made _ _ hedges =>
    have hkept := hedges.mem_iff.2 (List.mem_cons_of_mem made hbefore)
    exact absurd rfl (hgone edge hkept)
  | removes gone hremoves hedges =>
    apply hremoves edge hbefore
    by_contra hkept
    rw [hedges] at hgone
    have hstays := Store.mem_withoutEdges_iff.2 ⟨edge, hbefore, hkept, rfl⟩
    exact hgone _ hstays rfl

/-- An edge that is stored after a call is new, or it was stored before with what it has now, but
for a parent that is gone. -/
theorem ChangesEdges.gains_or_old (hchanges : call.ChangesEdges store after)
    (hafter : edge ∈ after.relationships) :
    store.Gains after edge ∨ ∃ old ∈ store.relationships, ∃ gone, edge = old.forgetting gone := by
  cases hchanges with
  | adds made _ hfresh hedges =>
    rcases List.mem_cons.1 (hedges.mem_iff.1 hafter) with rfl | hold
    · exact .inl ⟨hafter, hfresh⟩
    · exact .inr ⟨edge, hold, [], edge.forgetting_nil.symm⟩
  | removes gone _ hedges =>
    rw [hedges] at hafter
    obtain ⟨old, hold, _, rfl⟩ := Store.mem_withoutEdges_iff.1 hafter
    exact .inr ⟨old, hold, gone, rfl⟩

end GraphCall

end RecordGraph
