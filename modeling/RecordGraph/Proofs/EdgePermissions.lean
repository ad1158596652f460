import RecordGraph.Proofs.EdgeChanges
import RecordGraph.Proofs.OpenTransactions

/-!
# Who makes and removes edges

The policy keeps edges between certain types from internal actors, and external actors from
removing edges that are not external.  Both rules hold for whatever a call does to the edges by its
own steps, and in particular for the edges that go with a record.  Calls that store a record or
work on jobs neither make nor remove an edge.

What no rule looks at is a transaction that is lost.  A call that finds no number for its row takes
the edges along that were made since the transaction was opened, and brings those back that were
removed since, whoever made or removed them.
-/

namespace RecordGraph

/-- The actor of a call and the registry under which the actor may make or remove edges. -/
def GraphCall.author? : GraphCall → Option (TypeRegistry × Actor)
  | insertObject _ _ _ => none
  | create registry actor _ _ => some (registry, actor)
  | createDerived registry actor _ _ _ _ => some (registry, actor)
  | delete registry actor _ => some (registry, actor)
  | deleteObject registry actor _ => some (registry, actor)

theorem GraphCall.Makes.admitted {call : GraphCall} {edge : Relationship}
    (hmakes : call.Makes edge) :
    ∃ registry actor, call.author? = some (registry, actor) ∧ edge.Admitted registry actor := by
  cases call with
  | create registry actor now request => exact ⟨registry, actor, rfl, hmakes.2.2.2⟩
  | createDerived registry actor now parent source destination =>
    exact ⟨registry, actor, rfl, hmakes.2.2.2⟩
  | insertObject registry now object => exact hmakes.elim
  | delete registry actor id => exact hmakes.elim
  | deleteObject registry actor stub => exact hmakes.elim

theorem GraphCall.Removes.checked {call : GraphCall} {edge : Relationship}
    (hremoves : call.Removes edge) :
    ∃ registry actor, call.author? = some (registry, actor) ∧
      Graph.checkDelete registry actor edge = .ok () := by
  cases call with
  | delete registry actor id => exact ⟨registry, actor, rfl, hremoves.2⟩
  | deleteObject registry actor stub => exact ⟨registry, actor, rfl, hremoves.2⟩
  | insertObject registry now object => exact hremoves.elim
  | create registry actor now request => exact hremoves.elim
  | createDerived registry actor now parent source destination => exact hremoves.elim

/-- An internal actor passes the policy when no rule restricts the types. -/
theorem Policy.restriction?_eq_none_of_internal {scoping : List String} {actor : Actor}
    {source destination : String} (hinternal : actor.external = false)
    (hallowed : violation? scoping actor.external source destination = none) :
    restriction? scoping source destination = none := by
  simpa only [violation?, hinternal, Bool.false_eq_true, if_false] using hallowed

namespace StoreCall

def author? : StoreCall → Option (TypeRegistry × Actor)
  | graph call => call.author?
  | ledger _ => none

/-- An internal actor makes the edge only between types that no rule restricts. -/
def MayMake (call : StoreCall) (edge : Relationship) : Prop :=
  ∃ registry actor, call.author? = some (registry, actor) ∧
    (actor.external = false →
      Policy.restriction? registry.scopingNames edge.source.type edge.destination.type = none)

/-- The edge passes the check of the call's actor: an internal actor removes edges only between
types that no rule restricts, and an external actor external edges only. -/
def MayRemove (call : StoreCall) (edge : Relationship) : Prop :=
  ∃ registry actor, call.author? = some (registry, actor) ∧
    Graph.checkDelete registry actor edge = .ok () ∧
    (actor.external = false →
      Policy.restriction? registry.scopingNames edge.source.type edge.destination.type = none) ∧
    (actor.external = true → edge.external = true)

/-- The edges that differ between two stores differ by right. -/
def ChangesByRight (call : StoreCall) (before after : Store) : Prop :=
  (∀ edge, before.Gains after edge → call.MayMake edge) ∧
    ∀ edge, before.Loses after edge → call.MayRemove edge

variable {call : StoreCall} {before after : Store}

theorem ChangesByRight.of_same (hsame : after.relationships = before.relationships) :
    call.ChangesByRight before after :=
  ⟨fun _ hgains => absurd hgains (Store.not_gains_of_same hsame),
    fun _ hloses => absurd hloses (Store.not_loses_of_same hsame)⟩

theorem changesByRight_of_transition (call : StoreCall) (hintegrity : before.Integrity)
    (hcall : call.transition before = .ok ((), after)) : call.ChangesByRight before after := by
  cases call with
  | graph call =>
    have hchanges := call.changesEdges_of_transition hintegrity hcall
    constructor
    · intro edge hgains
      obtain ⟨registry, actor, hauthor, hadmitted⟩ := (hchanges.makes_of_gains hgains).admitted
      exact ⟨registry, actor, hauthor, fun hinternal =>
        Policy.restriction?_eq_none_of_internal hinternal hadmitted.allowed⟩
    · intro edge hloses
      obtain ⟨registry, actor, hauthor, hchecked⟩ := (hchanges.removes_of_loses hloses).checked
      obtain ⟨hallowed, hexternal⟩ := Graph.checkDelete_eq_ok_iff.1 hchecked
      exact ⟨registry, actor, hauthor, hchecked, fun hinternal =>
        Policy.restriction?_eq_none_of_internal hinternal hallowed, hexternal⟩
  | ledger call =>
    obtain ⟨_, _, rfl⟩ := LedgerCall.eq_withJobs_of_transition hcall
    exact .of_same rfl

/-- Where references are in order, a call that keeps the transaction changes the edges by right: it
makes only edges that its actor may make and removes only edges that its actor may remove.  A call
that ends the transaction is refused and goes back to the store before the transaction, so that the
edges change by right just if the actor may undo what was done to them since. -/
theorem edges_change_by_right (call : StoreCall) (connection : Connection)
    (hintegrity : connection.store.Integrity) :
    (call.ChangesByRight connection.store (call.perform connection).connection.store ↔
        (call.EndsTransaction connection →
          call.ChangesByRight connection.store connection.committed)) ∧
      (call.EndsTransaction connection →
        (call.perform connection).result = .error (.storage .full) ∧
          (call.perform connection).connection = connection.abort) := by
  refine ⟨?_, EndsTransaction.perform_eq⟩
  have hstore := call.realizes_perform.store_iff (ChangesByRight.of_same rfl)
    fun _ _ hcall => call.changesByRight_of_transition hintegrity hcall
  rw [hstore, EndsTransaction, and_imp, transition_eq_full_iff]

/-- Four records without an edge. -/
def fourRecords : Store where
  objects := [.draft "Control" 3 "c", .draft "Issue" 2 "i", .draft "Objective" 1 "o",
    .draft "Regulation" 4 "r"]

/-- An external edge between the control and the regulation. -/
def restrictedEdge : Relationship :=
  { Relationship.bare 1 ⟨"Control", 3⟩ ⟨"Regulation", 4⟩ with external := true }

/-- A transaction in which an integration made that edge and the greatest number was given out. -/
def restrictedEdgeMade : Connection where
  store :=
    { fourRecords with
      relationships := [restrictedEdge, GraphCall.lastEdge]
      lastRelationshipId := Decimal.maxId }
  frames := [⟨none, fourRecords⟩]

/-- An internal actor who may neither make nor remove the edge maps the control to the objective,
and the edge of the integration is gone. -/
theorem restricted_edge_undone :
    restrictedEdgeMade.store.Integrity ∧
      (graph GraphCall.controlMapped).EndsTransaction restrictedEdgeMade ∧
      restrictedEdgeMade.store.Loses
        ((graph GraphCall.controlMapped).perform restrictedEdgeMade).connection.store
        restrictedEdge ∧
      ¬(graph GraphCall.controlMapped).MayRemove restrictedEdge ∧
      ¬(graph GraphCall.controlMapped).ChangesByRight restrictedEdgeMade.store
        ((graph GraphCall.controlMapped).perform restrictedEdgeMade).connection.store := by
  have hintegrity : restrictedEdgeMade.store.Integrity := by
    have hends : ∀ edge ∈ restrictedEdgeMade.store.relationships,
        restrictedEdgeMade.store.hasObject edge.source = true ∧
          restrictedEdgeMade.store.hasObject edge.destination = true := by decide
    refine ⟨by decide, ?_, by decide, by decide, by decide, by decide, by decide⟩
    intro edge hedge edgeEnd
    cases edgeEnd with
    | source => exact (hends edge hedge).1
    | destination => exact (hends edge hedge).2
  have hends : (graph GraphCall.controlMapped).EndsTransaction restrictedEdgeMade :=
    ⟨List.cons_ne_nil _ _, ⟨_, rfl⟩, Int.le_refl _⟩
  obtain ⟨hright, hundone⟩ :=
    edges_change_by_right (graph GraphCall.controlMapped) restrictedEdgeMade hintegrity
  have hloses : restrictedEdgeMade.store.Loses restrictedEdgeMade.committed restrictedEdge :=
    ⟨List.mem_cons_self, fun _ hkept => nomatch hkept⟩
  have hrestricted : ¬(graph GraphCall.controlMapped).MayRemove restrictedEdge := by
    rintro ⟨_, _, hauthor, _, hinternal, _⟩
    cases hauthor
    exact absurd (hinternal rfl) (by decide)
  refine ⟨hintegrity, hends, ?_, hrestricted, fun hchanges => ?_⟩
  · rw [(hundone hends).2]
    exact hloses
  · exact hrestricted ((hright.1 hchanges hends).2 restrictedEdge hloses)

end StoreCall

end RecordGraph
