import RecordGraph.Proofs.CommandTurns
import RecordGraph.Proofs.EdgePermissions

/-!
# Edges that nobody may remove

Between types that a rule restricts, internal actors remove nothing and external actors remove
external edges only.  An edge between such types that is not external is therefore stuck.  Commands
that map two records directly never leave one: a restricted pair takes an external actor, and the
edge of an external actor is external.  A derived edge however is external where its parent is,
whoever derives it.  This module proves that the derivations by external actors from parents that
are not external, between restricted types, are exactly the turns that strand an edge, and that the
edge then stays for good.
-/

namespace RecordGraph

/-- No actor may remove the edge. -/
def Relationship.Stuck (registry : TypeRegistry) (edge : Relationship) : Prop :=
  ∀ actor, Graph.checkDelete registry actor edge ≠ .ok ()

/-- A rule restricts the two types of the edge. -/
def Relationship.Restricted (registry : TypeRegistry) (edge : Relationship) : Prop :=
  Policy.restriction? registry.scopingNames edge.source.type edge.destination.type ≠ none

/-- A stuck edge is stored under the number. -/
def Store.HoldsStuck (registry : TypeRegistry) (store : Store) (id : Int) : Prop :=
  ∃ edge ∈ store.relationships, edge.id = id ∧ edge.Stuck registry

theorem Relationship.stuck_iff {registry : TypeRegistry} {edge : Relationship} :
    edge.Stuck registry ↔ edge.Restricted registry ∧ edge.external = false := by
  constructor
  · intro hstuck
    constructor
    · intro hfree
      apply hstuck (Actor.internal 0)
      exact Graph.checkDelete_eq_ok_iff.2 ⟨hfree, fun hexternal => nomatch hexternal⟩
    · by_contra hexternal
      apply hstuck (Actor.integration 0)
      exact Graph.checkDelete_eq_ok_iff.2 ⟨rfl, fun _ => Bool.of_not_eq_false hexternal⟩
  · intro hparts actor hcheck
    obtain ⟨hrestricted, hinternal⟩ := hparts
    obtain ⟨hallowed, hexternal⟩ := Graph.checkDelete_eq_ok_iff.1 hcheck
    cases hactor : actor.external with
    | true =>
      rw [hexternal hactor] at hinternal
      cases hinternal
    | false => exact hrestricted (Policy.restriction?_eq_none_of_internal hactor hallowed)

/-- Only an external actor may make an edge between restricted types. -/
theorem Relationship.Admitted.external_of_restricted {registry : TypeRegistry} {actor : Actor}
    {edge : Relationship} (hadmitted : edge.Admitted registry actor)
    (hrestricted : edge.Restricted registry) : actor.external = true := by
  by_contra hinternal
  exact hrestricted (Policy.restriction?_eq_none_of_internal (Bool.of_not_eq_true hinternal)
    hadmitted.allowed)

namespace Turn

variable {registry : TypeRegistry} {turn : Turn} {store : Store}

/-- An external actor derives an edge between restricted types from an edge that is not
external. -/
def DerivesAcross (registry : TypeRegistry) (turn : Turn) (store : Store) : Prop :=
  turn.actor.external = true ∧
    ∃ source destination external parent parentEdge,
      turn.command = .map source destination external (some parent) ∧
        store.relationship? parent = some parentEdge ∧ parentEdge.external = false ∧
        Policy.restriction? registry.scopingNames source.type destination.type ≠ none

/-- The turn derives an edge like that, and the edge is stored under the number. -/
def Strands (registry : TypeRegistry) (turn : Turn) (store : Store) (id : Int) : Prop :=
  turn.DerivesAcross registry store ∧ store.hasRelationship id = false ∧
    (turn.apply registry store).hasRelationship id = true

/-- The call of a turn is made by its actor, under the registry. -/
theorem author_of_graphCall {call : GraphCall} {found : TypeRegistry} {actor : Actor}
    (hgraph : turn.graphCall? registry store = some call)
    (hauthor : call.author? = some (found, actor)) : found = registry ∧ actor = turn.actor := by
  obtain ⟨_, mode, now, command⟩ := turn
  cases command with
  | map source destination external parent =>
    cases parent with
    | none =>
      cases hgraph
      cases hauthor
      exact ⟨rfl, rfl⟩
    | some parent =>
      obtain ⟨_, _, rfl⟩ := Option.map_eq_some_iff.1 hgraph
      cases hauthor
      exact ⟨rfl, rfl⟩
  | removeObject stub =>
    cases hgraph
    cases hauthor
    exact ⟨rfl, rfl⟩
  | unmap id =>
    cases hgraph
    cases hauthor
    exact ⟨rfl, rfl⟩
  | addObject type id title origin =>
    cases hgraph
    cases hauthor
  | _ => cases hgraph

theorem admitted_of_makes {call : GraphCall} {edge : Relationship}
    (hgraph : turn.graphCall? registry store = some call) (hmakes : call.Makes edge) :
    edge.Admitted registry turn.actor := by
  obtain ⟨_, _, hauthor, hadmitted⟩ := hmakes.admitted
  obtain ⟨rfl, rfl⟩ := author_of_graphCall hgraph hauthor
  exact hadmitted

/-- What a turn removes is not stuck. -/
theorem not_stuck_of_removes {call : GraphCall} {edge : Relationship}
    (hgraph : turn.graphCall? registry store = some call) (hremoves : call.Removes edge) :
    ¬edge.Stuck registry := by
  obtain ⟨_, _, hauthor, hcheck⟩ := hremoves.checked
  obtain ⟨rfl, rfl⟩ := author_of_graphCall hgraph hauthor
  exact fun hstuck => hstuck turn.actor hcheck

/-- A derived edge is stuck just when it is derived like that. -/
theorem stuck_iff_of_derived {source destination : Stub} {external : Bool} {parent : Int}
    {call : GraphCall} {edge : Relationship}
    (hcommand : turn.command = .map source destination external (some parent))
    (hgraph : turn.graphCall? registry store = some call) (hmakes : call.Makes edge) :
    edge.Stuck registry ↔ turn.DerivesAcross registry store := by
  have hadmitted := admitted_of_makes hgraph hmakes
  rw [graphCall?, hcommand] at hgraph
  obtain ⟨parentEdge, hparent, rfl⟩ := Option.map_eq_some_iff.1 hgraph
  obtain ⟨hsource, hdestination, hexternal, _⟩ := hmakes
  rw [Store.endpoint_stub] at hsource hdestination
  subst hsource hdestination
  rw [Relationship.stuck_iff, hexternal]
  constructor
  · intro hstuck
    exact ⟨hadmitted.external_of_restricted hstuck.1, _, _, _, _, _, hcommand, hparent, hstuck.2,
      hstuck.1⟩
  · intro hderives
    obtain ⟨_, _, _, _, _, _, hsame, hfound, hinternal, hrestricted⟩ := hderives
    rw [hcommand] at hsame
    cases hsame
    rw [hparent] at hfound
    cases hfound
    exact ⟨hrestricted, hinternal⟩

/-- An edge that a turn makes is stuck just when the turn derives it like that. -/
theorem stuck_iff_of_makes {call : GraphCall} {edge : Relationship}
    (hgraph : turn.graphCall? registry store = some call) (hmakes : call.Makes edge) :
    edge.Stuck registry ↔ turn.DerivesAcross registry store := by
  cases hcommand : turn.command with
  | map source destination external parent =>
    cases parent with
    | some parent => exact stuck_iff_of_derived hcommand hgraph hmakes
    | none =>
      have hadmitted := admitted_of_makes hgraph hmakes
      have hderives : ¬turn.DerivesAcross registry store := by
        intro hderives
        obtain ⟨_, _, _, _, _, _, hsame, _⟩ := hderives
        rw [hcommand] at hsame
        cases hsame
      rw [graphCall?, hcommand] at hgraph
      cases hgraph
      obtain ⟨_, _, hexternal, _⟩ := hmakes
      refine iff_of_false ?_ hderives
      rw [Relationship.stuck_iff]
      intro hstuck
      -- The actor is external, and then so is the edge.
      have hactor := hadmitted.external_of_restricted hstuck.1
      rw [hstuck.2] at hexternal
      simp [session, hactor] at hexternal
  | addObject type id title origin =>
    rw [graphCall?, hcommand] at hgraph
    cases hgraph
    exact hmakes.elim
  | removeObject stub =>
    rw [graphCall?, hcommand] at hgraph
    cases hgraph
    exact hmakes.elim
  | unmap id =>
    rw [graphCall?, hcommand] at hgraph
    cases hgraph
    exact hmakes.elim
  | _ =>
    rw [graphCall?, hcommand] at hgraph
    cases hgraph

/-! ## One turn -/

/-- Making an edge adds it to the stuck ones if it is stranded. -/
theorem holdsStuck_of_makes {after : Store} {call : GraphCall} {made : Relationship} {id : Int}
    (hgraph : turn.graphCall? registry store = some call) (hmakes : call.Makes made)
    (hfresh : ∀ old ∈ store.relationships, old.id ≠ made.id)
    (hedges : after.relationships.Perm (made :: store.relationships)) :
    after.HoldsStuck registry id ↔
      store.HoldsStuck registry id ∨
        (turn.DerivesAcross registry store ∧ store.hasRelationship id = false ∧
          after.hasRelationship id = true) := by
  have hnew : (store.hasRelationship id = false ∧ after.hasRelationship id = true) ↔
      made.id = id := by
    rw [Store.hasRelationship_eq_false_iff, Store.hasRelationship_iff]
    simp only [hedges.mem_iff, List.mem_cons, exists_eq_or_imp]
    constructor
    · intro hstored
      obtain ⟨hbefore, hid | ⟨old, hold, hid⟩⟩ := hstored
      · exact hid
      · exact absurd hid (hbefore old hold)
    · intro hid
      rw [← hid]
      exact ⟨hfresh, .inl rfl⟩
  rw [hnew, ← stuck_iff_of_makes hgraph hmakes]
  simp only [Store.HoldsStuck, hedges.mem_iff, List.mem_cons, exists_eq_or_imp]
  rw [or_comm, and_comm (a := made.id = id)]

/-- Removing edges that are not stuck leaves the stuck ones. -/
theorem holdsStuck_withoutEdges {gone : List Int} {id : Int}
    (hgone : ∀ edge ∈ store.relationships, edge.id ∈ gone → ¬edge.Stuck registry) :
    (store.withoutEdges gone).HoldsStuck registry id ↔ store.HoldsStuck registry id := by
  constructor
  · intro hholds
    obtain ⟨edge, hedge, hid, hstuck⟩ := hholds
    obtain ⟨old, hold, _, rfl⟩ := Store.mem_withoutEdges_iff.1 hedge
    exact ⟨old, hold, hid, hstuck⟩
  · intro hholds
    obtain ⟨edge, hedge, hid, hstuck⟩ := hholds
    have hkept : edge.id ∉ gone := fun hremoved => hgone edge hedge hremoved hstuck
    exact ⟨edge.forgetting gone, Store.mem_withoutEdges_iff.2 ⟨edge, hedge, hkept, rfl⟩, hid,
      hstuck⟩

/-- A turn leaves stuck edges where they are, and adds the one that it strands. -/
theorem holdsStuck_apply_iff {id : Int} (hintegrity : store.Integrity) :
    (turn.apply registry store).HoldsStuck registry id ↔
      store.HoldsStuck registry id ∨ turn.Strands registry store id := by
  rcases turn.apply_cases registry store with ⟨jobs, last, hjobs⟩ | ⟨call, hgraph, hcall⟩
  · have hstrands : ¬turn.Strands registry store id := by
      intro hstrands
      obtain ⟨_, hbefore, hafter⟩ := hstrands
      rw [hjobs] at hafter
      exact absurd hafter (Bool.eq_false_iff.1 hbefore)
    rw [hjobs, or_iff_left hstrands]
    rfl
  · cases call.changesEdges_of_transition hintegrity hcall with
    | adds made hmakes hfresh hedges => exact holdsStuck_of_makes hgraph hmakes hfresh hedges
    | removes gone hremoves hedges =>
      have hstrands : ¬turn.Strands registry store id := by
        intro hstrands
        obtain ⟨_, hbefore, hafter⟩ := hstrands
        rw [Store.hasRelationship, hedges, ← Store.hasRelationship] at hafter
        have hstored := (Store.hasRelationship_withoutEdges_iff.1 hafter).1
        exact absurd hstored (Bool.eq_false_iff.1 hbefore)
      rw [or_iff_left hstrands, Store.HoldsStuck, hedges, ← Store.HoldsStuck]
      exact holdsStuck_withoutEdges fun edge hedge hremoved =>
        not_stuck_of_removes hgraph (hremoves edge hedge hremoved)

/-! ## Runs -/

/-- After a run the stuck edges are those from before it and those that its turns stranded. -/
theorem holdsStuck_run_iff {turns : List Turn} {id : Int} (hintegrity : store.Integrity) :
    (run registry turns store).HoldsStuck registry id ↔
      store.HoldsStuck registry id ∨
        ∃ earlier turn later, turns = earlier ++ turn :: later ∧
          turn.Strands registry (run registry earlier store) id := by
  induction turns generalizing store with
  | nil => simp [run]
  | cons first rest ih =>
    have hrest := ih (integrity_apply registry first hintegrity)
    rw [holdsStuck_apply_iff hintegrity, or_assoc] at hrest
    refine hrest.trans (or_congr_right ?_)
    constructor
    · intro hstrands
      rcases hstrands with hfirst | ⟨earlier, turn, later, rfl, hturn⟩
      · exact ⟨[], first, rest, rfl, hfirst⟩
      · exact ⟨first :: earlier, turn, later, rfl, hturn⟩
    · intro hstrands
      obtain ⟨earlier, turn, later, hturns, hturn⟩ := hstrands
      cases earlier with
      | nil =>
        cases hturns
        exact .inl hturn
      | cons _ earlier =>
        cases hturns
        exact .inr ⟨earlier, turn, later, rfl, hturn⟩

/-- After any commands on a fresh store, under one registry: nobody may remove the edge of a number
just when some turn stranded it, that is, when an external actor derived it between types that a
rule restricts from an edge that is not external.  Such an edge is never removed again; every other
edge may be removed by an internal or an external actor. -/
theorem stuck_iff_stranded (registry : TypeRegistry) (turns : List Turn) (id : Int) :
    (∃ edge ∈ (run registry turns .empty).relationships,
        edge.id = id ∧ ∀ actor, Graph.checkDelete registry actor edge ≠ .ok ()) ↔
      ∃ earlier turn later, turns = earlier ++ turn :: later ∧
        turn.Strands registry (run registry earlier .empty) id := by
  have hnone : ¬Store.empty.HoldsStuck registry id := by
    intro hholds
    obtain ⟨_, hedge, _⟩ := hholds
    cases hedge
  exact (holdsStuck_run_iff Store.Integrity.empty).trans (or_iff_right hnone)

/-- Three records and an edge between two of them, made by an internal actor. -/
def beforeDerivation : List Turn :=
  [⟨⟨1, false⟩, .json, 0, .addObject "Control" 1 none none⟩,
    ⟨⟨1, false⟩, .json, 0, .addObject "Regulation" 2 none none⟩,
    ⟨⟨1, false⟩, .json, 0, .addObject "Objective" 3 none none⟩,
    ⟨⟨1, false⟩, .json, 0, .map ⟨"Control", 1⟩ ⟨"Objective", 3⟩ false none⟩]

/-- An integration derives an edge from that one. -/
def controlDerivation : Turn :=
  ⟨⟨1, true⟩, .json, 0, .map ⟨"Control", 1⟩ ⟨"Regulation", 2⟩ true (some 1)⟩

/-- Neither an internal nor an external actor may remove the derived edge. -/
theorem derived_control_stuck :
    ∃ edge ∈ (run .builtin (beforeDerivation ++ [controlDerivation]) .empty).relationships,
      edge.id = 2 ∧ ∀ actor, Graph.checkDelete .builtin actor edge ≠ .ok () := by
  apply (stuck_iff_stranded .builtin (beforeDerivation ++ [controlDerivation]) 2).2
  refine ⟨beforeDerivation, controlDerivation, [], rfl, ⟨rfl, ?_⟩, ?_⟩
  · exact ⟨_, _, _, _, _, rfl, rfl, rfl, by decide⟩
  · decide +kernel

end Turn

end RecordGraph
