import Mathlib.Logic.Relation
import RecordGraph.Proofs.RowContinuity

/-!
# Removing a mapping run

With the row of a mapping run go the edges that it made, and what referred to these edges forgets
them: other edges their parent, other runs the edge that set them off.  The edges of a run may be
derived from each other, and then a row that is about to go may lose its parent first.  Here the
store that is left is described at once, and each single change that the schema asks for is a step
of its own.  In whatever order the steps are taken, they come to an end, and always at that store.
-/

namespace RecordGraph

namespace Store

/-! ## The rows that are left -/

/-- The store without the row of a mapping run. -/
def dropRun (store : Store) (id : Int) : Store :=
  { store with automappings := store.automappings.filter (fun run => run.id != id) }

/-- The store without a mapping run and the edges that it made, every reference to these edges
forgotten. -/
def withoutRun (store : Store) (id : Int) : Store :=
  let gone := (store.edgesOfRun id).map Relationship.id
  { store with
    relationships := (store.relationships.filter (fun edge => edge.automappingId != some id)).map
      (fun edge => edge.forgetting gone)
    automappings := (store.automappings.filter (fun run => run.id != id)).map
      (fun run => run.forgetting gone) }

variable {store after : Store} {id : Int}

/-- Removing the edges of a run one after the other removes them at once. -/
theorem removeAutomapping_eq_withoutEdges (store : Store) (id : Int) :
    store.removeAutomapping id =
      (store.dropRun id).withoutEdges ((store.edgesOfRun id).map Relationship.id) :=
  (store.dropRun id).removeRelationships_eq_withoutEdges (store.edgesOfRun id)

/-- Where a number names one edge, the edges that stay are those of other runs and of none. -/
theorem filter_edgesOfRun
    (hids : store.relationships.Pairwise fun left right => left.id ≠ right.id) (id : Int) :
    store.relationships.filter
        (fun edge => !((store.edgesOfRun id).map Relationship.id).contains edge.id) =
      store.relationships.filter (fun edge => edge.automappingId != some id) := by
  apply List.filter_congr
  intro edge hedge
  rw [edgesOfRun, contains_id_filter hids _ hedge]
  rfl

theorem removeAutomapping_eq_withoutRun
    (hids : store.relationships.Pairwise fun left right => left.id ≠ right.id) :
    store.removeAutomapping id = store.withoutRun id := by
  rw [removeAutomapping_eq_withoutEdges, withoutEdges, dropRun, filter_edgesOfRun hids]
  rfl

/-! ## The rules of the schema -/

theorem dropRun_withoutEdges (store : Store) (id : Int) (gone : List Int) :
    (store.dropRun id).withoutEdges gone = (store.withoutEdges gone).dropRun id := by
  simp only [dropRun, withoutEdges, List.filter_map]
  rfl

theorem hasAutomapping_dropRun {other : Int} :
    (store.dropRun id).hasAutomapping other = true ↔
      store.hasAutomapping other = true ∧ other ≠ id := by
  simp only [hasAutomapping_iff, dropRun, List.mem_filter, bne_iff_ne]
  constructor
  · rintro ⟨run, ⟨hrun, hother⟩, rfl⟩
    exact ⟨⟨run, hrun, rfl⟩, hother⟩
  · rintro ⟨⟨run, hrun, rfl⟩, hother⟩
    exact ⟨run, ⟨hrun, hother⟩, rfl⟩

/-- A run that made no edge may go. -/
theorem Lawful.dropRun (hlawful : store.Lawful)
    (hunused : ∀ edge ∈ store.relationships, edge.automappingId ≠ some id) :
    (store.dropRun id).Lawful := by
  refine { hlawful with runs := ?_, triggers := ?_ }
  · intro edge hedge made hmade
    refine hasAutomapping_dropRun.2 ⟨hlawful.runs edge hedge made hmade, ?_⟩
    rintro rfl
    exact hunused edge hedge hmade
  · intro run hrun trigger htrigger
    exact hlawful.triggers run (List.mem_filter.1 hrun).1 trigger htrigger

theorem Lawful.withoutRun (hlawful : store.Lawful) (id : Int) : (store.withoutRun id).Lawful := by
  rw [← removeAutomapping_eq_withoutRun hlawful.ids, removeAutomapping_eq_withoutEdges,
    dropRun_withoutEdges]
  refine (hlawful.withoutEdges _).dropRun ?_
  intro edge hedge hmade
  obtain ⟨old, hold, hkept, rfl⟩ := mem_withoutEdges_iff.1 hedge
  rw [Relationship.forgetting_automappingId] at hmade
  exact hkept (List.mem_map_of_mem (List.mem_filter.2 ⟨hold, beq_iff_eq.2 hmade⟩))

/-! ## Single steps -/

/-- One row is changed because its reference leads nowhere: an edge without its run goes, an edge
without its parent forgets the parent, and a run without its trigger forgets the trigger. -/
inductive Fires (store : Store) : Store → Prop
  | cascade {left right : List Relationship} {edge : Relationship} {run : Int}
      (hrows : store.relationships = left ++ edge :: right)
      (hrun : edge.automappingId = some run) (hgone : store.hasAutomapping run = false) :
      Fires store { store with relationships := left ++ right }
  | forgetParent {left right : List Relationship} {edge : Relationship} {parent : Int}
      (hrows : store.relationships = left ++ edge :: right)
      (hparent : edge.parentId = some parent) (hgone : store.hasRelationship parent = false) :
      Fires store
        { store with relationships := left ++ { edge with parentId := none } :: right }
  | forgetTrigger {left right : List Automapping} {run : Automapping} {trigger : Int}
      (hrows : store.automappings = left ++ run :: right)
      (htrigger : run.relationshipId = some trigger)
      (hgone : store.hasRelationship trigger = false) :
      Fires store
        { store with automappings := left ++ { run with relationshipId := none } :: right }

/-- Nothing is left to do exactly where every reference leads to a stored row. -/
theorem quiet_iff_foreignKeys : (∀ after, ¬store.Fires after) ↔ store.ForeignKeys := by
  constructor
  · intro hquiet
    refine ⟨?_, ?_, ?_⟩
    · intro edge hedge parent hparent
      obtain ⟨_, _, hrows⟩ := List.append_of_mem hedge
      exact eq_true_of_ne_false fun hgone => hquiet _ (.forgetParent hrows hparent hgone)
    · intro edge hedge run hrun
      obtain ⟨_, _, hrows⟩ := List.append_of_mem hedge
      exact eq_true_of_ne_false fun hgone => hquiet _ (.cascade hrows hrun hgone)
    · intro run hrun trigger htrigger
      obtain ⟨_, _, hrows⟩ := List.append_of_mem hrun
      exact eq_true_of_ne_false fun hgone => hquiet _ (.forgetTrigger hrows htrigger hgone)
  · intro hkeys after hfires
    cases hfires with
    | cascade hrows hrun hgone =>
      exact ne_true_of_eq_false hgone
        (hkeys.runs _ (hrows ▸ List.mem_append_cons_self) _ hrun)
    | forgetParent hrows hparent hgone =>
      exact ne_true_of_eq_false hgone
        (hkeys.parents _ (hrows ▸ List.mem_append_cons_self) _ hparent)
    | forgetTrigger hrows htrigger hgone =>
      exact ne_true_of_eq_false hgone
        (hkeys.triggers _ (hrows ▸ List.mem_append_cons_self) _ htrigger)

/-! ## Every order comes to an end -/

/-- The edges that may go and the references that may be forgotten. -/
def pending (store : Store) : Nat :=
  store.relationships.length + store.relationships.countP (fun edge => edge.parentId.isSome) +
    store.automappings.countP (fun run => run.relationshipId.isSome)

theorem Fires.pending_lt (hfires : store.Fires after) : after.pending < store.pending := by
  cases hfires with
  | cascade hrows hrun hgone =>
    simp only [pending, hrows, List.length_append, List.length_cons, List.countP_append,
      List.countP_cons]
    omega
  | forgetParent hrows hparent hgone =>
    simp [pending, hrows, hparent, List.countP_append]
  | forgetTrigger hrows htrigger hgone =>
    simp [pending, hrows, htrigger, List.countP_append]

theorem fires_wellFounded : WellFounded fun after store : Store => store.Fires after :=
  Subrelation.wf Fires.pending_lt (measure pending).wf

/-! ## Every order ends at the same store -/

/-- Whether the run of an edge is stored, if it has one. -/
def supports (store : Store) (edge : Relationship) : Bool :=
  edge.automappingId.all store.hasAutomapping

/-- The store without the edges whose run is not stored. -/
def supported (store : Store) : Store :=
  { store with relationships := store.relationships.filter store.supports }

/-- What the steps aim at: of the edges and the references, those that lead to what stays. -/
def settled (store : Store) : Store :=
  { store with
    relationships := (store.relationships.filter store.supports).map
      (fun edge => edge.asOf store.supported)
    automappings := store.automappings.map (fun run => run.asOf store.supported) }

/-- A reference that leads nowhere is as good as none. -/
theorem remembered_eq_none (hgone : store.hasRelationship id = false) :
    store.supported.remembered (some id) = none := by
  have hunsupported : store.supported.hasRelationship id = false := by
    rw [hasRelationship_eq_false_iff] at hgone ⊢
    exact fun edge hedge => hgone edge (List.mem_filter.1 hedge).1
  rw [remembered_some, hunsupported]
  rfl

/-- A store settles as another does if the same numbers stay and the same rows are kept. -/
theorem settled_eq_of_same
    (hrest : after = { store with
      relationships := after.relationships, automappings := after.automappings })
    (hnumbers : ∀ number,
      after.supported.hasRelationship number = store.supported.hasRelationship number)
    (hedges : (after.relationships.filter after.supports).map
        (fun edge => edge.asOf store.supported) =
      (store.relationships.filter store.supports).map (fun edge => edge.asOf store.supported))
    (hruns : after.automappings.map (fun run => run.asOf store.supported) =
      store.automappings.map (fun run => run.asOf store.supported)) :
    after.settled = store.settled := by
  have hremembered : after.supported.remembered = store.supported.remembered :=
    funext fun _ => remembered_congr fun number _ => hnumbers number
  simp only [Relationship.asOf, Automapping.asOf] at hedges hruns
  simp only [settled, Relationship.asOf, Automapping.asOf, hremembered, hedges, hruns]
  rw [hrest]

/-- A step takes nothing from what is kept in the end. -/
theorem Fires.settled_eq (hfires : store.Fires after) : after.settled = store.settled := by
  cases hfires with
  | @cascade left right edge run hrows hrun hgone =>
    have hdropped : ¬store.supports edge = true := by
      rw [supports, hrun, Option.all_some, hgone]
      exact Bool.false_ne_true
    have hkept : (left ++ right).filter store.supports =
        store.relationships.filter store.supports := by
      rw [hrows, List.filter_append, List.filter_append, List.filter_cons_of_neg hdropped]
    refine settled_eq_of_same rfl (fun number => ?_) (congrArg (List.map _) hkept) rfl
    exact congrArg (fun edges : List Relationship => edges.any (·.id == number)) hkept
  | @forgetParent left right edge parent hrows hparent hgone =>
    have hcleared : ({ edge with parentId := none } : Relationship).asOf store.supported =
        edge.asOf store.supported := by
      rw [Relationship.asOf, Relationship.asOf, hparent, remembered_eq_none hgone]
      rfl
    refine settled_eq_of_same rfl (fun number => ?_) ?_ rfl
    · simp only [hasRelationship, supported, hrows, List.any_filter, List.any_append, List.any_cons]
      rfl
    · -- The edge stays or goes with its run, as it did before.
      have hedge : store.supports { edge with parentId := none } = store.supports edge := rfl
      change ((left ++ { edge with parentId := none } :: right).filter store.supports).map _ = _
      simp only [hrows, List.filter_append, List.filter_cons, List.map_append, hedge]
      split
      · rw [List.map_cons, List.map_cons, hcleared]
      · rfl
  | @forgetTrigger left right run trigger hrows htrigger hgone =>
    have hcleared : ({ run with relationshipId := none } : Automapping).asOf store.supported =
        run.asOf store.supported := by
      rw [Automapping.asOf, Automapping.asOf, htrigger, remembered_eq_none hgone]
      rfl
    have hsupports : ({ store with
        automappings := left ++ { run with relationshipId := none } :: right } : Store).supports =
          store.supports := by
      funext edge
      refine congrArg (fun stored => edge.automappingId.all stored) (funext fun number => ?_)
      simp only [hasAutomapping, hrows, List.any_append, List.any_cons]
    refine settled_eq_of_same rfl (fun number => ?_) ?_ ?_
    · simp only [hasRelationship, supported, hsupports]
    · rw [hsupports]
    · simp only [hrows, List.map_append, List.map_cons, hcleared]

theorem settled_eq_of_steps (hsteps : Relation.ReflTransGen Fires store after) :
    after.settled = store.settled := by
  induction hsteps with
  | refl => rfl
  | tail _ hfires ih => exact hfires.settled_eq.trans ih

theorem ForeignKeys.edge_asOf (hkeys : store.ForeignKeys) {edge : Relationship}
    (hedge : edge ∈ store.relationships) : edge.asOf store = edge := by
  rw [Relationship.asOf, remembered_of_stored (hkeys.parents edge hedge)]

theorem ForeignKeys.run_asOf (hkeys : store.ForeignKeys) {run : Automapping}
    (hrun : run ∈ store.automappings) : run.asOf store = run := by
  rw [Automapping.asOf, remembered_of_stored (hkeys.triggers run hrun)]

/-- Where every reference leads to a stored row, the store has settled. -/
theorem settled_eq_self (hkeys : store.ForeignKeys) : store.settled = store := by
  have hedges : store.relationships.filter store.supports = store.relationships := by
    refine List.filter_eq_self.2 fun edge hedge => ?_
    exact (Option.all_eq_true _ _).2 (hkeys.runs edge hedge)
  have hsame : store.supported = store := by rw [supported, hedges]
  rw [settled, hsame, hedges, List.map_congr_left fun _ => hkeys.edge_asOf,
    List.map_congr_left fun _ => hkeys.run_asOf, List.map_id', List.map_id']

/-- From every store the steps lead to what it settles to. -/
theorem steps_to_settled (store : Store) : Relation.ReflTransGen Fires store store.settled := by
  induction store using fires_wellFounded.induction with
  | _ store ih =>
    by_cases hquiet : ∀ after, ¬store.Fires after
    · rw [settled_eq_self (quiet_iff_foreignKeys.1 hquiet)]
    · obtain ⟨after, hfires⟩ := not_forall_not.1 hquiet
      have hrest := ih after hfires
      rw [hfires.settled_eq] at hrest
      exact .head hfires hrest

/-- Without the row of a run, the edges that it made are the only ones whose run is not stored. -/
theorem supports_dropRun (hkeys : store.ForeignKeys) (id : Int) {edge : Relationship}
    (hedge : edge ∈ store.relationships) :
    (store.dropRun id).supports edge = (edge.automappingId != some id) := by
  rw [supports]
  cases hmade : edge.automappingId with
  | none => rfl
  | some run =>
    have hstored : store.hasAutomapping run = true := hkeys.runs edge hedge run hmade
    rw [Bool.eq_iff_iff, Option.all_some, hasAutomapping_dropRun]
    simp [hstored]

theorem filter_supports_dropRun (hkeys : store.ForeignKeys) (id : Int) :
    store.relationships.filter (store.dropRun id).supports =
      store.relationships.filter (fun edge => edge.automappingId != some id) :=
  List.filter_congr fun _ => supports_dropRun hkeys id

theorem remembered_dropRun (hlawful : store.Lawful) (id : Int) :
    (store.dropRun id).supported.remembered =
      (store.withoutEdges ((store.edgesOfRun id).map Relationship.id)).remembered := by
  refine funext fun _ => remembered_congr fun number _ => ?_
  simp only [hasRelationship, supported, withoutEdges, filter_edgesOfRun hlawful.ids, List.any_map]
  exact congrArg (List.any · _) (filter_supports_dropRun hlawful.toForeignKeys id)

/-- Without the row of a run, the store settles to what is left after the removal. -/
theorem settled_dropRun (hlawful : store.Lawful) (id : Int) :
    (store.dropRun id).settled = store.withoutRun id := by
  let gone := (store.edgesOfRun id).map Relationship.id
  have hremembered : (store.dropRun id).supported.remembered =
      (store.withoutEdges gone).remembered := remembered_dropRun hlawful id
  have hedges : ∀ edge ∈ store.relationships.filter (fun edge => edge.automappingId != some id),
      edge.asOf (store.dropRun id).supported = edge.forgetting gone := by
    intro edge hedge
    calc edge.asOf (store.dropRun id).supported
        = edge.asOf (store.withoutEdges gone) := by
          rw [Relationship.asOf, hremembered, Relationship.asOf]
      _ = (edge.asOf store).forgetting gone := (forgetting_asOf edge gone).symm
      _ = edge.forgetting gone := by rw [hlawful.edge_asOf (List.mem_filter.1 hedge).1]
  have hruns : ∀ run ∈ (store.dropRun id).automappings,
      run.asOf (store.dropRun id).supported = run.forgetting gone := by
    intro run hrun
    calc run.asOf (store.dropRun id).supported
        = run.asOf (store.withoutEdges gone) := by
          rw [Automapping.asOf, hremembered, Automapping.asOf]
      _ = (run.asOf store).forgetting gone := (forgetting_run_asOf run gone).symm
      _ = run.forgetting gone := by rw [hlawful.run_asOf (List.mem_filter.1 hrun).1]
  have hkept : (store.dropRun id).relationships.filter (store.dropRun id).supports =
      store.relationships.filter (fun edge => edge.automappingId != some id) :=
    filter_supports_dropRun hlawful.toForeignKeys id
  rw [settled, hkept, List.map_congr_left hedges, List.map_congr_left hruns]
  rfl

/-! ## The removal -/

/-- Both ends of every edge are stored. -/
def EndsStored (store : Store) : Prop :=
  ∀ edge ∈ store.relationships,
    store.hasObject edge.source = true ∧ store.hasObject edge.destination = true

theorem EndsStored.withoutRun (hends : store.EndsStored) (id : Int) :
    (store.withoutRun id).EndsStored := by
  intro edge hedge
  obtain ⟨old, hold, rfl⟩ := List.mem_map.1 hedge
  exact hends old (List.mem_filter.1 hold).1

/-- Removing a mapping run removes the edges that it made and no others, makes the rows that stay
forget these edges, and changes nothing else; what the schema ensures holds afterwards, and so does
that the ends of edges are stored if it held before.  The order of the single changes does not
matter: once the row of the run is gone, no order goes on for ever, and each stops at this store and
at no other. -/
theorem removeAutomapping_in_any_order (hlawful : store.Lawful) (id : Int) :
    store.removeAutomapping id = store.withoutRun id ∧
      (store.withoutRun id).Lawful ∧
      (store.EndsStored → (store.withoutRun id).EndsStored) ∧
      Acc (fun after store => Fires store after) (store.dropRun id) ∧
      ∀ after, Relation.ReflTransGen Fires (store.dropRun id) after →
        Relation.ReflTransGen Fires after (store.withoutRun id) ∧
          ((∀ next, ¬after.Fires next) ↔ after = store.withoutRun id) := by
  have hleft : (store.withoutRun id).Lawful := hlawful.withoutRun id
  refine ⟨removeAutomapping_eq_withoutRun hlawful.ids, hleft, fun hends => hends.withoutRun id,
    fires_wellFounded.apply _, fun after hsteps => ?_⟩
  have hsettled : after.settled = store.withoutRun id :=
    (settled_eq_of_steps hsteps).trans (settled_dropRun hlawful id)
  refine ⟨hsettled ▸ steps_to_settled after, fun hquiet => ?_, ?_⟩
  · rw [← hsettled, settled_eq_self (quiet_iff_foreignKeys.1 hquiet)]
  · rintro rfl
    exact quiet_iff_foreignKeys.2 hleft.toForeignKeys

/-- An edge that a run derived from another edge. -/
def derivedEdge (id : Int) (source destination : Stub) (parent run : Int) : Relationship :=
  { Relationship.bare id source destination with
    parentId := some parent, automappingId := some run }

/-- A run that made two edges, the second derived from the first, and another run, which the second
edge set off and which derived a third edge from it. -/
def chainedRuns : Store where
  objects := [Object.draft "Control" 1 "c", Object.draft "Objective" 3 "o",
    Object.draft "Regulation" 2 "r"]
  relationships :=
    [.bare 1 ⟨"Control", 1⟩ ⟨"Objective", 3⟩,
      derivedEdge 2 ⟨"Control", 1⟩ ⟨"Regulation", 2⟩ 1 1,
      derivedEdge 3 ⟨"Regulation", 2⟩ ⟨"Objective", 3⟩ 2 1,
      derivedEdge 4 ⟨"Objective", 3⟩ ⟨"Control", 1⟩ 3 2]
  automappings :=
    [{ id := 1, relationshipId := some 1, source := ⟨"Control", 1⟩
       destination := ⟨"Objective", 3⟩, modifiedBy := none, createdAt := 0 },
      { id := 2, relationshipId := some 3, source := ⟨"Regulation", 2⟩
        destination := ⟨"Objective", 3⟩, modifiedBy := none, createdAt := 0 }]
  lastRelationshipId := 4
  lastAutomappingId := 2

/-- The first run goes with its two edges; the third edge forgets its parent and the other run what
set it off.  The first edge may go before the second one, which then has no parent any more when it
goes itself, and the end is the same. -/
theorem chained_run_removed :
    chainedRuns.Lawful ∧ chainedRuns.removeAutomapping 1 = chainedRuns.withoutRun 1 ∧
      (chainedRuns.withoutRun 1).EndsStored ∧
      (chainedRuns.withoutRun 1).relationships =
        [.bare 1 ⟨"Control", 1⟩ ⟨"Objective", 3⟩,
          { derivedEdge 4 ⟨"Objective", 3⟩ ⟨"Control", 1⟩ 3 2 with parentId := none }] ∧
      (chainedRuns.withoutRun 1).automappings.map Automapping.relationshipId = [none] ∧
      ∃ fewer parentless, (chainedRuns.dropRun 1).Fires fewer ∧ fewer.Fires parentless ∧
        parentless.relationships.map Relationship.parentId = [none, none, some 3] ∧
        Relation.ReflTransGen Fires parentless (chainedRuns.withoutRun 1) := by
  have hlawful : chainedRuns.Lawful :=
    { parents := by decide, runs := by decide, triggers := by decide
      pairs := by decide, ids := by decide }
  have hends : ∀ edge ∈ chainedRuns.relationships, chainedRuns.hasObject edge.source = true ∧
      chainedRuns.hasObject edge.destination = true := by decide
  obtain ⟨hremoved, _, hkept, _, hsteps⟩ := removeAutomapping_in_any_order hlawful 1
  have hrows : (chainedRuns.dropRun 1).relationships =
      [.bare 1 ⟨"Control", 1⟩ ⟨"Objective", 3⟩] ++
        derivedEdge 2 ⟨"Control", 1⟩ ⟨"Regulation", 2⟩ 1 1 ::
          [derivedEdge 3 ⟨"Regulation", 2⟩ ⟨"Objective", 3⟩ 2 1,
            derivedEdge 4 ⟨"Objective", 3⟩ ⟨"Control", 1⟩ 3 2] := rfl
  let fewer : Store := { chainedRuns.dropRun 1 with
    relationships := [.bare 1 ⟨"Control", 1⟩ ⟨"Objective", 3⟩,
      derivedEdge 3 ⟨"Regulation", 2⟩ ⟨"Objective", 3⟩ 2 1,
      derivedEdge 4 ⟨"Objective", 3⟩ ⟨"Control", 1⟩ 3 2] }
  have hfewer : (chainedRuns.dropRun 1).Fires fewer := .cascade hrows rfl rfl
  have hleft : fewer.relationships = [.bare 1 ⟨"Control", 1⟩ ⟨"Objective", 3⟩] ++
      derivedEdge 3 ⟨"Regulation", 2⟩ ⟨"Objective", 3⟩ 2 1 ::
        [derivedEdge 4 ⟨"Objective", 3⟩ ⟨"Control", 1⟩ 3 2] := rfl
  have hparentless := Fires.forgetParent hleft rfl rfl
  exact ⟨hlawful, hremoved, hkept hends, by decide, by decide, fewer, _, hfewer, hparentless, rfl,
    (hsteps _ (.tail (.single hfewer) hparentless)).1⟩

end Store

end RecordGraph
