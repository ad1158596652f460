import RecordGraph.Proofs.RowContinuity

/-!
# Rows under the next number

A new edge or mapping run gets the number after the last one that was given out.  No stored row has
that number, so the new row comes after all others, and what may still refuse it are the rules that
tie it to other rows: an edge needs a free pair of ends and references to stored rows, a mapping run
a stored trigger.
-/

namespace RecordGraph

/-- In the order of a number, an item with a greater number than all others is put at the end. -/
theorem Ordered.insert_eq_append {α : Type} (key : α → Int) {item : α} {items : List α}
    (hlast : ∀ other ∈ items, key other < key item) :
    Ordered.insert (fun left right => decide (key left < key right)) item items =
      items ++ [item] := by
  induction items with
  | nil => rfl
  | cons head tail ih =>
    have hhead : key head < key item := hlast head List.mem_cons_self
    have htail := ih fun other hother => hlast other (List.mem_cons_of_mem head hother)
    rw [Ordered.insert, htail]
    simp [hhead, Int.lt_asymm hhead]

namespace Store

/-- The store with one more edge, which has the last number. -/
def withEdge (store : Store) (edge : Relationship) : Store :=
  { store with relationships := store.relationships ++ [edge], lastRelationshipId := edge.id }

/-- The store with one more mapping run, which has the last number. -/
def withRun (store : Store) (run : Automapping) : Store :=
  { store with automappings := store.automappings ++ [run], lastAutomappingId := run.id }

/-- The references of a new edge lead to stored rows.  Its own row counts as stored for it, so the
edge may name itself as its parent. -/
def RefersToStored (store : Store) (parentId automappingId : Option Int) : Prop :=
  (∀ parent, parentId = some parent →
      parent = store.lastRelationshipId + 1 ∨ store.hasRelationship parent = true) ∧
    ∀ run, automappingId = some run → store.hasAutomapping run = true

variable {store : Store}

theorem refersToStored_iff {parentId automappingId : Option Int} :
    store.RefersToStored parentId automappingId ↔
      (parentId.all (fun parent =>
          parent == store.lastRelationshipId + 1 || store.hasRelationship parent) &&
        automappingId.all store.hasAutomapping) = true := by
  simp [RefersToStored, Option.all_eq_true]

instance (parentId automappingId : Option Int) :
    Decidable (store.RefersToStored parentId automappingId) :=
  decidable_of_iff _ refersToStored_iff.symm

namespace Numbered

variable {row : NewEdge}

/-- No edge has the next number. -/
theorem hasRelationship_next (hnumbered : store.Numbered) :
    store.hasRelationship (store.lastRelationshipId + 1) = false := by
  rw [hasRelationship_eq_false_iff]
  intro edge hedge
  have hbound := hnumbered.edges edge hedge
  omega

/-- What becomes of a row that is to get the next number: a pair that is taken comes first, then
the references. -/
theorem insertRelationship_next (hnumbered : store.Numbered)
    (hroom : store.lastRelationshipId < Decimal.maxId) (hid : row.id = none) :
    store.insertRelationship row =
      if store.hasPair row.source row.destination then .error .duplicate
      else if store.RefersToStored row.parentId row.automappingId then
        .ok (row.edge (store.lastRelationshipId + 1),
          store.withEdge (row.edge (store.lastRelationshipId + 1)))
      else .error .foreignKey := by
  have hfresh : row.id.or (freshId? store.lastRelationshipId) =
      some (store.lastRelationshipId + 1) := by
    rw [hid, Option.none_or]
    exact freshId?_eq_some_iff.2 ⟨hroom, rfl⟩
  have hlast : Ordered.insert Relationship.before (row.edge (store.lastRelationshipId + 1))
      store.relationships = store.relationships ++ [row.edge (store.lastRelationshipId + 1)] :=
    Ordered.insert_eq_append Relationship.id fun edge hedge =>
      Int.lt_add_one_of_le (hnumbered.edges edge hedge)
  have hcount : max store.lastRelationshipId (store.lastRelationshipId + 1) =
      store.lastRelationshipId + 1 := by omega
  rw [Store.insertRelationship, hfresh]
  simp only [hnumbered.hasRelationship_next, Bool.false_or, refersToStored_iff, hlast, hcount]
  rfl

/-- The edge of the last number is the one that is found under it. -/
theorem relationship?_withEdge (hnumbered : store.Numbered) {edge : Relationship}
    (hid : edge.id = store.lastRelationshipId + 1) :
    (store.withEdge edge).relationship? edge.id = some edge := by
  have hnone : store.relationships.find? (fun other => other.id == edge.id) = none := by
    rw [List.find?_eq_none]
    intro other hother
    have hbound := hnumbered.edges other hother
    simp only [beq_iff_eq]
    omega
  simp [relationship?, withEdge, List.find?_append, hnone]

/-- A mapping run whose trigger is stored gets the next number. -/
theorem insertAutomapping_next (hnumbered : store.Numbered)
    (hroom : store.lastAutomappingId < Decimal.maxId) {row : NewAutomapping}
    (htrigger : ∀ trigger, row.relationshipId = some trigger →
      store.hasRelationship trigger = true) :
    store.insertAutomapping row =
      .ok (row.run (store.lastAutomappingId + 1),
        store.withRun (row.run (store.lastAutomappingId + 1))) := by
  have hlast : Ordered.insert Automapping.before (row.run (store.lastAutomappingId + 1))
      store.automappings = store.automappings ++ [row.run (store.lastAutomappingId + 1)] :=
    Ordered.insert_eq_append Automapping.id fun run hrun =>
      Int.lt_add_one_of_le (hnumbered.runs run hrun)
  refine insertAutomapping_eq_ok_iff.2
    ⟨store.lastAutomappingId + 1, freshId?_eq_some_iff.2 ⟨hroom, rfl⟩, htrigger, rfl, ?_⟩
  have hcount : max store.lastAutomappingId (store.lastAutomappingId + 1) =
      store.lastAutomappingId + 1 := by omega
  rw [hlast, hcount]
  rfl

end Numbered

end Store

end RecordGraph
