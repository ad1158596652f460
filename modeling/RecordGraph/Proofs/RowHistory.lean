import Mathlib.Data.List.Induction
import RecordGraph.Proofs.RecordChanges
import RecordGraph.Proofs.RowContinuity

/-!
# What becomes of rows over a run

Nothing rewrites a row.  An edge keeps what it was stored with, except that it forgets a parent that
is removed, and the record of a mapping run keeps what it was stored with, except that it forgets
the edge that set it off.  A record of the graph stays as it is until it is deleted.  A number that
was ever in use never comes to name another row.
-/

namespace RecordGraph

namespace GraphCall

/-- What a fresh store has become after some calls. -/
def storeAfter (calls : List GraphCall) : Store := (run calls {}).store

theorem integrity_storeAfter (calls : List GraphCall) : (storeAfter calls).Integrity :=
  Store.Integrity.stable.run_empty Store.Integrity.empty calls

theorem numbered_storeAfter (calls : List GraphCall) : (storeAfter calls).Numbered :=
  Store.Numbered.stable.run_empty Store.Numbered.empty calls

theorem continues_run (earlier later : List GraphCall) :
    (storeAfter earlier).Continues (storeAfter (earlier ++ later)) := by
  have hintegrity := integrity_storeAfter earlier
  have hnumbered := numbered_storeAfter earlier
  rw [storeAfter, storeAfter, run_append]
  exact run_keeps (Store.Continues.stable hintegrity hnumbered).transition later
    (run_closed earlier) (.refl hintegrity)

variable {store after : Store}

/-! ## What a call does -/

/-- A record that a call does not leave as it was is deleted by the call. -/
theorem record_kept_or_deleted {call : GraphCall}
    (hcall : call.transition store = .ok ((), after)) {object : Object}
    (hobject : object ∈ store.objects) :
    object ∈ after.objects ∨ ∃ registry actor,
      call = deleteObject registry actor object.stub ∧ after.hasObject object.stub = false := by
  by_cases hdeletes : call.DeletesRecord object.stub
  · right
    have hgone := hdeletes.hasObject_eq_false hcall
    cases call with
    | deleteObject registry actor stub =>
      have hstub : object.stub = stub := hdeletes
      subst hstub
      exact ⟨registry, actor, rfl, hgone⟩
    | _ => exact hdeletes.elim
  · exact .inl ((mem_objects_of_transition hcall).2 (.inr ⟨hobject, hdeletes⟩))

/-- A record stays as it is until a call deletes it. -/
theorem record_course {connection : Connection} (hclosed : connection.frames = [])
    {object : Object} (hobject : object ∈ connection.store.objects) (later : List GraphCall) :
    object ∈ (run later connection).store.objects ∨
      ∃ middle registry actor rest,
        later = middle ++ deleteObject registry actor object.stub :: rest ∧
        object ∈ (run middle connection).store.objects ∧
        (run (middle ++ [deleteObject registry actor object.stub]) connection).store.hasObject
          object.stub = false := by
  induction later generalizing connection with
  | nil => exact .inl hobject
  | cons call rest ih =>
    have hnext : (call.perform connection).connection.frames = [] ∧
        (object ∈ (call.perform connection).connection.store.objects ∨
          ∃ registry actor, call = deleteObject registry actor object.stub ∧
            (call.perform connection).connection.store.hasObject object.stub = false) := by
      rcases call.realizes_perform.of_closed hclosed with
        ⟨_, _, hsame⟩ | ⟨_, after, hcall, _, hafter⟩
      · rw [hsame]
        exact ⟨hclosed, .inl hobject⟩
      · rw [hafter]
        exact ⟨hclosed, record_kept_or_deleted hcall hobject⟩
    obtain ⟨hframes, hkept | ⟨registry, actor, rfl, hgone⟩⟩ := hnext
    · rcases ih hframes hkept with hlast | ⟨middle, registry, actor, more, rfl, hmiddle, hgone⟩
      · exact .inl hlast
      · exact .inr ⟨call :: middle, registry, actor, more, rfl, hmiddle, hgone⟩
    · exact .inr ⟨[], registry, actor, rest, rfl, hobject, hgone⟩

/-- What a successful derivation stores. -/
theorem stored_of_createDerived {registry : TypeRegistry} {actor : Actor} {now : Int}
    {parent edge : Relationship} {source destination : Object} (hnumbered : store.Numbered)
    (hderived : Transition.createDerived registry actor now parent source destination store =
      .ok (some edge, after)) :
    edge ∈ after.relationships ∧ edge.parentId = some parent.id ∧
      ∃ run ∈ after.automappings, edge.automappingId = some run.id ∧
        run.relationshipId = some parent.id ∧ store.lastAutomappingId < run.id := by
  rcases Transition.createDerived_eq_ok_iff.1 hderived with
    ⟨_, _, hnone, _⟩ | ⟨made, _, hsome, hmade⟩
  · cases hnone
  · cases hsome
    obtain ⟨run, recorded, hrun, hcreated⟩ := Transition.createFromParent_eq_ok_iff.1 hmade
    have hedge := (edge_of_create hcreated).2.2.mem_iff.2 List.mem_cons_self
    have hrecorded : run ∈ recorded.automappings :=
      (hnumbered.automappings_insert_perm hrun).mem_iff.2 List.mem_cons_self
    obtain ⟨hnumber, _⟩ := Store.number_of_insertAutomapping hrun
    obtain ⟨_, _, _, rfl, _⟩ := Store.insertAutomapping_eq_ok_iff.1 hrun
    obtain ⟨_, _, _, hrow⟩ := Transition.create_eq_ok_iff.1 hcreated
    obtain ⟨_, _, _, _, _, _, rfl, rfl⟩ := Store.insertRelationship_eq_ok_iff.1 hrow
    refine ⟨hedge, rfl, _, hrecorded, rfl, rfl, ?_⟩
    omega

/-! ## Rows over a run -/

theorem storeAfter_concat (calls : List GraphCall) (call : GraphCall) :
    storeAfter (calls ++ [call]) = (call.perform (run calls {})).connection.store := by
  rw [storeAfter, run_append]
  rfl

/-- The call succeeds when it comes after the earlier calls. -/
def Succeeds (earlier : List GraphCall) (call : GraphCall) : Prop :=
  (call.perform (run earlier {})).result = .ok ()

/-- A call that is refused changes nothing, and one that succeeds makes its transition. -/
theorem refused_or_made (earlier : List GraphCall) (call : GraphCall) :
    (¬Succeeds earlier call ∧ storeAfter (earlier ++ [call]) = storeAfter earlier) ∨
      (Succeeds earlier call ∧
        call.transition (storeAfter earlier) = .ok ((), storeAfter (earlier ++ [call]))) := by
  rw [storeAfter_concat, Succeeds]
  rcases call.realizes_perform.of_closed (run_closed earlier) with
    ⟨error, hresult, hsame⟩ | ⟨_, after, hcall, hresult, hafter⟩
  · left
    rw [hresult, hsame]
    exact ⟨(fun hok => nomatch hok), rfl⟩
  · right
    rw [hafter]
    exact ⟨hresult, hcall⟩

/-- What becomes, in the course of later calls, of the rows that some calls have stored. -/
structure RowsLast (earlier later : List GraphCall) : Prop where
  /-- The edge that a creation returns is stored as it is returned. -/
  created : ∀ registry actor now request edge,
    (Graph.create registry actor now request (run earlier {})).result = .ok edge →
      edge ∈ (storeAfter (earlier ++ [create registry actor now request])).relationships
  /-- The edge that a derivation returns is stored as it is returned. -/
  derived : ∀ registry actor now parent source destination edge,
    (Graph.createDerived registry actor now parent source destination (run earlier {})).result =
        .ok (some edge) →
      edge ∈ (storeAfter
        (earlier ++ [createDerived registry actor now parent source destination])).relationships
  /-- While it is stored, an edge keeps everything, but for a parent that is not stored any more. -/
  edges : ∀ edge ∈ (storeAfter earlier).relationships,
    ∀ kept ∈ (storeAfter (earlier ++ later)).relationships, kept.id = edge.id →
      kept = edge.asOf (storeAfter (earlier ++ later))
  /-- An edge changes its parent in the call that removes the parent and in no other, and then it
  has none. -/
  parents : ∀ call, ∀ edge ∈ (storeAfter earlier).relationships,
    ∀ kept ∈ (storeAfter (earlier ++ [call])).relationships, kept.id = edge.id →
      (kept.parentId ≠ edge.parentId → kept.parentId = none) ∧
        (kept.parentId ≠ edge.parentId ↔ ∃ parent, edge.parentId = some parent.id ∧
          (storeAfter earlier).Loses (storeAfter (earlier ++ [call])) parent)
  /-- A record stays as it is until a call deletes it. -/
  records : ∀ object ∈ (storeAfter earlier).objects,
    object ∈ (storeAfter (earlier ++ later)).objects ∨ ∃ middle registry actor rest,
      later = middle ++ deleteObject registry actor object.stub :: rest ∧
        object ∈ (storeAfter (earlier ++ middle)).objects ∧
        (storeAfter (earlier ++ middle ++
          [deleteObject registry actor object.stub])).hasObject object.stub = false
  /-- An edge that is stored later is an edge of before, or its number is greater than that of any
  edge that was ever stored until then. -/
  edgeNumbers : ∀ edge ∈ (storeAfter (earlier ++ later)).relationships,
    (storeAfter earlier).hasRelationship edge.id = true ∨
      ∀ past rest, earlier = past ++ rest →
        ∀ gone ∈ (storeAfter past).relationships, gone.id < edge.id
  /-- A run that is stored later is a run of before, but for a trigger that is not stored any more,
  or its number is greater than that of any run that was ever stored until then. -/
  runNumbers : ∀ run ∈ (storeAfter (earlier ++ later)).automappings,
    (∃ first ∈ (storeAfter earlier).automappings,
        run = first.asOf (storeAfter (earlier ++ later))) ∨
      ∀ past rest, earlier = past ++ rest →
        ∀ gone ∈ (storeAfter past).automappings, gone.id < run.id

theorem created_stored {registry : TypeRegistry} {actor : Actor} {now : Int}
    {request : Graph.Request} {edge : Relationship} (earlier : List GraphCall)
    (hcreated : (Graph.create registry actor now request (run earlier {})).result = .ok edge) :
    edge ∈ (storeAfter (earlier ++ [create registry actor now request])).relationships := by
  obtain ⟨after, hchanged, hafter⟩ :=
    (Graph.realizes_create registry actor now request).exists_of_ok hcreated
  rw [storeAfter_concat, perform, hafter]
  exact (edge_of_create hchanged).2.2.mem_iff.2 List.mem_cons_self

variable {earlier later : List GraphCall} {edge kept : Relationship}

/-- While it is stored, an edge stays as it is, but for its parent. -/
theorem edge_kept (hedge : edge ∈ (storeAfter earlier).relationships)
    (hkept : kept ∈ (storeAfter (earlier ++ later)).relationships) (hid : kept.id = edge.id) :
    kept = edge.asOf (storeAfter (earlier ++ later)) := by
  have hbound := (numbered_storeAfter earlier).edges edge hedge
  obtain ⟨first, hfirst, rfl⟩ :=
    (continues_run earlier later).edges kept hkept (by omega)
  rw [(integrity_storeAfter earlier).eq_of_id_eq hedge hfirst hid]

/-- What is left later of an edge that a call has stored. -/
theorem made_kept {call : GraphCall} {made : Relationship}
    (hmade : made ∈ (storeAfter (earlier ++ [call])).relationships)
    (hedge : edge ∈ (storeAfter (earlier ++ call :: later)).relationships)
    (hid : edge.id = made.id) : edge = made.asOf (storeAfter (earlier ++ call :: later)) := by
  rw [List.append_cons] at hedge ⊢
  exact edge_kept hmade hedge hid

/-- A number that is given out later is greater than all that were in use. -/
theorem edge_number_lt {past rest : List GraphCall} {gone : Relationship}
    (hgone : gone ∈ (storeAfter past).relationships) {id : Int}
    (hnew : (storeAfter (past ++ rest)).lastRelationshipId < id) : gone.id < id := by
  calc gone.id
      ≤ (storeAfter past).lastRelationshipId := (numbered_storeAfter past).edges gone hgone
    _ ≤ (storeAfter (past ++ rest)).lastRelationshipId := (continues_run past rest).lastEdge
    _ < id := hnew

theorem run_number_lt {past rest : List GraphCall} {gone : Automapping}
    (hgone : gone ∈ (storeAfter past).automappings) {id : Int}
    (hnew : (storeAfter (past ++ rest)).lastAutomappingId < id) : gone.id < id := by
  calc gone.id
      ≤ (storeAfter past).lastAutomappingId := (numbered_storeAfter past).runs gone hgone
    _ ≤ (storeAfter (past ++ rest)).lastAutomappingId := (continues_run past rest).lastRun
    _ < id := hnew

/-- A call that stores an edge succeeds. -/
theorem transition_of_gains {call : GraphCall}
    (hgains : (storeAfter earlier).Gains (storeAfter (earlier ++ [call])) edge) :
    call.transition (storeAfter earlier) = .ok ((), storeAfter (earlier ++ [call])) := by
  rcases refused_or_made earlier call with ⟨_, hsame⟩ | ⟨_, hcall⟩
  · exact absurd hgains (Store.not_gains_of_same (congrArg Store.relationships hsame))
  · exact hcall

/-- Every edge was stored by one of the calls. -/
theorem exists_gains (calls : List GraphCall) (hedge : edge ∈ (storeAfter calls).relationships) :
    ∃ earlier call later made, calls = earlier ++ call :: later ∧
      (storeAfter earlier).Gains (storeAfter (earlier ++ [call])) made ∧
      edge = made.asOf (storeAfter calls) := by
  induction calls using List.reverseRecOn generalizing edge with
  | nil => exact nomatch hedge
  | append_singleton calls call ih =>
    -- An edge of a number that was known before the last call was stored before it.
    by_cases hknown : edge.id ≤ (storeAfter calls).lastRelationshipId
    · obtain ⟨first, hfirst, hsame⟩ := (continues_run calls [call]).edges edge hedge hknown
      obtain ⟨earlier, maker, later, made, rfl, hgains, hmade⟩ := ih hfirst
      have hid : edge.id = made.id := by
        rw [hsame, hmade]
        rfl
      rw [List.append_assoc, List.cons_append] at hedge ⊢
      exact ⟨earlier, maker, later ++ [call], made, rfl, hgains, made_kept hgains.1 hedge hid⟩
    · refine ⟨calls, call, [], edge, rfl, ⟨hedge, ?_⟩, made_kept hedge hedge rfl⟩
      intro old hold
      have hbound := (numbered_storeAfter calls).edges old hold
      omega

/-- After any calls on a fresh store, and in the course of any later calls, whoever makes them and
whether they succeed or not: rows stay as they were stored, up to references to edges that are
removed, and numbers that were in use are not given out again. -/
theorem rows_last_run (earlier later : List GraphCall) : RowsLast earlier later where
  created _ _ _ _ _ hcreated := created_stored earlier hcreated
  derived registry actor now parent source destination edge hderived := by
    obtain ⟨after, hchanged, hafter⟩ := (Graph.realizes_createDerived registry actor now parent
      source destination).exists_of_ok hderived
    rw [storeAfter_concat, perform, hafter]
    exact (stored_of_createDerived (numbered_storeAfter earlier) hchanged).1
  edges _ hedge _ hkept hid := edge_kept hedge hkept hid
  parents call edge hedge kept hkept hid := by
    rw [edge_kept hedge hkept hid, Relationship.asOf]
    exact ⟨Store.remembered_eq_none_of_ne,
      Store.remembered_ne_iff ((integrity_storeAfter earlier).parents edge hedge)⟩
  records object hobject := by
    rcases record_course (run_closed earlier) hobject later with
      hkept | ⟨middle, registry, actor, rest, hlater, hmiddle, hgone⟩
    · left
      rw [storeAfter, run_append]
      exact hkept
    · right
      refine ⟨middle, registry, actor, rest, hlater, ?_, ?_⟩
      · rw [storeAfter, run_append]
        exact hmiddle
      · rw [storeAfter, List.append_assoc, run_append]
        exact hgone
  edgeNumbers edge hedge := by
    by_cases hknown : edge.id ≤ (storeAfter earlier).lastRelationshipId
    · obtain ⟨first, hfirst, hsame⟩ := (continues_run earlier later).edges edge hedge hknown
      rw [hsame]
      exact .inl (Store.hasRelationship_iff.2 ⟨first, hfirst, rfl⟩)
    · right
      rintro past rest rfl gone hgone
      exact edge_number_lt hgone (Int.not_le.1 hknown)
  runNumbers run hrun := by
    by_cases hknown : run.id ≤ (storeAfter earlier).lastAutomappingId
    · exact .inl (((continues_run earlier later).runs run hknown).1 hrun)
    · right
      rintro past rest rfl gone hgone
      exact run_number_lt hgone (Int.not_le.1 hknown)

end GraphCall

end RecordGraph
