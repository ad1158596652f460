import RecordGraph.Proofs.GraphRuns

/-!
# Records that come and go

Records are stored as they are given, but for their times, and they are never changed.  A call on
the graph that succeeds stores the record that it was given, deletes the record that it names, or
leaves the records alone.
-/

namespace RecordGraph.GraphCall

/-- The call is to store the record. -/
def StoresRecord : GraphCall → Object → Prop
  | insertObject _ now object, record => record = object.stampedAt now
  | _, _ => False

/-- The call is to delete the record of the reference. -/
def DeletesRecord : GraphCall → Stub → Prop
  | deleteObject _ _ stub, gone => gone = stub
  | _, _ => False

variable {call : GraphCall} {store after : Store}

theorem StoresRecord.not_deletesRecord {record : Object} {stub : Stub}
    (hstores : call.StoresRecord record) : ¬call.DeletesRecord stub := by
  cases call with
  | insertObject registry now object => exact fun hdeletes => hdeletes
  | _ => exact hstores.elim

theorem objects_of_create {registry : TypeRegistry} {actor : Actor} {now : Int}
    {request : Graph.Request} {edge : Relationship}
    (hcreated : Transition.create registry actor now request store = .ok (edge, after)) :
    after.objects = store.objects := by
  obtain ⟨_, _, _, hrow⟩ := Transition.create_eq_ok_iff.1 hcreated
  obtain ⟨_, _, _, _, _, _, _, rfl⟩ := Store.insertRelationship_eq_ok_iff.1 hrow
  rfl

/-- What a call that succeeds makes of the records. -/
theorem mem_objects_of_transition (hcall : call.transition store = .ok ((), after))
    {record : Object} :
    record ∈ after.objects ↔
      call.StoresRecord record ∨ (record ∈ store.objects ∧ ¬call.DeletesRecord record.stub) := by
  -- Most calls neither store nor delete a record.
  have hkept : after.objects = store.objects → ¬call.StoresRecord record →
      ¬call.DeletesRecord record.stub → (record ∈ after.objects ↔
        call.StoresRecord record ∨
          (record ∈ store.objects ∧ ¬call.DeletesRecord record.stub)) := by
    intro hsame hstores hdeletes
    rw [hsame, or_iff_right hstores, and_iff_left hdeletes]
  cases call with
  | insertObject registry now object =>
    obtain ⟨_, hstored⟩ := Transition.void_eq_ok_iff.1 hcall
    obtain ⟨_, rfl, hrow⟩ := Transition.insertObject_eq_ok_iff.1 hstored
    obtain ⟨_, hfresh, rfl⟩ := Store.insertObject_eq_ok_iff.1 hrow
    simp only [(Store.objects_insert_perm hfresh).mem_iff, List.mem_cons, StoresRecord,
      DeletesRecord, not_false_eq_true, and_true]
  | create registry actor now request =>
    obtain ⟨_, hcreated⟩ := Transition.void_eq_ok_iff.1 hcall
    exact hkept (objects_of_create hcreated) False.elim False.elim
  | createDerived registry actor now parent source destination =>
    obtain ⟨_, hderived⟩ := Transition.void_eq_ok_iff.1 hcall
    rcases Transition.createDerived_eq_ok_iff.1 hderived with
      ⟨_, _, _, hsame⟩ | ⟨_, _, _, hmade⟩
    · exact hkept (congrArg Store.objects hsame) False.elim False.elim
    · obtain ⟨_, _, hrun, hcreated⟩ := Transition.createFromParent_eq_ok_iff.1 hmade
      obtain ⟨_, _, _, _, rfl⟩ := Store.insertAutomapping_eq_ok_iff.1 hrun
      have hsame := objects_of_create hcreated
      exact hkept hsame False.elim False.elim
  | delete registry actor id =>
    obtain ⟨_, hdeleted⟩ := Transition.void_eq_ok_iff.1 hcall
    obtain ⟨_, _, rfl⟩ := Transition.delete_eq_ok_iff.1 hdeleted
    exact hkept rfl False.elim False.elim
  | deleteObject registry actor stub =>
    obtain ⟨_, hdeleted⟩ := Transition.void_eq_ok_iff.1 hcall
    obtain ⟨_, _, _, rfl⟩ := Transition.deleteObject_eq_ok_iff.1 hdeleted
    rw [Store.removeRelationships_eq_withoutEdges]
    simp only [Store.removeObject, Store.withoutEdges, List.mem_filter, bne_iff_ne, ne_eq,
      StoresRecord, DeletesRecord, false_or]

/-- A record is stored under a reference after a call that has stored it there, or if it was there
before and the call has not deleted it. -/
theorem hasObject_of_transition (hcall : call.transition store = .ok ((), after)) {stub : Stub} :
    after.hasObject stub = true ↔
      (∃ record, call.StoresRecord record ∧ record.stub = stub) ∨
        (store.hasObject stub = true ∧ ¬call.DeletesRecord stub) := by
  simp only [Store.hasObject_iff, mem_objects_of_transition hcall, or_and_right, exists_or]
  refine or_congr_right ?_
  constructor
  · rintro ⟨record, ⟨hrecord, hkept⟩, rfl⟩
    exact ⟨⟨record, hrecord, rfl⟩, hkept⟩
  · rintro ⟨⟨record, hrecord, rfl⟩, hkept⟩
    exact ⟨record, ⟨hrecord, hkept⟩, rfl⟩

theorem DeletesRecord.hasObject_eq_false {stub : Stub} (hdeletes : call.DeletesRecord stub)
    (hcall : call.transition store = .ok ((), after)) : after.hasObject stub = false := by
  rw [← Bool.not_eq_true, hasObject_of_transition hcall, not_or, not_and_not_right]
  refine ⟨?_, fun _ => hdeletes⟩
  rintro ⟨record, hstores, _⟩
  exact hstores.not_deletesRecord hdeletes

/-- A record that a call has stored has passed the check of its origin. -/
theorem StoresRecord.checked {record : Object} (hstores : call.StoresRecord record)
    (hcall : call.transition store = .ok ((), after)) :
    Graph.checkOrigin store record = .ok () := by
  cases call with
  | insertObject registry now object =>
    obtain ⟨_, hstored⟩ := Transition.void_eq_ok_iff.1 hcall
    obtain ⟨hcheck, _, _⟩ := Transition.insertObject_eq_ok_iff.1 hstored
    subst hstores
    exact (Graph.checkRecord_eq_ok_iff.1 hcheck).2
  | _ => exact hstores.elim

end RecordGraph.GraphCall
