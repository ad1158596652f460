import RecordGraph.Proofs.RowHistory

/-!
# Origins of snapshots

A snapshot is stored only while the record that it was taken of is stored.  Nothing ties the two
together afterwards: a record is deleted together with the edges that touch it, and the snapshots
that name it as their origin are neither deleted nor do they stop the deletion.  So the origin of a
stored snapshot is missing from the deletion of that record until a record of its type and number
is stored again.
-/

namespace RecordGraph

/-- The end of a list that is cut at an item is that item, or the end of what follows it. -/
theorem append_singleton_eq_append_cons_iff {α : Type} {items front back : List α}
    {last item : α} :
    items ++ [last] = front ++ item :: back ↔
      (front = items ∧ item = last ∧ back = []) ∨
        ∃ middle, back = middle ++ [last] ∧ items = front ++ item :: middle := by
  constructor
  · intro hsame
    rcases List.eq_nil_or_concat' back with rfl | ⟨middle, final, rfl⟩
    · obtain ⟨rfl, hlast⟩ := List.append_inj' hsame rfl
      exact .inl ⟨rfl, (List.singleton_inj.1 hlast).symm, rfl⟩
    · rw [← List.cons_append, ← List.append_assoc] at hsame
      obtain ⟨rfl, hlast⟩ := List.append_inj' hsame rfl
      exact .inr ⟨middle, by rw [hlast], rfl⟩
  · rintro (⟨rfl, rfl, rfl⟩ | ⟨middle, rfl, rfl⟩)
    · rfl
    · rw [List.append_assoc, List.cons_append]

/-- Every snapshot that is stored names an origin that is stored. -/
def Store.OriginsStored (store : Store) : Prop :=
  ∀ snapshot ∈ store.objects, snapshot.isSnapshot = true →
    ∃ origin, snapshot.origin = some origin ∧ store.hasObject origin = true

namespace GraphCall

/-- After the earlier calls, the call stores the record. -/
def Stores (earlier : List GraphCall) (call : GraphCall) (record : Object) : Prop :=
  Succeeds earlier call ∧ call.StoresRecord record

/-- After the earlier calls, the call deletes the record of the reference. -/
def Deletes (earlier : List GraphCall) (call : GraphCall) (stub : Stub) : Prop :=
  Succeeds earlier call ∧ call.DeletesRecord stub

/-- One of the calls deleted the origin while the snapshot was stored, and no later call has stored
a record under the same reference. -/
def OriginDeleted (calls : List GraphCall) (snapshot : Object) (origin : Stub) : Prop :=
  ∃ earlier call later, calls = earlier ++ call :: later ∧
    snapshot ∈ (storeAfter earlier).objects ∧ Deletes earlier call origin ∧
      ∀ between next rest, later = between ++ next :: rest →
        ∀ record, Stores (earlier ++ call :: between) next record → record.stub ≠ origin

variable {calls : List GraphCall} {call : GraphCall} {snapshot : Object} {origin : Stub}

/-! ## One more call -/

theorem mem_objects_concat_iff {record : Object} :
    record ∈ (storeAfter (calls ++ [call])).objects ↔
      Stores calls call record ∨
        (record ∈ (storeAfter calls).objects ∧ ¬Deletes calls call record.stub) := by
  rcases refused_or_made calls call with ⟨hrefused, hsame⟩ | ⟨hsucceeds, hcall⟩
  · simp [hsame, Stores, Deletes, hrefused]
  · simp [mem_objects_of_transition hcall, Stores, Deletes, hsucceeds]

theorem hasObject_concat_iff {stub : Stub} :
    (storeAfter (calls ++ [call])).hasObject stub = true ↔
      (∃ record, Stores calls call record ∧ record.stub = stub) ∨
        ((storeAfter calls).hasObject stub = true ∧ ¬Deletes calls call stub) := by
  rcases refused_or_made calls call with ⟨hrefused, hsame⟩ | ⟨hsucceeds, hcall⟩
  · simp [hsame, Stores, Deletes, hrefused]
  · simp [hasObject_of_transition hcall, Stores, Deletes, hsucceeds]

/-- A reference names no record after a call just when the call has deleted the record, or there was
none and the call has not stored one. -/
theorem not_hasObject_concat_iff {stub : Stub} :
    (storeAfter (calls ++ [call])).hasObject stub = false ↔
      Deletes calls call stub ∨ ((storeAfter calls).hasObject stub = false ∧
        ∀ record, Stores calls call record → record.stub ≠ stub) := by
  rw [← Bool.not_eq_true, hasObject_concat_iff, ← Bool.not_eq_true]
  constructor
  · intro hnone
    by_cases hdeletes : Deletes calls call stub
    · exact .inl hdeletes
    · exact .inr ⟨fun hbefore => hnone (.inr ⟨hbefore, hdeletes⟩),
        fun record hstores hstub => hnone (.inl ⟨record, hstores, hstub⟩)⟩
  · rintro (hdeletes | ⟨hbefore, hnone⟩) (⟨record, hstores, hstub⟩ | ⟨hstill, hkept⟩)
    · exact hstores.2.not_deletesRecord hdeletes.2
    · exact hkept hdeletes
    · exact hnone record hstores hstub
    · exact hbefore hstill

theorem originDeleted_concat_iff :
    OriginDeleted (calls ++ [call]) snapshot origin ↔
      (snapshot ∈ (storeAfter calls).objects ∧ Deletes calls call origin) ∨
        (OriginDeleted calls snapshot origin ∧
          ∀ record, Stores calls call record → record.stub ≠ origin) := by
  constructor
  · intro hdeleted
    obtain ⟨earlier, deletion, later, hcalls, hsnapshot, hdeletes, hnone⟩ := hdeleted
    rcases append_singleton_eq_append_cons_iff.1 hcalls with
      ⟨rfl, rfl, rfl⟩ | ⟨middle, rfl, rfl⟩
    · exact .inl ⟨hsnapshot, hdeletes⟩
    · refine .inr ⟨⟨earlier, deletion, middle, rfl, hsnapshot, hdeletes, ?_⟩,
        hnone middle call [] rfl⟩
      rintro between next rest rfl
      exact hnone between next (rest ++ [call]) (by rw [List.append_assoc, List.cons_append])
  · rintro (⟨hsnapshot, hdeletes⟩ | ⟨hdeleted, hlast⟩)
    · exact ⟨calls, call, [], rfl, hsnapshot, hdeletes, by simp⟩
    · obtain ⟨earlier, deletion, later, rfl, hsnapshot, hdeletes, hnone⟩ := hdeleted
      refine ⟨earlier, deletion, later ++ [call], by rw [List.append_assoc, List.cons_append],
        hsnapshot, hdeletes, ?_⟩
      intro between next rest hlater
      rcases append_singleton_eq_append_cons_iff.1 hlater with
        ⟨rfl, rfl, rfl⟩ | ⟨middle, rfl, rfl⟩
      · exact hlast
      · exact hnone between next middle rfl

/-- A record that a call has stored has passed the check of its origin. -/
theorem Stores.checked {record : Object} (hstores : Stores calls call record) :
    Graph.checkOrigin (storeAfter calls) record = .ok () := by
  rcases refused_or_made calls call with ⟨hrefused, _⟩ | ⟨_, hcall⟩
  · exact absurd hstores.1 hrefused
  · exact hstores.2.checked hcall

/-! ## Whole runs -/

/-- A snapshot names its origin, and nothing else names one. -/
theorem origin_isSome_run (calls : List GraphCall) :
    ∀ record ∈ (storeAfter calls).objects, record.origin.isSome = record.isSnapshot := by
  induction calls using List.reverseRecOn with
  | nil => exact fun _ hrecord => nomatch hrecord
  | append_singleton calls call ih =>
    intro record hrecord
    rcases mem_objects_concat_iff.1 hrecord with hstores | ⟨hold, _⟩
    · rcases Graph.checkOrigin_eq_ok_iff.1 hstores.checked with
        ⟨hplain, hnone⟩ | ⟨origin, hsnapshot, horigin, _⟩
      · rw [hplain, hnone, Option.isSome_none]
      · rw [hsnapshot, horigin, Option.isSome_some]
    · exact ih record hold

/-- The origin was deleted and has not come back. -/
theorem OriginDeleted.not_hasObject (hdeleted : OriginDeleted calls snapshot origin) :
    (storeAfter calls).hasObject origin = false := by
  induction calls using List.reverseRecOn with
  | nil =>
    obtain ⟨earlier, deletion, later, hcalls, _⟩ := hdeleted
    exact absurd hcalls.symm (List.append_ne_nil_of_right_ne_nil earlier (List.cons_ne_nil _ _))
  | append_singleton calls call ih =>
    rw [not_hasObject_concat_iff]
    exact (originDeleted_concat_iff.1 hdeleted).imp And.right (And.imp_left ih)

/-- The origin of a stored snapshot is missing only if it was deleted: when the snapshot was stored
it was there. -/
theorem originDeleted_of_not_hasObject (hsnapshot : snapshot ∈ (storeAfter calls).objects)
    (horigin : snapshot.origin = some origin)
    (hmissing : (storeAfter calls).hasObject origin = false) :
    OriginDeleted calls snapshot origin := by
  induction calls using List.reverseRecOn with
  | nil => exact nomatch hsnapshot
  | append_singleton calls call ih =>
    rw [originDeleted_concat_iff]
    rcases mem_objects_concat_iff.1 hsnapshot with hstores | ⟨hold, _⟩
    · have hstored : (storeAfter calls).hasObject origin = true := by
        rcases Graph.checkOrigin_eq_ok_iff.1 hstores.checked with
          ⟨_, hnone⟩ | ⟨named, _, hnamed, hstored⟩
        · rw [horigin] at hnone
          cases hnone
        · rw [horigin] at hnamed
          cases hnamed
          exact hstored
      rcases not_hasObject_concat_iff.1 hmissing with hdeletes | ⟨hnone, _⟩
      · exact absurd hdeletes.2 hstores.2.not_deletesRecord
      · rw [hstored] at hnone
        cases hnone
    · exact (not_hasObject_concat_iff.1 hmissing).imp (fun hdeletes => ⟨hold, hdeletes⟩)
        (And.imp_left (ih hold))

/-- The origins of the snapshots that are stored after some calls on a fresh store. -/
structure SnapshotOrigins (calls : List GraphCall) : Prop where
  /-- A snapshot names its origin, and nothing else names one. -/
  named : ∀ record ∈ (storeAfter calls).objects, record.origin.isSome = record.isSnapshot
  /-- The origin of a snapshot is missing just when it was deleted under the snapshot. -/
  missing : ∀ snapshot ∈ (storeAfter calls).objects, ∀ origin, snapshot.origin = some origin →
    ((storeAfter calls).hasObject origin = false ↔ OriginDeleted calls snapshot origin)
  /-- All origins are stored just when none was deleted under its snapshot. -/
  stored : (storeAfter calls).OriginsStored ↔
    ∀ snapshot ∈ (storeAfter calls).objects, ∀ origin, snapshot.origin = some origin →
      ¬OriginDeleted calls snapshot origin

theorem originsStored_iff :
    (storeAfter calls).OriginsStored ↔
      ∀ snapshot ∈ (storeAfter calls).objects, ∀ origin, snapshot.origin = some origin →
        ¬OriginDeleted calls snapshot origin := by
  constructor
  · intro hstored snapshot hsnapshot origin horigin hdeleted
    have htype : snapshot.isSnapshot = true := by
      rw [← origin_isSome_run calls snapshot hsnapshot, horigin, Option.isSome_some]
    obtain ⟨named, hnamed, hhas⟩ := hstored snapshot hsnapshot htype
    rw [horigin] at hnamed
    cases hnamed
    rw [hdeleted.not_hasObject] at hhas
    cases hhas
  · intro hnone snapshot hsnapshot htype
    rw [← origin_isSome_run calls snapshot hsnapshot] at htype
    obtain ⟨origin, horigin⟩ := Option.isSome_iff_exists.1 htype
    refine ⟨origin, horigin, ?_⟩
    by_contra hmissing
    exact hnone snapshot hsnapshot origin horigin
      (originDeleted_of_not_hasObject hsnapshot horigin (Bool.of_not_eq_true hmissing))

/-- After any calls on a fresh store, whoever makes them and whether they succeed or not: every
snapshot names its origin, and the origin is stored unless a call deleted it under the snapshot and
no record has been stored in its place since. -/
theorem snapshot_origins_run (calls : List GraphCall) : SnapshotOrigins calls where
  named := origin_isSome_run calls
  missing _ hsnapshot _ horigin :=
    ⟨originDeleted_of_not_hasObject hsnapshot horigin, OriginDeleted.not_hasObject⟩
  stored := originsStored_iff

/-- A control is stored, a snapshot is taken of it, and the control is deleted. -/
def controlDeleted : List GraphCall :=
  let registry := TypeRegistry.builtin
  [.insertObject registry 0 (Object.draft "Control" 1 "c"),
    .insertObject registry 0 (Object.snapshotOf 9 ⟨"Control", 1⟩),
    .deleteObject registry ⟨1, false⟩ ⟨"Control", 1⟩]

/-- The snapshot stays, and its origin is gone. -/
theorem control_deleted_under_snapshot :
    (storeAfter controlDeleted).objects = [Object.snapshotOf 9 ⟨"Control", 1⟩] ∧
      OriginDeleted controlDeleted (Object.snapshotOf 9 ⟨"Control", 1⟩) ⟨"Control", 1⟩ ∧
      ¬(storeAfter controlDeleted).OriginsStored := by
  have horigins := snapshot_origins_run controlDeleted
  have hobjects :
      (storeAfter controlDeleted).objects = [Object.snapshotOf 9 ⟨"Control", 1⟩] := by
    decide +kernel
  have hsnapshot : Object.snapshotOf 9 ⟨"Control", 1⟩ ∈ (storeAfter controlDeleted).objects := by
    rw [hobjects]
    exact List.mem_singleton_self _
  have hdeleted := (horigins.missing _ hsnapshot ⟨"Control", 1⟩ rfl).1 (by decide +kernel)
  exact ⟨hobjects, hdeleted, fun hstored => horigins.stored.1 hstored _ hsnapshot _ rfl hdeleted⟩

end GraphCall

end RecordGraph
