import Mathlib.Data.List.TakeWhile
import RecordGraph.Proofs.Requirements

/-!
# What a new record requires

A record is stored if its type is registered and more than spaces, if it has an origin just where
it is a snapshot, if the origin is stored, and if nothing is stored under its reference yet.  These
requirements are looked at in four places: the registry, the check of the origin, which asks the
table, the rule of the schema on type names, and the key of the table.  Here they stand in one list,
in the order in which their failures are reported.
-/

namespace RecordGraph

namespace Store

/-- A type name without NUL is blank where it holds nothing but spaces. -/
theorem isBlankType_eq_false_iff {type : String} (hname : '\x00' ∉ type.toList) :
    isBlankType type = false ↔ ∃ c ∈ type.toList, c ≠ ' ' := by
  rw [isBlankType]
  cases hrest : type.toList.dropWhile (· == ' ') with
  | nil =>
    rw [List.dropWhile_eq_nil_iff] at hrest
    simpa using hrest
  | cons c rest =>
    have hmem : c ∈ type.toList :=
      (List.dropWhile_sublist _).mem (hrest ▸ List.mem_cons_self)
    have hspace : c ≠ ' ' := by
      have hhead := List.head?_dropWhile_not (· == ' ') type.toList
      simpa [hrest] using hhead
    have hnul : c.toNat ≠ 0 := by
      intro hzero
      have hc : c = '\x00' := Char.toNat_inj.1 hzero
      exact hname (hc ▸ hmem)
    simpa [hnul] using ⟨c, hmem, hspace⟩

/-- A record that is new under its reference is what the reference names once it is stored. -/
theorem object?_insertObject {store after : Store} {object : Object}
    (hstored : store.insertObject object = .ok after) :
    after.object? object.stub = some object := by
  obtain ⟨_, hfresh, rfl⟩ := insertObject_eq_ok_iff.1 hstored
  have hmem : ∀ other, other ∈ Ordered.insert Object.before object store.objects ↔
      other = object ∨ other ∈ store.objects := by
    intro other
    rw [(objects_insert_perm hfresh).mem_iff, List.mem_cons]
  rw [object?]
  cases hfound : List.find? _ _ with
  | none =>
    have habsent := List.find?_eq_none.1 hfound object ((hmem object).2 (.inl rfl))
    exact absurd (beq_self_eq_true _) habsent
  | some found =>
    have hstub : found.stub = object.stub := by simpa using List.find?_some hfound
    rcases (hmem found).1 (List.mem_of_find?_eq_some hfound) with rfl | hold
    · rfl
    · exact absurd hstub (hasObject_eq_false_iff.1 hfresh found hold)

end Store

namespace Graph

variable {registry : TypeRegistry} {store : Store} {object : Object} {now : Int}

/-! ## The list -/

/-- A snapshot has an origin, nothing else has one, and an origin is stored. -/
def originRequirements (store : Store) (object : Object) : List Requirement :=
  [⟨object.type = snapshotType → object.origin.isSome = true, .validation .snapshotWithoutOrigin⟩,
    ⟨object.origin.isSome = true → object.type = snapshotType,
      .validation (.originWithoutSnapshot object.type)⟩] ++
    object.origin.toList.map fun origin =>
      ⟨store.hasObject origin = true, .validation (.originAbsent origin)⟩

/-- The type of a row is more than spaces, and its reference is free. -/
def tableRequirements (store : Store) (object : Object) : List Requirement :=
  [⟨∃ c ∈ object.type.toList, c ≠ ' ', .storage .blankType⟩,
    ⟨store.hasObject object.stub = false, .conflict ("object " ++ object.stub.text)⟩]

/-- Everything that a record requires to be stored, in order. -/
def storageRequirements (registry : TypeRegistry) (store : Store) (object : Object) :
    List Requirement :=
  [⟨(registry.get? object.type).isSome = true, .validation (.unknownType object.type)⟩] ++
    originRequirements store object ++ tableRequirements store object

/-- All of it is met where the record may be stored. -/
theorem storageRequirements_met_iff :
    (∀ requirement ∈ storageRequirements registry store object, requirement.met) ↔
      (registry.get? object.type).isSome = true ∧ (∃ c ∈ object.type.toList, c ≠ ' ') ∧
        (object.origin.isSome = true ↔ object.type = snapshotType) ∧
        (∀ origin, object.origin = some origin → store.hasObject origin = true) ∧
        store.hasObject object.stub = false := by
  simp only [storageRequirements, originRequirements, tableRequirements, List.forall_mem_append,
    List.forall_mem_cons, List.forall_mem_map, List.not_mem_nil, false_imp_iff, implies_true,
    Option.mem_toList, and_true]
  constructor
  · rintro ⟨⟨hregistered, ⟨hgiven, hsnapshot⟩, horigin⟩, hname, hfree⟩
    exact ⟨hregistered, hname, ⟨hsnapshot, hgiven⟩, horigin, hfree⟩
  · rintro ⟨hregistered, hname, hsnapshot, horigin, hfree⟩
    exact ⟨⟨hregistered, ⟨hsnapshot.2, hsnapshot.1⟩, horigin⟩, hname, hfree⟩

/-! ## The checks -/

theorem decides_checkOrigin (store : Store) (object : Object) :
    Decides (originRequirements store object) () (checkOrigin store object) := by
  have hsnapshot : object.type = snapshotType ↔ object.isSnapshot = true := beq_iff_eq.symm
  rw [originRequirements, checkOrigin, hsnapshot]
  cases object.origin with
  | none =>
    cases object.isSnapshot with
    | true => exact .unmet (.here (by simp))
    | false => exact .met (by simp)
  | some origin =>
    cases object.isSnapshot with
    | false => exact .unmet (.later (by simp) (.here (by simp)))
    | true =>
      simp only
      split
      · next hstored => exact .met (by simp [hstored])
      · next hstored => exact .unmet (.later (by simp) (.later (by simp) (.here hstored)))

theorem decides_checkRecord (registry : TypeRegistry) (store : Store) (object : Object) :
    Decides
      ([⟨(registry.get? object.type).isSome = true, .validation (.unknownType object.type)⟩] ++
        originRequirements store object) () (checkRecord registry object store) := by
  rw [checkRecord]
  cases registry.get? object.type with
  | none => exact .unmet (.here Bool.false_ne_true)
  | some nodeType =>
    have hregistered : Decides
        [⟨(some nodeType).isSome = true, .validation (.unknownType object.type)⟩] ()
        (.ok ()) := .met (by simp)
    change Decides _ () (Except.ok () >>= fun _ => checkOrigin store object)
    exact hregistered.bind (decides_checkOrigin store object)

/-- The rule on type names is looked at before the key. -/
theorem decides_insertRow (store : Store) (hname : '\x00' ∉ object.type.toList) :
    Decides (tableRequirements store object)
      { store with objects := Ordered.insert Object.before (object.stampedAt now) store.objects }
      ((store.insertObject (object.stampedAt now)).mapError (explainRecord object)) := by
  have hblank : Store.isBlankType (object.stampedAt now).type = Store.isBlankType object.type := rfl
  have hstub : (object.stampedAt now).stub = object.stub := rfl
  rw [tableRequirements, ← Store.isBlankType_eq_false_iff hname, Store.insertObject, hblank, hstub]
  cases Store.isBlankType object.type with
  | true => exact .unmet (.here Bool.true_eq_false.mp)
  | false =>
    cases store.hasObject object.stub with
    | true => exact .unmet (.later rfl (.here Bool.true_eq_false.mp))
    | false => exact .met (by simp)

theorem decides_insertObject (registry : TypeRegistry) (now : Int) (object : Object)
    (store : Store) (hname : '\x00' ∉ object.type.toList) :
    Decides (storageRequirements registry store object)
      (object.stampedAt now, { store with
        objects := Ordered.insert Object.before (object.stampedAt now) store.objects })
      (Transition.insertObject registry now object store) := by
  rw [storageRequirements, Transition.insertObject]
  exact (decides_checkRecord registry store object).bind ((decides_insertRow store hname).map _)

/-! ## The record -/

/-- A record is stored if and only if its type is registered and not made of spaces alone, it has an
origin just where it is a snapshot, the origin is stored, and nothing is stored under its reference.
The one change is then its row, which holds the record as it was given but for its times, and which
is what is returned and what is found under the reference.  Otherwise the first requirement that is
not met is reported, and nothing is changed. -/
theorem insertObject_decided_by_requirements (registry : TypeRegistry) (now : Int)
    (object : Object) (connection : Connection) (hname : '\x00' ∉ object.type.toList) :
    let store := connection.store
    let outcome := insertObject registry now object connection
    ((∃ stored, outcome.result = .ok stored) ↔
      (registry.get? object.type).isSome = true ∧ (∃ c ∈ object.type.toList, c ≠ ' ') ∧
        (object.origin.isSome = true ↔ object.type = snapshotType) ∧
        (∀ origin, object.origin = some origin → store.hasObject origin = true) ∧
        store.hasObject object.stub = false) ∧
      (∀ stored, outcome.result = .ok stored →
        stored = { object with createdAt := now, updatedAt := now } ∧
          (∃ objects, objects.Perm (stored :: store.objects) ∧
            outcome.connection = { connection with store := { store with objects } }) ∧
          outcome.connection.store.object? object.stub = some stored) ∧
      ∀ error,
        (outcome.result = .error error ↔
          FirstUnmet (storageRequirements registry store object) error) ∧
          (outcome.result = .error error → outcome.connection = connection) := by
  intro store outcome
  have hrealizes := realizes_insertObject registry now object
  have hdecides := decides_insertObject registry now object store hname
  refine ⟨?_, ?_, ?_⟩
  · rw [← storageRequirements_met_iff, ← hdecides.ok_iff]
    simp only [outcome, store, hrealizes.result_eq_ok_iff, Prod.exists]
  · intro stored hresult
    obtain ⟨after, hinserted⟩ := hrealizes.result_eq_ok_iff.1 hresult
    have hconnection : outcome.connection = { connection with store := after } :=
      hrealizes.connection_of_ok hinserted
    obtain ⟨_, rfl, hrow⟩ := Transition.insertObject_eq_ok_iff.1 hinserted
    have hfound := Store.object?_insertObject hrow
    obtain ⟨_, hfresh, rfl⟩ := Store.insertObject_eq_ok_iff.1 hrow
    rw [hconnection]
    exact ⟨rfl, ⟨_, Store.objects_insert_perm hfresh, rfl⟩, hfound⟩
  · intro error
    refine ⟨hrealizes.result_eq_error_iff.trans hdecides.error_iff, fun hrefused => ?_⟩
    have hnumber := Transition.insertObject_ne_full registry now object store
    exact hrealizes.connection_eq_of_refused hnumber hrefused

/-- A snapshot of a control, with NUL and characters from everywhere in its title. -/
def titledSnapshot : Object :=
  { Object.snapshotOf 5 ⟨"Control", 1⟩ with title := "ß\x00Ж 水 𝄞" }

/-- A store with the control. -/
def storedControl : Connection where
  store := { objects := [Object.draft "Control" 1 "c"] }

/-- The snapshot is stored and found with its title and its origin, at the time of the insertion.
A second control of the same number is in conflict with the first, and a type of spaces, registered
though it is, goes against the rule of the table. -/
theorem titled_snapshot_inserted :
    '\x00' ∉ titledSnapshot.type.toList ∧
      (∃ stored, (insertObject .builtin 7 titledSnapshot storedControl).result = .ok stored ∧
        stored = { titledSnapshot with createdAt := 7, updatedAt := 7 } ∧
        (insertObject .builtin 7 titledSnapshot storedControl).connection.store.object?
          ⟨snapshotType, 5⟩ = some stored) ∧
      (insertObject .builtin 7 (Object.draft "Control" 1 "d") storedControl).result =
        .error (.conflict ("object " ++ Stub.text ⟨"Control", 1⟩)) ∧
      (insertObject (TypeRegistry.empty.register (.plainType "  ")) 7 (Object.draft "  " 1 "e")
        storedControl).result = .error (.storage .blankType) := by
  have hname : '\x00' ∉ titledSnapshot.type.toList := by decide
  have hcontrol : '\x00' ∉ (Object.draft "Control" 1 "d").type.toList := by decide
  have hspaces : '\x00' ∉ (Object.draft "  " 1 "e").type.toList := by decide
  obtain ⟨hstorable, hstored, _⟩ :=
    insertObject_decided_by_requirements .builtin 7 titledSnapshot storedControl hname
  obtain ⟨stored, hresult⟩ := hstorable.2 ⟨by decide,
    (Store.isBlankType_eq_false_iff hname).1 rfl, by decide, by rintro _ ⟨⟩; decide, by decide⟩
  obtain ⟨hvalue, _, hfound⟩ := hstored stored hresult
  obtain ⟨_, _, hduplicate⟩ := insertObject_decided_by_requirements .builtin 7
    (Object.draft "Control" 1 "d") storedControl hcontrol
  obtain ⟨_, _, hblank⟩ := insertObject_decided_by_requirements
    (TypeRegistry.empty.register (.plainType "  ")) 7 (Object.draft "  " 1 "e") storedControl
    hspaces
  refine ⟨hname, ⟨stored, hresult, hvalue, hfound⟩, (hduplicate _).1.2 ?_, (hblank _).1.2 ?_⟩
  · have hwritten := (Store.isBlankType_eq_false_iff hcontrol).1 rfl
    exact .later (by decide) (.later (by decide) (.later (by decide) (.later hwritten
      (.here (by decide)))))
  · have hunwritten := mt (Store.isBlankType_eq_false_iff hspaces).2 Bool.true_eq_false.mp
    exact .later (by decide) (.later (by decide) (.later (by decide) (.here hunwritten)))

end Graph

end RecordGraph
