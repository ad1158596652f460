import RecordGraph.Graph.Derivation
import RecordGraph.Proofs.Checks
import RecordGraph.Proofs.Rows
import RecordGraph.Proofs.Transition

/-!
# What the operations on the graph do to a store

Each of the five operations that change the graph realizes a transition, which is stated here in
full: the checks in their order, then the rows that are written.  Callers of an operation reason
about its transition and need not open the savepoints again.
-/

namespace RecordGraph

/-! ## The transitions -/

namespace Transition

open RecordGraph.Graph

def insertObject (registry : TypeRegistry) (now : Int) (object : Object) : Transition Object :=
  fun store => do
    checkRecord registry object store
    let after ← (store.insertObject (object.stampedAt now)).mapError (explainRecord object)
    return (object.stampedAt now, after)

def create (registry : TypeRegistry) (actor : Actor) (now : Int) (request : Request) :
    Transition Relationship := fun store => do
  let (source, destination) ← checkRequest registry actor request store
  (store.insertRelationship (request.row actor now source.stub destination.stub)).mapError
    (explainEdge source.stub destination.stub)

/-- The run is recorded before the edge is checked. -/
def createFromParent (registry : TypeRegistry) (actor : Actor) (now : Int)
    (parent : Relationship) (source destination : Object) : Transition Relationship :=
  fun store => do
    let (run, recorded) ← (store.insertAutomapping (runRow actor now parent)).mapError explainRun
    create registry actor now (derivedRequest parent run source destination) recorded

def createDerived (registry : TypeRegistry) (actor : Actor) (now : Int) (parent : Relationship)
    (source destination : Object) : Transition (Option Relationship) := fun store =>
  match store.findRelated? source.stub destination.stub with
  | some _ => .ok (none, store)
  | none => do
    let (edge, after) ← createFromParent registry actor now parent source destination store
    return (some edge, after)

def delete (registry : TypeRegistry) (actor : Actor) (id : Int) : Transition Relationship :=
  fun store =>
    match store.relationship? id with
    | none => .error (.notFound "relationship" (Decimal.text id))
    | some edge => do
      checkDelete registry actor edge
      return (edge, store.removeRelationship edge.id)

def deleteObject (registry : TypeRegistry) (actor : Actor) (stub : Stub) :
    Transition (List Relationship) := fun store =>
  if store.hasObject stub then do
    let edges := store.edgesTouching stub
    checkDeletes registry actor edges
    return (edges, (store.removeRelationships edges).removeObject stub)
  else .error (.notFound "object" stub.text)

/-! ## Success -/

theorem insertObject_eq_ok_iff {registry : TypeRegistry} {now : Int} {object stored : Object}
    {store after : Store} :
    insertObject registry now object store = .ok (stored, after) ↔
      checkRecord registry object store = .ok () ∧ stored = object.stampedAt now ∧
        store.insertObject stored = .ok after := by
  simp only [insertObject, bind_eq_ok_iff, mapError_eq_ok_iff, pure, Except.pure, Except.ok.injEq,
    Prod.mk.injEq]
  constructor
  · intro hinserted
    obtain ⟨_, hcheck, _, hrow, rfl, rfl⟩ := hinserted
    exact ⟨hcheck, rfl, hrow⟩
  · intro hparts
    obtain ⟨hcheck, rfl, hrow⟩ := hparts
    exact ⟨(), hcheck, after, hrow, rfl, rfl⟩

theorem create_eq_ok_iff {registry : TypeRegistry} {actor : Actor} {now : Int}
    {request : Request} {store after : Store} {edge : Relationship} :
    create registry actor now request store = .ok (edge, after) ↔
      ∃ source destination,
        checkRequest registry actor request store = .ok (source, destination) ∧
          store.insertRelationship (request.row actor now source.stub destination.stub) =
            .ok (edge, after) := by
  simp only [create, bind_eq_ok_iff, mapError_eq_ok_iff, Prod.exists]

theorem createFromParent_eq_ok_iff {registry : TypeRegistry} {actor : Actor} {now : Int}
    {parent edge : Relationship} {source destination : Object} {store after : Store} :
    createFromParent registry actor now parent source destination store = .ok (edge, after) ↔
      ∃ run recorded,
        store.insertAutomapping (runRow actor now parent) = .ok (run, recorded) ∧
          create registry actor now (derivedRequest parent run source destination) recorded =
            .ok (edge, after) := by
  simp only [createFromParent, bind_eq_ok_iff, mapError_eq_ok_iff, Prod.exists]

theorem createDerived_eq_ok_iff {registry : TypeRegistry} {actor : Actor} {now : Int}
    {parent : Relationship} {source destination : Object} {store after : Store}
    {derived : Option Relationship} :
    createDerived registry actor now parent source destination store = .ok (derived, after) ↔
      (∃ existing, store.findRelated? source.stub destination.stub = some existing ∧
          derived = none ∧ after = store) ∨
        ∃ edge, store.findRelated? source.stub destination.stub = none ∧ derived = some edge ∧
          createFromParent registry actor now parent source destination store =
            .ok (edge, after) := by
  rw [createDerived]
  cases store.findRelated? source.stub destination.stub with
  | some existing => simp [eq_comm]
  | none =>
    simp only [bind_eq_ok_iff, Prod.exists, pure, Except.pure, Except.ok.injEq, Prod.mk.injEq,
      reduceCtorEq, false_and, exists_false, true_and, false_or]
    constructor
    · intro hmade
      obtain ⟨edge, _, hmade, rfl, rfl⟩ := hmade
      exact ⟨edge, rfl, hmade⟩
    · intro hderived
      obtain ⟨edge, rfl, hmade⟩ := hderived
      exact ⟨edge, after, hmade, rfl, rfl⟩

theorem delete_eq_ok_iff {registry : TypeRegistry} {actor : Actor} {id : Int}
    {store after : Store} {edge : Relationship} :
    delete registry actor id store = .ok (edge, after) ↔
      store.relationship? id = some edge ∧ checkDelete registry actor edge = .ok () ∧
        after = store.removeRelationship edge.id := by
  rw [delete]
  cases store.relationship? id with
  | none => simp
  | some found =>
    simp only [bind_eq_ok_iff, pure, Except.pure, Except.ok.injEq, Prod.mk.injEq,
      Option.some.injEq]
    constructor
    · intro hdeleted
      obtain ⟨_, hcheck, rfl, rfl⟩ := hdeleted
      exact ⟨rfl, hcheck, rfl⟩
    · intro hparts
      obtain ⟨rfl, hcheck, rfl⟩ := hparts
      exact ⟨(), hcheck, rfl, rfl⟩

theorem deleteObject_eq_ok_iff {registry : TypeRegistry} {actor : Actor} {stub : Stub}
    {store after : Store} {edges : List Relationship} :
    deleteObject registry actor stub store = .ok (edges, after) ↔
      store.hasObject stub = true ∧ edges = store.edgesTouching stub ∧
        checkDeletes registry actor edges = .ok () ∧
        after = (store.removeRelationships edges).removeObject stub := by
  rw [deleteObject]
  cases store.hasObject stub with
  | false => simp
  | true =>
    simp only [if_true, true_and, bind_eq_ok_iff, pure, Except.pure, Except.ok.injEq,
      Prod.mk.injEq]
    constructor
    · intro hdeleted
      obtain ⟨_, hcheck, rfl, rfl⟩ := hdeleted
      exact ⟨rfl, hcheck, rfl⟩
    · intro hparts
      obtain ⟨rfl, hcheck, rfl⟩ := hparts
      exact ⟨(), hcheck, rfl, rfl⟩

end Transition

namespace Graph

/-! ## The operations realize their transitions -/

theorem realizes_insertObject (registry : TypeRegistry) (now : Int) (object : Object) :
    (insertObject registry now object).Realizes (Transition.insertObject registry now object) := by
  have hstore := Call.realizes_insertRow
    (fun store => (store.insertObject (object.stampedAt now)).map
      (fun after => (object.stampedAt now, after))) (explainRecord object)
      fun _ => explainRecord_eq_full_iff
  have hsteps := Call.Realizes.check_andThen (checkRecord_ne_full registry object)
    (fun (_ : Unit) => hstore)
  refine hsteps.congr fun store => ?_
  simp only [Transition.andThen, Transition.read, Transition.insertRow, Transition.insertObject]
  cases checkRecord registry object store with
  | error error => rfl
  | ok _ =>
    simp only [Except.map]
    cases store.insertObject (object.stampedAt now) with
    | error failure => rfl
    | ok after => rfl

theorem realizes_create (registry : TypeRegistry) (actor : Actor) (now : Int)
    (request : Request) :
    (create registry actor now request).Realizes
      (Transition.create registry actor now request) := by
  have hcheck := (Call.realizes_check (checkRequest registry actor request)
    (checkRequest_ne_full registry actor request)).follows
  have hsteps := hcheck.andThen fun ends => (Call.realizes_insertRow
    (fun store => store.insertRelationship (request.row actor now ends.1.stub ends.2.stub))
    (explainEdge ends.1.stub ends.2.stub) (fun _ => explainEdge_eq_full_iff)).follows
  refine (hsteps.inSavepoint "relationship_create").congr fun store => ?_
  simp only [Transition.andThen, Transition.read, Transition.insertRow, Transition.create]
  cases checkRequest registry actor request store with
  | error error => rfl
  | ok ends => rfl

theorem follows_createFromParent (registry : TypeRegistry) (actor : Actor) (now : Int)
    (parent : Relationship) (source destination : Object) :
    (createFromParent registry actor now parent source destination).Follows
      (Transition.createFromParent registry actor now parent source destination) := by
  have hrun := (Call.realizes_insertRow
    (fun store => store.insertAutomapping (runRow actor now parent)) explainRun
      (fun _ => explainRun_eq_full_iff)).follows
  have hsteps := hrun.andThen fun run =>
    (realizes_create registry actor now (derivedRequest parent run source destination)).follows
  refine hsteps.congr fun store => ?_
  simp only [Transition.andThen, Transition.insertRow, Transition.createFromParent]
  cases store.insertAutomapping (runRow actor now parent) with
  | error failure => rfl
  | ok recorded => rfl

theorem realizes_createDerived (registry : TypeRegistry) (actor : Actor) (now : Int)
    (parent : Relationship) (source destination : Object) :
    (createDerived registry actor now parent source destination).Realizes
      (Transition.createDerived registry actor now parent source destination) := by
  have hask := (Call.realizes_ask
    (fun store => store.findRelated? source.stub destination.stub)).follows
  have hmade := (follows_createFromParent registry actor now parent source
    destination).andThen fun edge => (Call.realizes_succeed (some edge)).follows
  -- What follows the question depends on its answer.
  let next : Option Relationship → Call (Option Relationship)
    | some _ => Call.succeed none
    | none => (createFromParent registry actor now parent source destination).andThen
        fun edge => Call.succeed (some edge)
  let rest : Option Relationship → Transition (Option Relationship)
    | some _ => Transition.read (fun _ => .ok none)
    | none => (Transition.createFromParent registry actor now parent source
        destination).andThen fun edge => Transition.read (fun _ => .ok (some edge))
  have hrest : ∀ existing, (next existing).Follows (rest existing) := by
    intro existing
    cases existing with
    | some _ => exact (Call.realizes_succeed none).follows
    | none => exact hmade
  have hsteps := hask.andThen hrest
  refine (hsteps.inSavepoint "automapping_create").congr fun store => ?_
  simp only [Transition.andThen, Transition.read, Except.map, Transition.createDerived, rest]
  cases store.findRelated? source.stub destination.stub with
  | some existing => rfl
  | none =>
    simp only [Transition.andThen]
    cases Transition.createFromParent registry actor now parent source destination store with
    | error error => rfl
    | ok outcome => rfl

theorem realizes_delete (registry : TypeRegistry) (actor : Actor) (id : Int) :
    (delete registry actor id).Realizes (Transition.delete registry actor id) := by
  let find : Store → Except GraphError Relationship := fun store =>
    match store.relationship? id with
    | some edge => .ok edge
    | none => .error (.notFound "relationship" (Decimal.text id))
  have hfind : ∀ store, find store ≠ .error (.storage .full) := by
    intro store
    simp only [find]
    split <;> simp
  have hsteps := (Call.realizes_check find hfind).follows.andThen fun edge =>
    (Call.realizes_check (fun _ => checkDelete registry actor edge)
      (fun _ => checkDelete_ne_full registry actor edge)).follows.andThen fun _ =>
        (Call.realizes_change (fun store => store.removeRelationship edge.id)).follows.andThen
          fun _ => (Call.realizes_succeed edge).follows
  refine (hsteps.inSavepoint "relationship_delete").congr fun store => ?_
  simp only [Transition.andThen, Transition.read, Transition.change, Transition.delete, find]
  cases store.relationship? id with
  | none => rfl
  | some edge =>
    simp only [Except.map]
    cases checkDelete registry actor edge with
    | error error => rfl
    | ok _ => rfl

theorem realizes_deleteObject (registry : TypeRegistry) (actor : Actor) (stub : Stub) :
    (deleteObject registry actor stub).Realizes
      (Transition.deleteObject registry actor stub) := by
  let find : Store → Except GraphError (List Relationship) := fun store =>
    if store.hasObject stub then .ok (store.edgesTouching stub)
    else .error (.notFound "object" stub.text)
  have hfind : ∀ store, find store ≠ .error (.storage .full) := by
    intro store
    simp only [find]
    split <;> simp
  have hsteps := (Call.realizes_check find hfind).follows.andThen fun edges =>
    (Call.realizes_check (fun _ => checkDeletes registry actor edges)
      (fun _ => checkDeletes_ne_full registry actor edges)).follows.andThen fun _ =>
        (Call.realizes_change (fun store => store.removeRelationships edges)).follows.andThen
          fun _ => (Call.realizes_change (fun store => store.removeObject stub)).follows.andThen
            fun _ => (Call.realizes_succeed edges).follows
  refine (hsteps.inSavepoint "object_delete").congr fun store => ?_
  simp only [Transition.andThen, Transition.read, Transition.change, Transition.deleteObject,
    find]
  cases store.hasObject stub with
  | false => rfl
  | true =>
    simp only [if_true, Except.map]
    cases checkDeletes registry actor (store.edgesTouching stub) with
    | error error => rfl
    | ok _ => rfl

end Graph

end RecordGraph
