import RecordGraph.Proofs.GraphRuns
import RecordGraph.Proofs.LedgerTransitions

/-!
# A refused call leaves nothing behind

Whatever a call has done before it is refused is undone: rows that it stored, references that it
cleared and numbers that it used.  What was open around it stays open.  This holds as long as the
tables have numbers left, because a call that finds none undoes what is open around it as well.
-/

namespace RecordGraph

/-- No table has given out its greatest number. -/
structure Store.HasNumbers (store : Store) : Prop where
  relationships : store.lastRelationshipId < Decimal.maxId
  automappings : store.lastAutomappingId < Decimal.maxId
  jobs : store.lastJobId < Decimal.maxId

namespace Store

/-! ## Rows -/

theorem insertObject_ne_full (store : Store) (object : Object) :
    store.insertObject object ≠ .error .full := by
  rw [insertObject]
  split
  · simp
  · split
    · simp
    · simp

/-- An edge without a number of its own finds none when the last one has been given out; nothing
else is looked at then. -/
theorem insertRelationship_eq_full_iff {store : Store} {row : NewEdge} :
    store.insertRelationship row = .error .full ↔
      row.id = none ∧ Decimal.maxId ≤ store.lastRelationshipId := by
  rw [← freshId?_eq_none_iff, ← Option.or_eq_none_iff, insertRelationship]
  cases row.id.or (freshId? store.lastRelationshipId) with
  | none => simp
  | some id =>
    simp only [reduceCtorEq, iff_false]
    split
    · simp
    · split
      · simp
      · simp

theorem insertAutomapping_eq_full_iff {store : Store} {row : NewAutomapping} :
    store.insertAutomapping row = .error .full ↔ Decimal.maxId ≤ store.lastAutomappingId := by
  rw [← freshId?_eq_none_iff, insertAutomapping]
  cases freshId? store.lastAutomappingId with
  | none => simp
  | some id =>
    simp only [reduceCtorEq, iff_false]
    split
    · simp
    · simp

theorem insertJob_eq_full_iff {store : Store} {job : Job} :
    store.insertJob job = .error .full ↔ Decimal.maxId ≤ store.lastJobId := by
  rw [← freshId?_eq_none_iff, insertJob]
  cases freshId? store.lastJobId with
  | none => simp
  | some id => simp

theorem insertRelationship_ne_full {store : Store} (row : NewEdge)
    (hnumbers : store.lastRelationshipId < Decimal.maxId) :
    store.insertRelationship row ≠ .error .full :=
  fun hfull => Int.not_le.2 hnumbers (insertRelationship_eq_full_iff.1 hfull).2

theorem insertAutomapping_ne_full {store : Store} (row : NewAutomapping)
    (hnumbers : store.lastAutomappingId < Decimal.maxId) :
    store.insertAutomapping row ≠ .error .full :=
  fun hfull => Int.not_le.2 hnumbers (insertAutomapping_eq_full_iff.1 hfull)

theorem insertJob_ne_full {store : Store} (job : Job)
    (hnumbers : store.lastJobId < Decimal.maxId) : store.insertJob job ≠ .error .full :=
  fun hfull => Int.not_le.2 hnumbers (insertJob_eq_full_iff.1 hfull)

end Store

/-! ## Transitions -/

namespace Transition

theorem void_ne_error {α : Type} {transition : Transition α} {store : Store} {error : GraphError}
    (hother : transition store ≠ .error error) : transition.void store ≠ .error error :=
  mt void_eq_error_iff.1 hother

theorem insertObject_ne_full (registry : TypeRegistry) (now : Int) (object : Object)
    (store : Store) : insertObject registry now object store ≠ .error (.storage .full) := by
  apply bind_ne_error (Graph.checkRecord_ne_full registry object store)
  intro _ _
  apply bind_ne_error (mapError_ne_full (fun _ => Graph.explainRecord_eq_full_iff)
    (store.insertObject_ne_full (object.stampedAt now)))
  intro after _
  simp [pure, Except.pure]

theorem create_ne_full (registry : TypeRegistry) (actor : Actor) (now : Int)
    (request : Graph.Request) {store : Store}
    (hnumbers : store.lastRelationshipId < Decimal.maxId) :
    create registry actor now request store ≠ .error (.storage .full) := by
  apply bind_ne_error (Graph.checkRequest_ne_full registry actor request store)
  rintro ⟨source, destination⟩ _
  exact mapError_ne_full (fun _ => Graph.explainEdge_eq_full_iff)
    (Store.insertRelationship_ne_full _ hnumbers)

/-- Recording the run takes no number of an edge, so the edge still finds one. -/
theorem createFromParent_ne_full (registry : TypeRegistry) (actor : Actor) (now : Int)
    (parent : Relationship) (source destination : Object) {store : Store}
    (hnumbers : store.HasNumbers) :
    createFromParent registry actor now parent source destination store ≠
      .error (.storage .full) := by
  apply bind_ne_error (mapError_ne_full (fun _ => Graph.explainRun_eq_full_iff)
    (Store.insertAutomapping_ne_full _ hnumbers.automappings))
  rintro ⟨run, recorded⟩ hrun
  obtain ⟨id, _, _, _, hrecorded⟩ :=
    Store.insertAutomapping_eq_ok_iff.1 (mapError_eq_ok_iff.1 hrun)
  apply create_ne_full
  calc recorded.lastRelationshipId
      = store.lastRelationshipId := by rw [hrecorded]
    _ < Decimal.maxId := hnumbers.relationships

theorem createDerived_ne_full (registry : TypeRegistry) (actor : Actor) (now : Int)
    (parent : Relationship) (source destination : Object) {store : Store}
    (hnumbers : store.HasNumbers) :
    createDerived registry actor now parent source destination store ≠
      .error (.storage .full) := by
  rw [createDerived]
  cases store.findRelated? source.stub destination.stub with
  | some existing => simp
  | none =>
    apply bind_ne_error
      (createFromParent_ne_full registry actor now parent source destination hnumbers)
    intro stored _
    simp [pure, Except.pure]

theorem delete_ne_full (registry : TypeRegistry) (actor : Actor) (id : Int) (store : Store) :
    delete registry actor id store ≠ .error (.storage .full) := by
  rw [delete]
  cases store.relationship? id with
  | none => simp
  | some edge =>
    apply bind_ne_error (Graph.checkDelete_ne_full registry actor edge)
    intro _ _
    simp [pure, Except.pure]

theorem deleteObject_ne_full (registry : TypeRegistry) (actor : Actor) (stub : Stub)
    (store : Store) : deleteObject registry actor stub store ≠ .error (.storage .full) := by
  rw [deleteObject]
  cases store.hasObject stub with
  | false => simp
  | true =>
    apply bind_ne_error (Graph.checkDeletes_ne_full registry actor (store.edgesTouching stub))
    intro _ _
    simp [pure, Except.pure]

theorem createJob_ne_full (actor : Actor) (now : Int) (job : Ledger.NewJob) {store : Store}
    (hnumbers : store.lastJobId < Decimal.maxId) :
    createJob actor now job store ≠ .error (.storage .full) :=
  mapError_ne_full (fun _ => Ledger.explainJob_eq_full_iff)
    (Store.insertJob_ne_full (job.row actor now) hnumbers)

theorem updateStatus_ne_full (actor : Actor) (now : Int) (id : Int) (target : JobStatus)
    (store : Store) : updateStatus actor now id target store ≠ .error (.storage .full) := by
  apply bind_ne_error (Ledger.get_ne_full actor id store)
  intro job _
  apply bind_ne_error (Ledger.checkTransition_ne_full job.status target)
  intro _ _
  simp [pure, Except.pure]

theorem setResults_ne_full (actor : Actor) (id : Int) (document : Json) (store : Store) :
    setResults actor id document store ≠ .error (.storage .full) := by
  apply bind_ne_error (Ledger.get_ne_full actor id store)
  intro job _
  simp [pure, Except.pure]

theorem deletePreviousImports_ne_full (actor : Actor) (store : Store) :
    deletePreviousImports actor store ≠ .error (.storage .full) := by
  rw [deletePreviousImports]
  split
  · simp
  · simp

end Transition

theorem GraphCall.transition_ne_full (call : GraphCall) {store : Store}
    (hnumbers : store.HasNumbers) : call.transition store ≠ .error (.storage .full) := by
  cases call with
  | insertObject registry now object =>
    exact Transition.void_ne_error (Transition.insertObject_ne_full registry now object store)
  | create registry actor now request =>
    exact Transition.void_ne_error
      (Transition.create_ne_full registry actor now request hnumbers.relationships)
  | createDerived registry actor now parent source destination =>
    exact Transition.void_ne_error
      (Transition.createDerived_ne_full registry actor now parent source destination hnumbers)
  | delete registry actor id =>
    exact Transition.void_ne_error (Transition.delete_ne_full registry actor id store)
  | deleteObject registry actor stub =>
    exact Transition.void_ne_error (Transition.deleteObject_ne_full registry actor stub store)

theorem LedgerCall.transition_ne_full (call : LedgerCall) {store : Store}
    (hnumbers : store.HasNumbers) : call.transition store ≠ .error (.storage .full) := by
  cases call with
  | create actor now job =>
    exact Transition.void_ne_error (Transition.createJob_ne_full actor now job hnumbers.jobs)
  | updateStatus actor now id target =>
    exact Transition.void_ne_error (Transition.updateStatus_ne_full actor now id target store)
  | setResults actor id document =>
    exact Transition.void_ne_error (Transition.setResults_ne_full actor id document store)
  | deletePreviousImports actor =>
    exact Transition.void_ne_error (Transition.deletePreviousImports_ne_full actor store)

/-! ## Calls -/

/-- A refused call that realizes a transition leaves the connection as it was, what is open on it
included, unless no number was left. -/
theorem Call.Realizes.connection_eq_of_refused {α : Type} {call : Call α}
    {transition : Transition α} (hrealizes : call.Realizes transition) {connection : Connection}
    {error : GraphError} (hnumbers : transition connection.store ≠ .error (.storage .full))
    (hrefused : (call connection).result = .error error) :
    (call connection).connection = connection := by
  obtain ⟨hresult, hconnection⟩ := hrealizes connection
  rw [hresult] at hrefused
  rw [hconnection]
  cases htransition : transition connection.store with
  | ok outcome =>
    rw [htransition] at hrefused
    cases hrefused
  | error found =>
    have hother : found ≠ .storage .full := by
      intro hfull
      rw [htransition, hfull] at hnumbers
      exact hnumbers rfl
    rw [Connection.settle, if_neg hother]

/-- One call that changes the store. -/
inductive StoreCall where
  | graph (call : GraphCall)
  | ledger (call : LedgerCall)

namespace StoreCall

def perform : StoreCall → Call Unit
  | graph call => call.perform
  | ledger call => call.perform

def transition : StoreCall → Transition Unit
  | graph call => call.transition
  | ledger call => call.transition

theorem realizes_perform (call : StoreCall) : call.perform.Realizes call.transition := by
  cases call with
  | graph call => exact call.realizes_perform
  | ledger call => exact call.realizes_perform

/-- The connection after some calls, made one after the other whether they succeed or not. -/
def run (calls : List StoreCall) (connection : Connection) : Connection :=
  calls.foldl (fun connection call => (call.perform connection).connection) connection

/-- None of some calls, made one after the other, finds that no number is left. -/
def FindNumbers : List StoreCall → Connection → Prop
  | [], _ => True
  | call :: rest, connection =>
    (call.perform connection).result ≠ .error (.storage .full) ∧
      FindNumbers rest (call.perform connection).connection

/-- A call that undoes nothing but what it did itself leaves the store as it was or after its
transition, and what is open as it was. -/
theorem perform_cases (call : StoreCall) {connection : Connection}
    (hnumbers : connection.frames = [] ∨
      (call.perform connection).result ≠ .error (.storage .full)) :
    (call.perform connection).connection = connection ∨
      ∃ after, call.transition connection.store = .ok ((), after) ∧
        (call.perform connection).connection = { connection with store := after } := by
  have hrealizes := call.realizes_perform
  have hother : connection.frames = [] ∨
      call.transition connection.store ≠ .error (.storage .full) :=
    hnumbers.imp_right (mt hrealizes.result_eq_error_iff.2)
  exact (hrealizes.connection_cases hother).imp_right fun ⟨_, after, hchanged, hafter⟩ =>
    ⟨after, hchanged, hafter⟩

/-- What each transition keeps is kept by all of them, if there is nothing open that a lack of
numbers would undo, or no such lack. -/
theorem run_keeps {property : Store → Prop} {calls : List StoreCall}
    (hstep : ∀ call ∈ calls, ∀ store after, property store →
      call.transition store = .ok ((), after) → property after)
    {connection : Connection} (hnumbers : connection.frames = [] ∨ FindNumbers calls connection)
    (hstart : property connection.store) : property (run calls connection).store := by
  induction calls generalizing connection with
  | nil => exact hstart
  | cons call rest ih =>
    obtain ⟨hframes, hkept⟩ : (call.perform connection).connection.frames = connection.frames ∧
        property (call.perform connection).connection.store := by
      rcases call.perform_cases (hnumbers.imp_right And.left) with
        hsame | ⟨after, hchanged, hafter⟩
      · rw [hsame]
        exact ⟨rfl, hstart⟩
      · rw [hafter]
        exact ⟨rfl, hstep call List.mem_cons_self connection.store after hstart hchanged⟩
    exact ih (fun other hother => hstep other (List.mem_cons_of_mem call hother))
      (hnumbers.imp hframes.trans And.right) hkept

theorem transition_ne_full (call : StoreCall) {store : Store} (hnumbers : store.HasNumbers) :
    call.transition store ≠ .error (.storage .full) := by
  cases call with
  | graph call => exact call.transition_ne_full hnumbers
  | ledger call => exact call.transition_ne_full hnumbers

/-- Whatever is open on the connection, a refused call leaves the rows and the numbers of every
table as they were, and everything that was open stays open. -/
theorem refused_leaves_connection (call : StoreCall) (connection : Connection)
    (hnumbers : connection.store.HasNumbers) {error : GraphError}
    (hrefused : (call.perform connection).result = .error error) :
    (call.perform connection).connection = connection :=
  call.realizes_perform.connection_eq_of_refused (call.transition_ne_full hnumbers) hrefused

/-- An edge from `Objective#3` to `Issue#4`. -/
def storedEdge : Relationship :=
  { id := 1, source := ⟨"Objective", 3⟩, destination := ⟨"Issue", 4⟩, parentId := none
    automappingId := none, external := false, modifiedBy := none, createdAt := 0
    updatedAt := 0 }

/-- A connection with an open transaction, in which the edge was stored. -/
def openTransaction : Connection where
  store := { relationships := [storedEdge], lastRelationshipId := 1 }
  frames := [⟨none, {}⟩]

/-- A derivation between types that the registry does not know. -/
def strayDerivation : StoreCall :=
  .graph (.createDerived {} ⟨7, false⟩ 0 storedEdge (Object.draft "Risk" 5 "r")
    (Object.draft "Control" 6 "c"))

/-- The derivation is refused after its run was recorded, and the run is undone. -/
theorem stray_derivation_undone :
    openTransaction.store.HasNumbers ∧
      (strayDerivation.perform openTransaction).result =
        .error (.validation (.notRelatable "Risk")) ∧
      (strayDerivation.perform openTransaction).connection = openTransaction := by
  have hnumbers : openTransaction.store.HasNumbers := ⟨by decide, by decide, by decide⟩
  have hrefused : (strayDerivation.perform openTransaction).result =
      .error (.validation (.notRelatable "Risk")) := rfl
  exact ⟨hnumbers, hrefused,
    refused_leaves_connection strayDerivation openTransaction hnumbers hrefused⟩

end StoreCall

end RecordGraph
