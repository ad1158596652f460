import RecordGraph.Proofs.FailureAtomicity

/-!
# Refused calls in an open transaction

A caller may put several calls into one transaction of its own.  When one of them is refused, what
the others have changed is kept, with one exception: where a row is to be stored and no number is
left for it, everything that is open is undone and closed, and the caller has nothing left to
commit.  Here it is said exactly when this happens.
-/

namespace RecordGraph

/-! ## Running out of numbers -/

namespace Graph

/-- The request passes every check that comes before its row is stored. -/
def Passes (registry : TypeRegistry) (actor : Actor) (request : Request) (store : Store) : Prop :=
  ∃ ends, checkRequest registry actor request store = .ok ends

end Graph

namespace Transition

theorem create_eq_full_iff {registry : TypeRegistry} {actor : Actor} {now : Int}
    {request : Graph.Request} {store : Store} :
    create registry actor now request store = .error (.storage .full) ↔
      Graph.Passes registry actor request store ∧ Decimal.maxId ≤ store.lastRelationshipId := by
  have hcheck := Graph.checkRequest_ne_full registry actor request store
  have hnumber : ∀ source destination,
      store.insertRelationship (request.row actor now source destination) = .error .full ↔
        Decimal.maxId ≤ store.lastRelationshipId := fun _ _ =>
    Store.insertRelationship_eq_full_iff.trans (and_iff_right rfl)
  simp only [create, bind_eq_error_iff, hcheck, false_or, Prod.exists,
    mapError_eq_full_iff (fun _ => Graph.explainEdge_eq_full_iff), hnumber, Graph.Passes,
    exists_and_right]

/-- Recording a run changes nothing that a check looks at. -/
theorem passes_recorded_iff {registry : TypeRegistry} {actor : Actor} {parent : Relationship}
    {source destination : Object} {row : NewAutomapping} {run : Automapping}
    {store recorded : Store} (hrecorded : store.insertAutomapping row = .ok (run, recorded)) :
    Graph.Passes registry actor (Graph.derivedRequest parent run source destination) recorded ↔
      Graph.Passes registry actor { source, destination } store := by
  obtain ⟨_, _, _, _, rfl⟩ := Store.insertAutomapping_eq_ok_iff.1 hrecorded
  rfl

/-- The run takes its number first.  Once it has one, the edge is checked, and its number runs out
as that of an edge that is not derived. -/
theorem createFromParent_eq_full_iff {registry : TypeRegistry} {actor : Actor} {now : Int}
    {parent : Relationship} {source destination : Object} {store : Store} :
    createFromParent registry actor now parent source destination store =
        .error (.storage .full) ↔
      Decimal.maxId ≤ store.lastAutomappingId ∨
        (store.hasRelationship parent.id = true ∧
          Graph.Passes registry actor { source, destination } store ∧
          Decimal.maxId ≤ store.lastRelationshipId) := by
  have hrun : (store.insertAutomapping (Graph.runRow actor now parent)).mapError
      Graph.explainRun = .error (.storage .full) ↔ Decimal.maxId ≤ store.lastAutomappingId :=
    (mapError_eq_full_iff fun _ => Graph.explainRun_eq_full_iff).trans
      Store.insertAutomapping_eq_full_iff
  rw [createFromParent, bind_eq_error_iff, hrun]
  by_cases hlast : Decimal.maxId ≤ store.lastAutomappingId
  · simp only [hlast, true_or]
  · simp only [hlast, false_or]
    constructor
    · rintro ⟨⟨run, recorded⟩, hrecorded, hfull⟩
      have hstored := mapError_eq_ok_iff.1 hrecorded
      obtain ⟨hpasses, hnumber⟩ := create_eq_full_iff.1 hfull
      obtain ⟨_, _, hparent, _, hafter⟩ := Store.insertAutomapping_eq_ok_iff.1 hstored
      have hedges : recorded.lastRelationshipId = store.lastRelationshipId := by rw [hafter]
      rw [hedges] at hnumber
      exact ⟨hparent parent.id rfl, (passes_recorded_iff hstored).1 hpasses, hnumber⟩
    · rintro ⟨hparent, hpasses, hnumber⟩
      -- The run finds its number and its trigger, so it is the edge that finds no number.
      have hfresh : freshId? store.lastAutomappingId = some (store.lastAutomappingId + 1) :=
        Store.freshId?_eq_some_iff.2 ⟨Int.not_le.1 hlast, rfl⟩
      have htrigger : ∀ trigger, (Graph.runRow actor now parent).relationshipId = some trigger →
          store.hasRelationship trigger = true := by
        rintro trigger ⟨⟩
        exact hparent
      have hstored := Store.insertAutomapping_eq_ok_iff.2 ⟨_, hfresh, htrigger, rfl, rfl⟩
      exact ⟨_, mapError_eq_ok_iff.2 hstored,
        create_eq_full_iff.2 ⟨(passes_recorded_iff hstored).2 hpasses, hnumber⟩⟩

theorem createDerived_eq_full_iff {registry : TypeRegistry} {actor : Actor} {now : Int}
    {parent : Relationship} {source destination : Object} {store : Store} :
    createDerived registry actor now parent source destination store =
        .error (.storage .full) ↔
      store.findRelated? source.stub destination.stub = none ∧
        createFromParent registry actor now parent source destination store =
          .error (.storage .full) := by
  rw [createDerived]
  cases store.findRelated? source.stub destination.stub with
  | some existing => simp
  | none =>
    simp only [bind_eq_error_iff, true_and, or_iff_left_iff_imp, forall_exists_index, and_imp]
    rintro _ _ ⟨⟩

end Transition

/-! ## Calls that run out of numbers -/

/-- The call is to store a row, all its checks pass, and no number is left for the row. -/
def GraphCall.RunsOut (store : Store) : GraphCall → Prop
  | create registry actor _ request =>
    Graph.Passes registry actor request store ∧ Decimal.maxId ≤ store.lastRelationshipId
  | createDerived registry actor _ parent source destination =>
    store.findRelated? source.stub destination.stub = none ∧
      (Decimal.maxId ≤ store.lastAutomappingId ∨
        (store.hasRelationship parent.id = true ∧
          Graph.Passes registry actor { source, destination } store ∧
          Decimal.maxId ≤ store.lastRelationshipId))
  | _ => False

theorem GraphCall.transition_eq_full_iff {call : GraphCall} {store : Store} :
    call.transition store = .error (.storage .full) ↔ call.RunsOut store := by
  cases call with
  | insertObject registry now object =>
    exact iff_false_intro
      (Transition.void_ne_error (Transition.insertObject_ne_full registry now object store))
  | create registry actor now request =>
    exact Transition.void_eq_error_iff.trans Transition.create_eq_full_iff
  | createDerived registry actor now parent source destination =>
    rw [transition, Transition.void_eq_error_iff, Transition.createDerived_eq_full_iff,
      Transition.createFromParent_eq_full_iff]
    rfl
  | delete registry actor id =>
    exact iff_false_intro
      (Transition.void_ne_error (Transition.delete_ne_full registry actor id store))
  | deleteObject registry actor stub =>
    exact iff_false_intro
      (Transition.void_ne_error (Transition.deleteObject_ne_full registry actor stub store))

/-- The call is to make a job, and no number is left for it. -/
def LedgerCall.RunsOut (store : Store) : LedgerCall → Prop
  | create _ _ _ => Decimal.maxId ≤ store.lastJobId
  | _ => False

theorem LedgerCall.transition_eq_full_iff {call : LedgerCall} {store : Store} :
    call.transition store = .error (.storage .full) ↔ call.RunsOut store := by
  cases call with
  | create actor now job =>
    rw [transition, Transition.void_eq_error_iff, Transition.createJob,
      mapError_eq_full_iff fun _ => Ledger.explainJob_eq_full_iff]
    exact Store.insertJob_eq_full_iff
  | updateStatus actor now id target =>
    exact iff_false_intro
      (Transition.void_ne_error (Transition.updateStatus_ne_full actor now id target store))
  | setResults actor id document =>
    exact iff_false_intro
      (Transition.void_ne_error (Transition.setResults_ne_full actor id document store))
  | deletePreviousImports actor =>
    exact iff_false_intro
      (Transition.void_ne_error (Transition.deletePreviousImports_ne_full actor store))

namespace StoreCall

/-- The call is to store a row, all its checks pass, and no number is left for the row. -/
def RunsOut (store : Store) : StoreCall → Prop
  | graph call => call.RunsOut store
  | ledger call => call.RunsOut store

theorem transition_eq_full_iff {call : StoreCall} {store : Store} :
    call.transition store = .error (.storage .full) ↔ call.RunsOut store := by
  cases call with
  | graph call => exact call.transition_eq_full_iff
  | ledger call => exact call.transition_eq_full_iff

/-- A transaction is open, and the call runs out of numbers in it. -/
def EndsTransaction (call : StoreCall) (connection : Connection) : Prop :=
  connection.frames ≠ [] ∧ call.RunsOut connection.store

/-- A call that ends the transaction is refused, and goes back to before the transaction. -/
theorem EndsTransaction.perform_eq {call : StoreCall} {connection : Connection}
    (hends : call.EndsTransaction connection) :
    (call.perform connection).result = .error (.storage .full) ∧
      (call.perform connection).connection = connection.abort :=
  call.realizes_perform.of_full (transition_eq_full_iff.2 hends.2)

/-- A transaction is open, one of the calls ends it, and the calls after that one start from before
the transaction. -/
def UndoTransaction (calls : List StoreCall) (connection : Connection) : Prop :=
  connection.frames ≠ [] ∧ ∃ before call rest, calls = before ++ call :: rest ∧
    call.EndsTransaction (run before connection) ∧
    run calls connection = run rest connection.abort

/-- As long as a transaction is open, what it began with is the same. -/
theorem abort_of_finds_number {call : StoreCall} {connection : Connection}
    (hopen : connection.frames ≠ [])
    (hnumber : (call.perform connection).result ≠ .error (.storage .full)) :
    (call.perform connection).connection.frames = connection.frames ∧
      (call.perform connection).connection.abort = connection.abort := by
  rcases call.perform_cases (.inr hnumber) with hsame | ⟨after, _, hafter⟩
  · rw [hsame]
    exact ⟨rfl, rfl⟩
  · rw [hafter]
    obtain ⟨frame, hframe⟩ := Option.ne_none_iff_exists'.1 (mt List.getLast?_eq_none_iff.1 hopen)
    simp only [Connection.abort, Connection.committed, hframe, and_self]

/-- The first call that finds no number ends the transaction. -/
theorem undoTransaction_of_not_findNumbers {calls : List StoreCall} {connection : Connection}
    (hopen : connection.frames ≠ []) (hnone : ¬FindNumbers calls connection) :
    UndoTransaction calls connection := by
  refine ⟨hopen, ?_⟩
  induction calls generalizing connection with
  | nil => exact absurd trivial hnone
  | cons call rest ih =>
    by_cases hfull : (call.perform connection).result = .error (.storage .full)
    · have hends : call.EndsTransaction connection :=
        ⟨hopen, transition_eq_full_iff.1 (call.realizes_perform.result_eq_error_iff.1 hfull)⟩
      exact ⟨[], call, rest, rfl, hends, congrArg (run rest) hends.perform_eq.2⟩
    · obtain ⟨hframes, habort⟩ := abort_of_finds_number hopen hfull
      rw [← hframes] at hopen
      obtain ⟨before, ending, after, rfl, hends, hrun⟩ :=
        ih hopen fun hrest => hnone ⟨hfull, hrest⟩
      rw [habort] at hrun
      exact ⟨call :: before, ending, after, rfl, hends, hrun⟩

end StoreCall

/-! ## What is left of the transaction -/

namespace Connection

/-- What was changed in the transaction is there still, the transaction is open, and a commit makes
the changes permanent. -/
structure Keeps (before after : Connection) : Prop where
  changes : after.store = before.store
  opened : after.frames = before.frames
  commits : after.commit? = .ok { store := before.store }

/-- What was changed in the transaction is undone, the transaction is closed, and there is nothing
to commit. -/
structure Loses (before after : Connection) : Prop where
  changes : after.store = before.committed
  closed : after.frames = []
  commits : after.commit? = .error .nothingToCommit

variable {connection : Connection}

theorem keeps_refl (hopen : connection.frames ≠ []) : connection.Keeps connection := by
  refine ⟨rfl, rfl, ?_⟩
  obtain ⟨store, frames⟩ := connection
  cases frames with
  | nil => exact absurd rfl hopen
  | cons frame outer => rfl

theorem loses_abort (connection : Connection) : connection.Loses connection.abort :=
  ⟨rfl, rfl, rfl⟩

theorem Loses.not_keeps {after : Connection} (hopen : connection.frames ≠ [])
    (hloses : connection.Loses after) : ¬connection.Keeps after := by
  intro hkeeps
  rw [← hkeeps.opened, hloses.closed] at hopen
  exact hopen rfl

end Connection

namespace GraphCall

/-- When a call in an open transaction is refused, the caller keeps its transaction unless the call
has run out of numbers, and loses it if it has. -/
theorem transaction_kept_or_lost (call : GraphCall) (connection : Connection)
    (hopen : connection.frames ≠ []) {error : GraphError}
    (hrefused : (call.perform connection).result = .error error) :
    (connection.Keeps (call.perform connection).connection ↔ ¬call.RunsOut connection.store) ∧
      (connection.Loses (call.perform connection).connection ↔ call.RunsOut connection.store) ∧
      (error = .storage .full ↔ call.RunsOut connection.store) := by
  obtain ⟨hresult, hconnection⟩ := call.realizes_perform connection
  rw [← transition_eq_full_iff]
  cases htransition : call.transition connection.store with
  | ok outcome =>
    rw [hresult, htransition] at hrefused
    cases hrefused
  | error found =>
    rw [hresult, htransition] at hrefused
    cases hrefused
    rw [hconnection, htransition, Connection.settle]
    by_cases hfull : error = .storage .full
    · have hloses := connection.loses_abort
      simp only [hfull, if_true, not_true_eq_false, iff_true, iff_false, and_true]
      exact ⟨hloses.not_keeps hopen, hloses⟩
    · have hkeeps := Connection.keeps_refl hopen
      have hnot : ¬connection.Loses connection := fun hloses => hloses.not_keeps hopen hkeeps
      simp only [hfull, if_false, Except.error.injEq, not_false_eq_true, iff_true, iff_false,
        and_true]
      exact ⟨hkeeps, hnot⟩

/-- An edge with the greatest number, stored before the transaction. -/
def lastEdge : Relationship :=
  { id := Decimal.maxId, source := ⟨"Objective", 1⟩, destination := ⟨"Issue", 2⟩, parentId := none
    automappingId := none, external := false, modifiedBy := none, createdAt := 0
    updatedAt := 0 }

/-- A store with that edge. -/
def numbersGone : Store where
  objects := [Object.draft "Issue" 2 "i", Object.draft "Objective" 1 "o"]
  relationships := [lastEdge]
  lastRelationshipId := Decimal.maxId

/-- A transaction in which a control was stored. -/
def controlAdded : Connection where
  store := { numbersGone with objects := Object.draft "Control" 3 "c" :: numbersGone.objects }
  frames := [⟨none, numbersGone⟩]

/-- The control is mapped to the objective. -/
def controlMapped : GraphCall :=
  .create .builtin ⟨1, false⟩ 0
    { source := some (Object.draft "Control" 3 "c")
      destination := some (Object.draft "Objective" 1 "o") }

/-- No number is left for the edge, and with the transaction the control is gone. -/
theorem added_control_lost :
    controlAdded.frames ≠ [] ∧
      (controlMapped.perform controlAdded).result = .error (.storage .full) ∧
      controlAdded.Loses (controlMapped.perform controlAdded).connection ∧
      controlAdded.store.hasObject ⟨"Control", 3⟩ = true ∧
      (controlMapped.perform controlAdded).connection.store.hasObject ⟨"Control", 3⟩ = false := by
  have hopen : controlAdded.frames ≠ [] := List.cons_ne_nil _ _
  have hrefused : (controlMapped.perform controlAdded).result = .error (.storage .full) := by rfl
  obtain ⟨_, hloses, hfull⟩ := transaction_kept_or_lost controlMapped controlAdded hopen hrefused
  have hlost := hloses.2 (hfull.1 rfl)
  refine ⟨hopen, hrefused, hlost, by decide, ?_⟩
  rw [hlost.changes]
  decide

end GraphCall

end RecordGraph
