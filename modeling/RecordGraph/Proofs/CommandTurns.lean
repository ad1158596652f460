import RecordGraph.Command.Perform
import RecordGraph.Proofs.EdgeChanges
import RecordGraph.Proofs.LedgerTransitions

/-!
# Turns of commands

A turn is a command on the store of a project, with its actor and its time.  Every command comes to
one of two things: at most one call on the graph, or a change of the jobs and nothing else.  What
runs of commands keep can thus be read off the calls on the graph.
-/

namespace RecordGraph

namespace Call

variable {α β : Type}

/-! ## Calls that end with a report -/

/-- What is only reported at the end of a call leaves the connection alone. -/
theorem connection_andThen_succeed {call : Call α} {next : α → Call β}
    (hnext : ∀ value, ∃ result, next value = succeed result) (connection : Connection) :
    (call.andThen next connection).connection = (call connection).connection := by
  simp only [andThen]
  cases (call connection).result with
  | error error => rfl
  | ok value =>
    obtain ⟨result, hresult⟩ := hnext value
    simp only [hresult]
    rfl

theorem connection_void (call : Call α) (connection : Connection) :
    (call.void connection).connection = (call connection).connection :=
  connection_andThen_succeed (fun _ => ⟨(), rfl⟩) connection

/-- A report on the value of a call leaves what the call without its value leaves. -/
theorem connection_reported (call : Call α) (report : α → β) (connection : Connection) :
    (call.andThen (fun value => succeed (report value)) connection).connection =
      (call.void connection).connection :=
  (connection_andThen_succeed (fun value => ⟨report value, rfl⟩) connection).trans
    (connection_void call connection).symm

theorem connection_check_andThen {question : Store → Except GraphError α} {next : α → Call β}
    {connection : Connection} (value : α) (hanswer : question connection.store = .ok value) :
    ((check question).andThen next connection).connection =
      (next value connection).connection := by
  simp only [andThen, check, hanswer]

/-! ## Calls on the jobs alone -/

/-- Where nothing is open, the call changes nothing but the jobs and their last number. -/
def JobsOnly (call : Call α) : Prop :=
  ∀ store : Store, ∃ jobs last,
    (call { store }).connection = { store := { store with jobs, lastJobId := last } }

theorem jobsOnly_succeed (value : α) : (succeed value).JobsOnly :=
  fun store => ⟨store.jobs, store.lastJobId, rfl⟩

theorem jobsOnly_ask (question : Store → α) : (ask question).JobsOnly :=
  fun store => ⟨store.jobs, store.lastJobId, rfl⟩

theorem jobsOnly_check (question : Store → Except GraphError α) : (check question).JobsOnly :=
  fun store => ⟨store.jobs, store.lastJobId, rfl⟩

theorem JobsOnly.andThen {call : Call α} {next : α → Call β} (hcall : call.JobsOnly)
    (hnext : ∀ value, (next value).JobsOnly) : (call.andThen next).JobsOnly := by
  intro store
  obtain ⟨jobs, last, hconnection⟩ := hcall store
  simp only [Call.andThen, hconnection]
  cases (call { store }).result with
  | error error => exact ⟨jobs, last, rfl⟩
  | ok value => exact hnext value { store with jobs, lastJobId := last }

/-- To answer a question is to change nothing. -/
theorem jobsOnly_answer (question : Store → α) (report : α → β) :
    ((ask question).andThen fun answer => succeed (report answer)).JobsOnly :=
  (jobsOnly_ask question).andThen fun answer => jobsOnly_succeed (report answer)

theorem jobsOnly_checkedAnswer (question : Store → Except GraphError α) (report : α → β) :
    ((check question).andThen fun answer => succeed (report answer)).JobsOnly :=
  (jobsOnly_check question).andThen fun answer => jobsOnly_succeed (report answer)

theorem JobsOnly.of_void {call : Call α} (hvoid : call.void.JobsOnly) : call.JobsOnly := by
  intro store
  rw [← connection_void]
  exact hvoid store

end Call

theorem LedgerCall.jobsOnly_perform (call : LedgerCall) : call.perform.JobsOnly := by
  intro store
  have hclosed : ({ store } : Connection).frames = [] := rfl
  rcases call.realizes_perform.of_closed hclosed with
    ⟨_, _, hsame⟩ | ⟨_, after, hchanged, _, hafter⟩
  · exact ⟨store.jobs, store.lastJobId, hsame⟩
  · obtain ⟨jobs, last, rfl⟩ := LedgerCall.eq_withJobs_of_transition hchanged
    exact ⟨jobs, last, hafter⟩

namespace Session

open Call

variable (session : Session)

theorem jobsOnly_showObject (stub : Stub) : (session.showObject stub).JobsOnly :=
  (jobsOnly_check _).andThen fun _ => jobsOnly_answer _ _

theorem jobsOnly_neighbors (stubs : List Stub) (types : List String) :
    (session.neighbors stubs types).JobsOnly := by
  refine (jobsOnly_ask _).andThen fun rows => ?_
  cases session.mode with
  | json => exact jobsOnly_succeed _
  | text => exact jobsOnly_succeed _
  | pretty => exact jobsOnly_succeed _

theorem jobsOnly_showJobItem (job : Job) : (session.showJobItem job).JobsOnly :=
  jobsOnly_checkedAnswer _ _

theorem jobsOnly_deletePreviousImports : (Ledger.deletePreviousImports session.actor).JobsOnly :=
  .of_void (LedgerCall.deletePreviousImports session.actor).jobsOnly_perform

theorem jobsOnly_createJob (kind : JobKind) (title description : Option String)
    (replacing : Bool) : (session.createJob kind title description replacing).JobsOnly := by
  have hcreated : ((Ledger.create session.actor session.now { kind, title, description }).andThen
      session.showJobItem).JobsOnly :=
    (JobsOnly.of_void (LedgerCall.create session.actor session.now
      { kind, title, description }).jobsOnly_perform).andThen session.jobsOnly_showJobItem
  rw [createJob]
  split
  · exact session.jobsOnly_deletePreviousImports.andThen fun _ => hcreated
  · exact hcreated

theorem jobsOnly_showJob (id : Int) : (session.showJob id).JobsOnly :=
  (jobsOnly_check _).andThen session.jobsOnly_showJobItem

theorem jobsOnly_clearJobs : session.clearJobs.JobsOnly :=
  session.jobsOnly_deletePreviousImports.andThen fun _ => jobsOnly_succeed _

theorem jobsOnly_moveJob (id : Int) (status : JobStatus) :
    (session.moveJob id status).JobsOnly :=
  (JobsOnly.of_void (LedgerCall.updateStatus session.actor session.now id
    status).jobsOnly_perform).andThen session.jobsOnly_showJobItem

theorem jobsOnly_setResults (id : Int) (document : Json) :
    (session.setResults id document).JobsOnly :=
  (JobsOnly.of_void (LedgerCall.setResults session.actor id
    document).jobsOnly_perform).andThen session.jobsOnly_showJobItem

/-! ## Derivations -/

/-- Once the parent is found, the derivation is followed by a report only, of an edge or of none. -/
theorem connection_mapDerived {parent : Int} {parentEdge : Relationship}
    (connection : Connection) (hparent : connection.store.relationship? parent = some parentEdge)
    (source destination : Stub) (sourceObject destinationObject : Object) :
    (session.mapDerived parent source destination sourceObject destinationObject
        connection).connection =
      (Graph.createDerived session.registry session.actor session.now parentEdge sourceObject
        destinationObject connection).connection := by
  refine (connection_check_andThen parentEdge ?_).trans ?_
  · rw [hparent]
  · refine connection_andThen_succeed ?_ connection
    intro created
    cases created with
    | some edge => exact ⟨_, rfl⟩
    | none => exact ⟨_, rfl⟩

theorem connection_mapDerived_absent {parent : Int} (connection : Connection)
    (habsent : connection.store.relationship? parent = none)
    (source destination : Stub) (sourceObject destinationObject : Object) :
    (session.mapDerived parent source destination sourceObject destinationObject
      connection).connection = connection := by
  simp only [mapDerived, bind, andThen, check, habsent]

end Session

/-! ## What a command comes to -/

/-- The record that a mapping takes for a reference. -/
def Store.endpoint (store : Store) (stub : Stub) : Object :=
  (store.object? stub).getD (Object.draft stub.type stub.id "")

@[simp]
theorem Store.endpoint_stub (store : Store) (stub : Stub) : (store.endpoint stub).stub = stub := by
  rw [endpoint]
  cases hfound : store.object? stub with
  | none => rfl
  | some object => simpa using List.find?_some hfound

namespace StoreCommand

/-- The call on the graph that a command makes of a store.  Commands that read or work on jobs make
none, and neither does a derivation from an edge that is not stored. -/
def graphCall? (session : Session) (store : Store) : StoreCommand → Option GraphCall
  | addObject type id title origin =>
    let title := title.getD (type ++ " " ++ Decimal.text id)
    some (.insertObject session.registry session.now { Object.draft type id title with origin })
  | removeObject stub => some (.deleteObject session.registry session.actor stub)
  | map source destination external none =>
    some (.create session.registry session.actor session.now
      { source := some (store.endpoint source), destination := some (store.endpoint destination)
        external := external || session.actor.external })
  | map source destination _ (some parent) =>
    (store.relationship? parent).map fun parentEdge =>
      .createDerived session.registry session.actor session.now parentEdge
        (store.endpoint source) (store.endpoint destination)
  | unmap id => some (.delete session.registry session.actor id)
  | _ => none

variable {session : Session} {store : Store} {command : StoreCommand} {call : Call String}

/-- Whatever a command reports, it leaves what its call on the graph leaves. -/
theorem connection_of_graphCall {graphCall : GraphCall}
    (hcall : command.call session = .ok call)
    (hgraph : command.graphCall? session store = some graphCall) :
    (call { store }).connection = (graphCall.perform { store }).connection := by
  cases command with
  | addObject type id title origin =>
    cases hcall
    cases hgraph
    exact Call.connection_reported _ _ _
  | removeObject stub =>
    cases hcall
    cases hgraph
    exact Call.connection_reported _ _ _
  | unmap id =>
    cases hcall
    cases hgraph
    exact Call.connection_reported _ _ _
  | map source destination external parent =>
    cases hcall
    cases parent with
    | none =>
      cases hgraph
      exact Call.connection_reported _ _ _
    | some parent =>
      obtain ⟨parentEdge, hparent, rfl⟩ := Option.map_eq_some_iff.1 hgraph
      have hderived := session.connection_mapDerived { store } hparent source destination
        (store.endpoint source) (store.endpoint destination)
      exact hderived.trans (Call.connection_void _ _).symm
  | _ => cases hgraph

/-- A command without a call on the graph changes the jobs at most. -/
theorem connection_of_no_graphCall (hcall : command.call session = .ok call)
    (hnone : command.graphCall? session store = none) :
    ∃ jobs last,
      (call { store }).connection = { store := { store with jobs, lastJobId := last } } := by
  cases command with
  | map source destination external parent =>
    cases parent with
    | none => cases hnone
    | some parent =>
      cases hcall
      have habsent : store.relationship? parent = none := Option.map_eq_none_iff.1 hnone
      exact ⟨store.jobs, store.lastJobId, session.connection_mapDerived_absent
        { store } habsent source destination _ _⟩
  | setResults id text =>
    rw [StoreCommand.call] at hcall
    split at hcall
    · cases hcall
      exact session.jobsOnly_setResults id _ store
    · cases hcall
  | showObject stub =>
    cases hcall
    exact session.jobsOnly_showObject stub store
  | listObjects type =>
    cases hcall
    exact Call.jobsOnly_answer _ _ store
  | edges query =>
    cases hcall
    exact Call.jobsOnly_answer _ _ store
  | related stub types =>
    cases hcall
    exact Call.jobsOnly_answer _ _ store
  | neighbors stubs types =>
    cases hcall
    exact session.jobsOnly_neighbors stubs types store
  | createJob kind title description replacing =>
    cases hcall
    exact session.jobsOnly_createJob kind title description replacing store
  | listJobs kind ids =>
    cases hcall
    exact Call.jobsOnly_checkedAnswer _ _ store
  | showJob id =>
    cases hcall
    exact session.jobsOnly_showJob id store
  | moveJob id status =>
    cases hcall
    exact session.jobsOnly_moveJob id status store
  | clearJobs =>
    cases hcall
    exact session.jobsOnly_clearJobs store
  | addObject type id title origin => cases hnone
  | removeObject stub => cases hnone
  | unmap id => cases hnone

end StoreCommand

/-! ## Turns -/

/-- A command on the store of a project, by whom and when, and how its result is shown. -/
structure Turn where
  actor : Actor
  mode : OutputMode
  now : Int
  command : StoreCommand

namespace Turn

variable (registry : TypeRegistry)

def session (turn : Turn) : Session where
  registry
  actor := turn.actor
  mode := turn.mode
  now := turn.now

/-- The store that a turn leaves. -/
def apply (turn : Turn) (store : Store) : Store :=
  match turn.command.call (turn.session registry) with
  | .ok call => (call { store }).connection.committed
  | .error _ => store

/-- The store after some turns under one registry. -/
def run (turns : List Turn) (store : Store) : Store :=
  turns.foldl (fun store turn => turn.apply registry store) store

def graphCall? (turn : Turn) (store : Store) : Option GraphCall :=
  turn.command.graphCall? (turn.session registry) store

/-- A turn changes the jobs at most, or it makes a call on the graph that succeeds. -/
theorem apply_cases (turn : Turn) (store : Store) :
    (∃ jobs last, turn.apply registry store = { store with jobs, lastJobId := last }) ∨
      ∃ call, turn.graphCall? registry store = some call ∧
        call.transition store = .ok ((), turn.apply registry store) := by
  rw [apply]
  cases hcall : turn.command.call (turn.session registry) with
  | error error => exact .inl ⟨store.jobs, store.lastJobId, rfl⟩
  | ok call =>
    simp only
    cases hgraph : turn.graphCall? registry store with
    | none =>
      obtain ⟨jobs, last, hconnection⟩ := StoreCommand.connection_of_no_graphCall hcall hgraph
      rw [hconnection]
      exact .inl ⟨jobs, last, rfl⟩
    | some graphCall =>
      rw [StoreCommand.connection_of_graphCall hcall hgraph]
      have hclosed : ({ store } : Connection).frames = [] := rfl
      rcases graphCall.realizes_perform.of_closed hclosed with
        ⟨_, _, hsame⟩ | ⟨_, after, hchanged, _, hafter⟩
      · rw [hsame]
        exact .inl ⟨store.jobs, store.lastJobId, rfl⟩
      · rw [hafter]
        exact .inr ⟨graphCall, rfl, hchanged⟩

theorem integrity_apply (turn : Turn) {store : Store} (hintegrity : store.Integrity) :
    (turn.apply registry store).Integrity := by
  rcases turn.apply_cases registry store with ⟨jobs, last, hjobs⟩ | ⟨call, _, hcall⟩
  · rw [hjobs]
    exact hintegrity.withJobs jobs last
  · exact Store.Integrity.stable.transition call store _ hintegrity hcall

end Turn

end RecordGraph
