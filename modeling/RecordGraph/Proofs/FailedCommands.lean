import RecordGraph.Proofs.CommandLines
import RecordGraph.Proofs.CommandTurns
import RecordGraph.Proofs.FailureAtomicity
import RecordGraph.Proofs.StoredResults

/-!
# A command that fails changes nothing

Most commands make one call on the store and then report on it, and a call that is refused undoes
itself.  Three kinds of commands do more.  A command that reads never writes at all.  A command that
moves a job or sets its results reads the results back for its report, and this cannot fail because
all results that command lines store can be read.  A command that makes a job may clear waiting
imports before, and making the job fails only when no number is left.
-/

namespace RecordGraph

/-! ## Calls -/

namespace Call

variable {α β : Type}

/-- The call leaves every connection as it is. -/
def Still (call : Call α) : Prop := ∀ connection, (call connection).connection = connection

/-- The call succeeds whatever the connection is, and leaves it as it is. -/
def Reports (call : Call α) : Prop :=
  ∀ connection, ∃ value, (call connection).result = .ok value ∧
    (call connection).connection = connection

/-- Where nothing is open the call keeps a property of the store, and opens nothing. -/
def Keeps (property : Store → Prop) (call : Call α) : Prop :=
  ∀ store, property store →
    ∃ after, (call { store }).connection = { store := after } ∧ property after

/-- If the call fails on a store, it leaves the store as it was. -/
def UndoneOn (call : Call α) (store : Store) : Prop :=
  ∀ error, (call { store }).result = .error error → (call { store }).connection = { store }

theorem still_succeed (value : α) : (succeed value).Still := fun _ => rfl

theorem still_ask (question : Store → α) : (ask question).Still := fun _ => rfl

theorem still_check (question : Store → Except GraphError α) : (check question).Still :=
  fun _ => rfl

theorem reports_succeed (value : α) : (succeed value).Reports := fun _ => ⟨value, rfl, rfl⟩

theorem Still.andThen {call : Call α} {next : α → Call β} (hcall : call.Still)
    (hnext : ∀ value, (next value).Still) : (call.andThen next).Still := by
  intro connection
  have hfirst := hcall connection
  simp only [Call.andThen]
  cases (call connection).result with
  | error error => exact hfirst
  | ok value => exact (hnext value _).trans hfirst

theorem Still.keeps {call : Call α} (hcall : call.Still) (property : Store → Prop) :
    call.Keeps property := fun store hstore => ⟨store, hcall { store }, hstore⟩

theorem Still.undoneOn {call : Call α} (hcall : call.Still) (store : Store) :
    call.UndoneOn store := fun _ _ => hcall { store }

/-! ### What is kept -/

theorem Keeps.andThen {property : Store → Prop} {call : Call α} {next : α → Call β}
    (hcall : call.Keeps property) (hnext : ∀ value, (next value).Keeps property) :
    (call.andThen next).Keeps property := by
  intro store hstore
  obtain ⟨middle, hmiddle, hproperty⟩ := hcall store hstore
  simp only [Call.andThen]
  cases (call { store }).result with
  | error error => exact ⟨middle, hmiddle, hproperty⟩
  | ok value =>
    simp only [hmiddle]
    exact hnext value middle hproperty

theorem Realizes.keeps_of_closed {property : Store → Prop} {call : Call α}
    {transition : Transition α} (hrealizes : call.Realizes transition)
    (hstep : ∀ store value after, property store → transition store = .ok (value, after) →
      property after) : call.Keeps property := by
  intro store hstore
  have hclosed : ({ store } : Connection).frames = [] := rfl
  rcases hrealizes.of_closed hclosed with ⟨_, _, hsame⟩ | ⟨value, after, hchanged, _, hafter⟩
  · exact ⟨store, hsame, hstore⟩
  · exact ⟨after, hafter, hstep store value after hstore hchanged⟩

/-! ### What is undone -/

theorem Realizes.undoneOn {call : Call α} {transition : Transition α}
    (hrealizes : call.Realizes transition) (store : Store) : call.UndoneOn store := by
  intro error herror
  have hclosed : ({ store } : Connection).frames = [] := rfl
  rcases hrealizes.of_closed hclosed with ⟨_, _, hsame⟩ | ⟨value, _, _, hresult, _⟩
  · exact hsame
  · rw [hresult] at herror
    cases herror

theorem andThen_ok {call : Call α} {next : α → Call β} {connection : Connection} {value : α}
    (hcall : (call connection).result = .ok value)
    (hnext : ∃ result, (next value (call connection).connection).result = .ok result) :
    ∃ result, (call.andThen next connection).result = .ok result := by
  obtain ⟨result, hresult⟩ := hnext
  refine ⟨result, ?_⟩
  simp only [Call.andThen, hcall, hresult]

/-- What follows a call does no harm if it cannot fail after the call has succeeded. -/
theorem UndoneOn.andThen {call : Call α} {next : α → Call β} {store : Store}
    (hcall : call.UndoneOn store)
    (hnext : ∀ value, (call { store }).result = .ok value →
      ∃ result, (next value (call { store }).connection).result = .ok result) :
    (call.andThen next).UndoneOn store := by
  intro error herror
  simp only [Call.andThen] at herror ⊢
  cases hfirst : (call { store }).result with
  | error first => exact hcall first hfirst
  | ok value =>
    obtain ⟨result, hresult⟩ := hnext value hfirst
    rw [hfirst] at herror
    simp only [hresult] at herror
    cases herror

theorem UndoneOn.andThen_reports {call : Call α} {next : α → Call β} {store : Store}
    (hcall : call.UndoneOn store) (hnext : ∀ value, (next value).Reports) :
    (call.andThen next).UndoneOn store := by
  refine hcall.andThen fun value _ => ?_
  obtain ⟨result, hresult, _⟩ := hnext value (call { store }).connection
  exact ⟨result, hresult⟩

/-- After a question comes a call on the same store. -/
theorem Still.andThen_undoneOn {call : Call α} {next : α → Call β} {store : Store}
    (hcall : call.Still) (hnext : ∀ value, (next value).UndoneOn store) :
    (call.andThen next).UndoneOn store := by
  intro error herror
  have hfirst := hcall { store }
  simp only [Call.andThen] at herror ⊢
  cases hresult : (call { store }).result with
  | error first => exact hfirst
  | ok value =>
    rw [hresult] at herror
    simp only [hfirst] at herror ⊢
    exact hnext value error herror

end Call

/-! ## Logs -/

namespace Job

/-- The log depends on the results alone for whether it is there. -/
theorem log_ok_of_results {job other : Job} (hresults : job.results = other.results)
    (hother : ∃ log, other.log = .ok log) : ∃ log, job.log = .ok log := by
  rw [log_ok_iff] at hother ⊢
  rw [readResults, hresults]
  exact hother

theorem log_ok_of_no_results {job : Job} (hresults : job.results = none) :
    ∃ log, job.log = .ok log := by
  have hnone : job.results = (none : Option Json).map Json.compact := hresults
  exact (log_ok_iff_of_results hnone).2 fun document hdocument => by cases hdocument

/-- Results that were read from a text before they were set have a log. -/
theorem log_ok_of_parsed {job : Job} {text : String} {document : Json}
    (hparsed : Json.parse? text = some document) (hresults : job.results = some document.compact) :
    ∃ log, job.log = .ok log := by
  have hheld : job.results = (some document).map Json.compact := hresults
  refine (log_ok_iff_of_results hheld).2 ?_
  rintro _ ⟨rfl⟩
  exact Json.parse?_compact_of_parse? hparsed

end Job

/-- Every stored job has a log. -/
def Store.HasLogs (store : Store) : Prop := ∀ job ∈ store.jobs, ∃ log, job.log = .ok log

namespace Store.HasLogs

variable {store after : Store}

theorem stable : Stable HasLogs where
  record hlogs _ hrow := by
    obtain ⟨_, _, rfl⟩ := insertObject_eq_ok_iff.1 hrow
    exact hlogs
  run hlogs hrow := by
    obtain ⟨_, _, _, _, rfl⟩ := insertAutomapping_eq_ok_iff.1 hrow
    exact hlogs
  edge hlogs _ hrow := by
    obtain ⟨_, _, _, _, _, _, _, rfl⟩ := insertRelationship_eq_ok_iff.1 hrow
    exact hlogs
  edgesGone _ _ hlogs := hlogs
  recordGone _ _ hlogs _ := hlogs

/-- A call on the graph keeps the logs. -/
theorem keeps_of_graphCall {α : Type} {call : Call α} {transition : Transition α}
    (hrealizes : call.Realizes transition) {graphCall : GraphCall}
    (hvoid : graphCall.transition = transition.void) : call.Keeps HasLogs := by
  refine hrealizes.keeps_of_closed fun store value after hlogs hchanged => ?_
  refine stable.transition graphCall store after hlogs ?_
  rw [hvoid]
  exact Transition.void_eq_ok_iff.2 ⟨value, hchanged⟩

theorem insertJob {row stored : Job} (hlogs : store.HasLogs) (hrow : row.results = none)
    (hstored : store.insertJob row = .ok (stored, after)) : after.HasLogs := by
  obtain ⟨id, _, rfl, rfl⟩ := insertJob_eq_ok_iff.1 hstored
  intro job hjob
  rcases Ordered.mem_of_mem_insert hjob with rfl | hold
  · exact Job.log_ok_of_no_results hrow
  · exact hlogs job hold

theorem updateJob {job : Job} (hlogs : store.HasLogs) (hjob : ∃ log, job.log = .ok log) :
    (store.updateJob job).HasLogs := by
  intro other hother
  rcases mem_updateJob_iff.1 hother with ⟨hold, _⟩ | ⟨rfl, _⟩
  · exact hlogs other hold
  · exact hjob

theorem get {actor : Actor} {id : Int} {job : Job} (hlogs : store.HasLogs)
    (hget : Ledger.get actor id store = .ok job) : ∃ log, job.log = .ok log :=
  hlogs job (Store.job?_eq_some (Ledger.get_eq_ok_iff.1 hget).1).1

theorem updateStatus {actor : Actor} {now id : Int} {target : JobStatus} {moved : Job}
    (hlogs : store.HasLogs)
    (hmoved : Transition.updateStatus actor now id target store = .ok (moved, after)) :
    (∃ log, moved.log = .ok log) ∧ after.HasLogs := by
  obtain ⟨job, hget, _, rfl, rfl⟩ := Transition.updateStatus_eq_ok_iff.1 hmoved
  have hresults : (Ledger.moved now target job).results = job.results := rfl
  have hlog := Job.log_ok_of_results hresults (hlogs.get hget)
  exact ⟨hlog, hlogs.updateJob hlog⟩

theorem setResults {actor : Actor} {id : Int} {text : String} {document : Json} {changed : Job}
    (hlogs : store.HasLogs) (hparsed : Json.parse? text = some document)
    (hchanged : Transition.setResults actor id document store = .ok (changed, after)) :
    (∃ log, changed.log = .ok log) ∧ after.HasLogs := by
  obtain ⟨job, _, rfl, rfl⟩ := Transition.setResults_eq_ok_iff.1 hchanged
  have hlog : ∃ log, ({ job with results := some document.compact } : Job).log = .ok log :=
    Job.log_ok_of_parsed hparsed rfl
  exact ⟨hlog, hlogs.updateJob hlog⟩

theorem deletePreviousImports {actor : Actor} {count : Nat} (hlogs : store.HasLogs)
    (hcleared : Transition.deletePreviousImports actor store = .ok (count, after)) :
    after.HasLogs := by
  obtain ⟨_, _, rfl⟩ := Transition.deletePreviousImports_eq_ok_iff.1 hcleared
  intro job hjob
  exact hlogs job (List.mem_filter.1 hjob).1

end Store.HasLogs

/-! ## Commands -/

namespace Session

open Call

variable (session : Session)

theorem still_neighbors (stubs : List Stub) (types : List String) :
    (session.neighbors stubs types).Still := by
  refine (still_ask _).andThen fun rows => ?_
  cases session.mode with
  | json => exact still_succeed _
  | text => exact still_succeed _
  | pretty => exact still_succeed _

theorem still_showJobItem (job : Job) : (session.showJobItem job).Still :=
  (still_check _).andThen fun _ => still_succeed _

theorem showJobItem_ok {job : Job} (hlog : ∃ log, job.log = .ok log) (connection : Connection) :
    ∃ output, (session.showJobItem job connection).result = .ok output := by
  obtain ⟨log, hlog⟩ := hlog
  refine ⟨showItem session.mode log, ?_⟩
  simp only [showJobItem, bind, Call.andThen, check, hlog]
  rfl

/-! ### Logs are kept -/

theorem keeps_addObject (type : String) (id : Int) (title : Option String) (origin : Option Stub) :
    (session.addObject type id title origin).Keeps Store.HasLogs := by
  refine Keeps.andThen ?_ fun _ => (still_succeed _).keeps _
  exact Store.HasLogs.keeps_of_graphCall (Graph.realizes_insertObject _ _ _)
    (rfl : (GraphCall.insertObject _ _ _).transition = _)

theorem keeps_removeObject (stub : Stub) :
    (session.removeObject stub).Keeps Store.HasLogs := by
  refine Keeps.andThen ?_ fun _ => (still_succeed _).keeps _
  exact Store.HasLogs.keeps_of_graphCall (Graph.realizes_deleteObject _ _ _)
    (rfl : (GraphCall.deleteObject _ _ _).transition = _)

theorem keeps_unmap (id : Int) : (session.unmap id).Keeps Store.HasLogs := by
  refine Keeps.andThen ?_ fun _ => (still_succeed _).keeps _
  exact Store.HasLogs.keeps_of_graphCall (Graph.realizes_delete _ _ _)
    (rfl : (GraphCall.delete _ _ _).transition = _)

theorem keeps_mapDerived (parent : Int) (source destination : Stub)
    (sourceObject destinationObject : Object) :
    (session.mapDerived parent source destination sourceObject destinationObject).Keeps
      Store.HasLogs := by
  refine ((still_check _).keeps _).andThen fun parentEdge => Keeps.andThen ?_ fun created => ?_
  · exact Store.HasLogs.keeps_of_graphCall (Graph.realizes_createDerived _ _ _ _ _ _)
      (rfl : (GraphCall.createDerived _ _ _ _ _ _).transition = _)
  · cases created with
    | some edge => exact (still_succeed _).keeps _
    | none => exact (still_succeed _).keeps _

theorem keeps_map (source destination : Stub) (external : Bool) (parent : Option Int) :
    (session.map source destination external parent).Keeps Store.HasLogs := by
  refine ((still_ask _).keeps _).andThen fun sourceObject =>
    ((still_ask _).keeps _).andThen fun destinationObject => ?_
  cases parent with
  | some parent => exact session.keeps_mapDerived parent source destination _ _
  | none =>
    refine Keeps.andThen ?_ fun _ => (still_succeed _).keeps _
    exact Store.HasLogs.keeps_of_graphCall (Graph.realizes_create _ _ _ _)
      (rfl : (GraphCall.create _ _ _ _).transition = _)

theorem keeps_deletePreviousImports :
    (Ledger.deletePreviousImports session.actor).Keeps Store.HasLogs :=
  (Ledger.realizes_deletePreviousImports _).keeps_of_closed fun _ _ _ hlogs hcleared =>
    hlogs.deletePreviousImports hcleared

theorem keeps_createJob (kind : JobKind) (title description : Option String) (replacing : Bool) :
    (session.createJob kind title description replacing).Keeps Store.HasLogs := by
  have hcreated : ((Ledger.create session.actor session.now { kind, title, description }).andThen
      session.showJobItem).Keeps Store.HasLogs := by
    refine ((Ledger.realizes_create _ _ _).keeps_of_closed ?_).andThen fun job =>
      (session.still_showJobItem job).keeps _
    intro store job after hlogs hcreated
    exact hlogs.insertJob rfl (Transition.createJob_eq_ok_iff.1 hcreated)
  rw [createJob]
  split
  · exact session.keeps_deletePreviousImports.andThen fun _ => hcreated
  · exact hcreated

theorem keeps_moveJob (id : Int) (status : JobStatus) :
    (session.moveJob id status).Keeps Store.HasLogs := by
  refine ((Ledger.realizes_updateStatus _ _ _ _).keeps_of_closed ?_).andThen fun job =>
    (session.still_showJobItem job).keeps _
  intro store job after hlogs hmoved
  exact (hlogs.updateStatus hmoved).2

theorem keeps_setResults {text : String} {document : Json}
    (hparsed : Json.parse? text = some document) (id : Int) :
    (session.setResults id document).Keeps Store.HasLogs := by
  refine ((Ledger.realizes_setResults _ _ _).keeps_of_closed ?_).andThen fun job =>
    (session.still_showJobItem job).keeps _
  intro store job after hlogs hchanged
  exact (hlogs.setResults hparsed hchanged).2

theorem keeps_clearJobs : session.clearJobs.Keeps Store.HasLogs :=
  session.keeps_deletePreviousImports.andThen fun _ => (still_succeed _).keeps _

/-! ### Failures are undone -/

variable {store : Store}

theorem undoneOn_mapDerived (parent : Int) (source destination : Stub)
    (sourceObject destinationObject : Object) :
    (session.mapDerived parent source destination sourceObject destinationObject).UndoneOn
      store := by
  refine (still_check _).andThen_undoneOn fun parentEdge =>
    ((Graph.realizes_createDerived _ _ _ _ _ _).undoneOn store).andThen_reports fun created => ?_
  cases created with
  | some edge => exact reports_succeed _
  | none => exact reports_succeed _

theorem undoneOn_map (source destination : Stub) (external : Bool) (parent : Option Int) :
    (session.map source destination external parent).UndoneOn store := by
  refine (still_ask _).andThen_undoneOn fun sourceObject =>
    (still_ask _).andThen_undoneOn fun destinationObject => ?_
  cases parent with
  | some parent => exact session.undoneOn_mapDerived parent source destination _ _
  | none =>
    exact ((Graph.realizes_create _ _ _ _).undoneOn store).andThen_reports fun _ =>
      reports_succeed _

/-- A job that was just made can be shown, and one can be made while a number is left. -/
theorem createAndShow_ok (job : Ledger.NewJob) (hnone : job.results = none)
    (hnumbers : store.lastJobId < Decimal.maxId) :
    ∃ output, (((Ledger.create session.actor session.now job).andThen session.showJobItem)
      { store }).result = .ok output := by
  obtain ⟨id, hid⟩ : ∃ id, freshId? store.lastJobId = some id :=
    ⟨_, Store.freshId?_eq_some_iff.2 ⟨hnumbers, rfl⟩⟩
  have hstored := Transition.createJob_eq_ok_iff.2 (Store.insertJob_eq_ok_iff.2
    ⟨id, hid, (rfl : { job.row session.actor session.now with id } = _), rfl⟩)
  have hresult := ((Ledger.realizes_create session.actor session.now job) { store }).1
  rw [hstored] at hresult
  refine andThen_ok hresult (session.showJobItem_ok (Job.log_ok_of_no_results ?_) _)
  simp [Ledger.NewJob.row, hnone]

theorem undoneOn_createJob (kind : JobKind) (title description : Option String)
    (replacing : Bool) (hnumbers : store.lastJobId < Decimal.maxId) :
    (session.createJob kind title description replacing).UndoneOn store := by
  have hcreated : ∀ {store : Store}, store.lastJobId < Decimal.maxId →
      ∃ output, (((Ledger.create session.actor session.now { kind, title, description }).andThen
        session.showJobItem) { store }).result = .ok output :=
    session.createAndShow_ok { kind, title, description } rfl
  rw [createJob]
  split
  · refine ((Ledger.realizes_deletePreviousImports _).undoneOn store).andThen ?_
    intro count hcleared
    obtain ⟨after, hstep, hconnection⟩ :=
      (Ledger.realizes_deletePreviousImports _).exists_of_ok hcleared
    rw [connection_void] at hconnection
    rw [hconnection]
    obtain ⟨_, _, rfl⟩ := Transition.deletePreviousImports_eq_ok_iff.1 hstep
    exact hcreated hnumbers
  · intro error herror
    obtain ⟨output, houtput⟩ := hcreated hnumbers
    exact absurd (herror.symm.trans houtput) (by simp)

theorem undoneOn_moveJob (hlogs : store.HasLogs) (id : Int) (status : JobStatus) :
    (session.moveJob id status).UndoneOn store := by
  refine ((Ledger.realizes_updateStatus _ _ _ _).undoneOn store).andThen fun job hresult => ?_
  obtain ⟨after, hmoved, _⟩ := (Ledger.realizes_updateStatus _ _ _ _).exists_of_ok hresult
  exact session.showJobItem_ok (hlogs.updateStatus hmoved).1 _

theorem undoneOn_setResults {text : String} {document : Json} (hlogs : store.HasLogs)
    (hparsed : Json.parse? text = some document) (id : Int) :
    (session.setResults id document).UndoneOn store := by
  refine ((Ledger.realizes_setResults _ _ _).undoneOn store).andThen fun job hresult => ?_
  obtain ⟨after, hchanged, _⟩ := (Ledger.realizes_setResults _ _ _).exists_of_ok hresult
  exact session.showJobItem_ok (hlogs.setResults hparsed hchanged).1 _

end Session

namespace StoreCommand

/-- The commands that only read. -/
def reads : StoreCommand → Bool
  | showObject _ | listObjects _ | edges _ | related _ _ | neighbors _ _ | listJobs _ _
  | showJob _ => true
  | _ => false

variable {session : Session} {command : StoreCommand} {call : Call String}

theorem still_of_reads (hreads : command.reads = true) (hcall : command.call session = .ok call) :
    call.Still := by
  cases command with
  | showObject stub =>
    cases hcall
    exact (Call.still_check _).andThen fun _ => (Call.still_ask _).andThen fun _ =>
      Call.still_succeed _
  | listObjects type =>
    cases hcall
    exact (Call.still_ask _).andThen fun _ => Call.still_succeed _
  | edges query =>
    cases hcall
    exact (Call.still_ask _).andThen fun _ => Call.still_succeed _
  | related stub types =>
    cases hcall
    exact (Call.still_ask _).andThen fun _ => Call.still_succeed _
  | neighbors stubs types =>
    cases hcall
    exact session.still_neighbors stubs types
  | listJobs kind ids =>
    cases hcall
    exact (Call.still_check _).andThen fun _ => Call.still_succeed _
  | showJob id =>
    cases hcall
    exact (Call.still_check _).andThen session.still_showJobItem
  | _ => cases hreads

theorem keeps_logs (hcall : command.call session = .ok call) : call.Keeps Store.HasLogs := by
  by_cases hreads : command.reads = true
  · exact (still_of_reads hreads hcall).keeps _
  · cases command with
    | addObject type id title origin =>
      cases hcall
      exact session.keeps_addObject type id title origin
    | removeObject stub =>
      cases hcall
      exact session.keeps_removeObject stub
    | map source destination external parent =>
      cases hcall
      exact session.keeps_map source destination external parent
    | unmap id =>
      cases hcall
      exact session.keeps_unmap id
    | createJob kind title description replacing =>
      cases hcall
      exact session.keeps_createJob kind title description replacing
    | moveJob id status =>
      cases hcall
      exact session.keeps_moveJob id status
    | setResults id text =>
      rw [StoreCommand.call] at hcall
      split at hcall
      · next document hparsed =>
        cases hcall
        exact session.keeps_setResults hparsed id
      · cases hcall
    | clearJobs =>
      cases hcall
      exact session.keeps_clearJobs
    | _ => exact absurd rfl hreads

/-- A command that fails on a store whose jobs have logs, with a number left for a job, leaves the
store as it was. -/
theorem undoneOn {store : Store} (hlogs : store.HasLogs)
    (hnumbers : store.lastJobId < Decimal.maxId) (hcall : command.call session = .ok call) :
    call.UndoneOn store := by
  by_cases hreads : command.reads = true
  · exact (still_of_reads hreads hcall).undoneOn store
  · cases command with
    | addObject type id title origin =>
      cases hcall
      exact ((Graph.realizes_insertObject _ _ _).undoneOn store).andThen_reports fun _ =>
        Call.reports_succeed _
    | removeObject stub =>
      cases hcall
      exact ((Graph.realizes_deleteObject _ _ _).undoneOn store).andThen_reports fun _ =>
        Call.reports_succeed _
    | map source destination external parent =>
      cases hcall
      exact session.undoneOn_map source destination external parent
    | unmap id =>
      cases hcall
      exact ((Graph.realizes_delete _ _ _).undoneOn store).andThen_reports fun _ =>
        Call.reports_succeed _
    | createJob kind title description replacing =>
      cases hcall
      exact session.undoneOn_createJob kind title description replacing hnumbers
    | moveJob id status =>
      cases hcall
      exact session.undoneOn_moveJob hlogs id status
    | setResults id text =>
      rw [StoreCommand.call] at hcall
      split at hcall
      · next document hparsed =>
        cases hcall
        exact session.undoneOn_setResults hlogs hparsed id
      · cases hcall
    | clearJobs =>
      cases hcall
      exact ((Ledger.realizes_deletePreviousImports _).undoneOn store).andThen_reports fun _ =>
        Call.reports_succeed _
    | _ => exact absurd rfl hreads

end StoreCommand

/-! ## Projects -/

/-- What happens in a project: a line is typed, or the configuration is written anew. -/
inductive ProjectStep where
  | line (typed : TypedLine)
  | configure (text : String)

namespace ProjectStep

def apply (workspace : Workspace) : ProjectStep → Workspace
  | line typed => (typed.perform workspace).2
  | configure text => workspace.write workspace.configPath text

def run (steps : List ProjectStep) (workspace : Workspace) : Workspace :=
  steps.foldl apply workspace

theorem apply_line (typed : TypedLine) (workspace : Workspace) :
    (line typed).apply workspace = (typed.perform workspace).2 := rfl

theorem apply_configure (text : String) (workspace : Workspace) :
    (configure text).apply workspace = workspace.write workspace.configPath text := rfl

theorem run_cons (step : ProjectStep) (steps : List ProjectStep) (workspace : Workspace) :
    run (step :: steps) workspace = run steps (step.apply workspace) := List.foldl_cons

end ProjectStep

namespace Workspace

/-- Every job that is stored anywhere has a log. -/
def HasLogs (workspace : Workspace) : Prop := ∀ place, (workspace.stored place).HasLogs

namespace HasLogs

variable {workspace : Workspace}

theorem of_stored {after : Workspace} (hlogs : workspace.HasLogs)
    (hstored : ∀ place, after.stored place = workspace.stored place) : after.HasLogs := by
  intro place
  rw [hstored place]
  exact hlogs place

theorem write (hlogs : workspace.HasLogs) (path text : String) :
    (workspace.write path text).HasLogs := by
  intro place
  rcases workspace.stored_write_cases path text place with hsame | hempty
  · rw [hsame]
    exact hlogs place
  · rw [hempty]
    exact fun job hjob => absurd hjob List.not_mem_nil

theorem writeMissing (hlogs : workspace.HasLogs) (path text : String) :
    (workspace.writeMissing path text).HasLogs := by
  rcases workspace.writeMissing_cases path text with ⟨_, hsame⟩ | ⟨_, hwritten⟩
  · rw [hsame]
    exact hlogs
  · rw [hwritten]
    exact hlogs.write path text

theorem prepare (hlogs : workspace.HasLogs) (force : Bool) : (workspace.prepare force).HasLogs := by
  rw [Workspace.prepare]
  refine HasLogs.writeMissing ?_ _ _
  split
  · exact hlogs.write _ _
  · exact hlogs.writeMissing _ _

theorem openStore (hlogs : workspace.HasLogs) (path : String) :
    (workspace.openStore path).2.HasLogs :=
  hlogs.of_stored (workspace.stored_openStore path)

theorem runInit (hlogs : workspace.HasLogs) (mode : OutputMode) (force : Bool) :
    (workspace.runInit mode force).2.HasLogs := by
  rcases workspace.runInit_cases mode force with ⟨_, hrun, _⟩ | ⟨_, _, _, hrun⟩
  · simp only [hrun]
    exact hlogs.prepare force
  · simp only [hrun]
    exact (hlogs.prepare force).openStore _

theorem runOnStore (hlogs : workspace.HasLogs) (config : ProjectConfig) (session : Session)
    (command : StoreCommand) :
    (workspace.runOnStore config (command.call session)).2.HasLogs := by
  rcases workspace.runOnStore_cases config (command.call session) with
    ⟨_, after, hrun, hafter⟩ | ⟨store, opened, call, hcall, hopened, hrun⟩
  · simp only [hrun]
    rcases hafter with hafter | hafter
    · rw [hafter]
      exact hlogs
    · rw [hafter]
      exact hlogs.openStore _
  · have hstore := hlogs (Path.place (config.storePath workspace.root))
    rw [stored_of_openStore hopened] at hstore
    obtain ⟨after, hafter, hkept⟩ := StoreCommand.keeps_logs hcall store hstore
    have hlater := hlogs.openStore (config.storePath workspace.root)
    rw [hopened] at hlater
    simp only [hrun]
    intro place
    rcases opened.stored_keepStore_cases (config.storePath workspace.root)
      (call { store }).connection.committed place with hsame | ⟨_, hput⟩
    · rw [runCall_files, hsame]
      exact hlater place
    · rw [runCall_files, hput, hafter]
      exact hkept

theorem perform (hlogs : workspace.HasLogs) (typed : TypedLine) :
    (typed.perform workspace).2.HasLogs := by
  rcases workspace.run_cases typed.environment typed.now typed.line with
    ⟨reply, _, hrun⟩ | ⟨invocation, config, mode, _, _, hrun⟩
  · simp only [TypedLine.perform, hrun]
    exact hlogs
  · simp only [TypedLine.perform, hrun]
    cases invocation.command with
    | init force =>
      rw [runCommand_init]
      exact hlogs.runInit _ force
    | check source destination =>
      rw [runCommand_check]
      exact hlogs
    | onStore command =>
      rw [runCommand_onStore]
      exact hlogs.runOnStore config _ command

/-- After anything that happens in a project. -/
theorem run (hlogs : workspace.HasLogs) (steps : List ProjectStep) :
    (ProjectStep.run steps workspace).HasLogs := by
  induction steps generalizing workspace with
  | nil => exact hlogs
  | cons step rest ih =>
    rw [ProjectStep.run_cons]
    refine ih ?_
    cases step with
    | line typed =>
      rw [ProjectStep.apply_line]
      exact hlogs.perform typed
    | configure text =>
      rw [ProjectStep.apply_configure]
      exact hlogs.write _ text

end HasLogs

end Workspace

/-- The commands that only read. -/
def Command.reads : Command → Bool
  | check _ _ => true
  | onStore command => command.reads
  | init _ => false

namespace Workspace

variable {workspace : Workspace} {typed : TypedLine}

/-- A call that leaves the store it was made on leaves all rows of the files. -/
theorem stored_runCall_of_same {opened : Workspace} {path : String} {store : Store}
    {call : Call String} (hopened : workspace.openStore path = (.ok store, opened))
    (hsame : (call { store }).connection = { store }) (place : Place) :
    (opened.runCall path store call).2.stored place = workspace.stored place := by
  have hold : opened.stored place = workspace.stored place := by
    have hstill := workspace.stored_openStore path place
    rw [hopened] at hstill
    exact hstill
  have hcommitted : (call { store }).connection.committed = store := by rw [hsame]; rfl
  rw [runCall_files, hcommitted]
  rcases opened.stored_keepStore_cases path store place with hother | ⟨hplace, hput⟩
  · exact hother.trans hold
  · rw [hput, hplace, stored_of_openStore hopened]

/-- A command on the store changes no rows if its call leaves the project's store as it is. -/
theorem stored_runOnStore_of_same {config : ProjectConfig}
    {called : Except CommandError (Call String)}
    (hconfig : workspace.projectConfiguration = .ok config)
    (hsame : ∀ call, called = .ok call → ∀ opened : Workspace,
      workspace.runOnStore config called =
        opened.runCall (config.storePath workspace.root) workspace.projectStore call →
      (call { store := workspace.projectStore }).connection = { store := workspace.projectStore })
    (place : Place) :
    (workspace.runOnStore config called).2.stored place = workspace.stored place := by
  rcases workspace.runOnStore_cases config called with
    ⟨_, after, hrun, hafter⟩ | ⟨store, opened, call, hcall, hopened, hrun⟩
  · simp only [hrun]
    rcases hafter with hafter | hafter
    · rw [hafter]
    · rw [hafter, stored_openStore]
  · have hstore : workspace.projectStore = store := by
      rw [projectStore_of_ok hconfig, stored_of_openStore hopened]
    rw [← hstore] at hopened hrun
    rw [hrun]
    exact stored_runCall_of_same hopened (hsame call hcall opened hrun) place

section

variable {config : ProjectConfig} {session : Session} {command : Command}

theorem stored_runCommand_of_reads (hconfig : workspace.projectConfiguration = .ok config)
    (hreads : command.reads = true) (place : Place) :
    (workspace.runCommand config session command).2.stored place = workspace.stored place := by
  cases command with
  | init force => cases hreads
  | check source destination => rw [runCommand_check]
  | onStore command =>
    rw [runCommand_onStore]
    exact stored_runOnStore_of_same hconfig
      (fun call hcall _ _ => StoreCommand.still_of_reads hreads hcall _) place

theorem stored_runCommand_of_error {error : CommandError}
    (hconfig : workspace.projectConfiguration = .ok config) (hlogs : workspace.HasLogs)
    (hnumbers : workspace.projectStore.lastJobId < Decimal.maxId)
    (hcommand : ∀ force, command ≠ .init force)
    (hfailed : (workspace.runCommand config session command).1 = .error error) (place : Place) :
    (workspace.runCommand config session command).2.stored place = workspace.stored place := by
  cases command with
  | init force => exact absurd rfl (hcommand force)
  | check source destination => rw [runCommand_check]
  | onStore command =>
    rw [runCommand_onStore] at hfailed ⊢
    refine stored_runOnStore_of_same hconfig (fun call hcall opened hrun => ?_) place
    rw [hrun] at hfailed
    obtain ⟨refusal, hrefusal⟩ := runCall_error hfailed
    have hstore : workspace.projectStore.HasLogs := by
      rw [projectStore_of_ok hconfig]
      exact hlogs _
    exact StoreCommand.undoneOn hstore hnumbers hcall refusal hrefusal

end

/-- Whatever has happened in a project since it held no rows, a command that reads leaves all rows
as they are, and so does every line that fails, unless it is to make the project. -/
theorem failed_line_changes_no_rows {start : Workspace} (hempty : ∀ place, start.stored place = {})
    (steps : List ProjectStep) (typed : TypedLine) :
    let before := ProjectStep.run steps start
    let reply := (typed.perform before).1
    let after := (typed.perform before).2
    ((∃ invocation, typed.invocation? = some invocation ∧ invocation.command.reads = true) →
        ∀ place, after.stored place = before.stored place) ∧
      (before.projectStore.lastJobId < Decimal.maxId →
        (∀ invocation force, typed.invocation? = some invocation →
          invocation.command ≠ .init force) →
        reply.exitCode ≠ 0 → ∀ place, after.stored place = before.stored place) := by
  intro before reply after
  have hlogs : before.HasLogs := by
    refine HasLogs.run (fun place => ?_) steps
    rw [hempty place]
    exact fun job hjob => absurd hjob List.not_mem_nil
  rcases before.run_cases typed.environment typed.now typed.line with
    ⟨_, _, hrun⟩ | ⟨invocation, config, mode, hline, hconfig, hrun⟩
  · have hsame : after = before := congrArg Prod.snd hrun
    rw [hsame]
    exact ⟨fun _ _ => rfl, fun _ _ _ _ => rfl⟩
  · have hreply : reply = .ofResult mode _ := congrArg Prod.fst hrun
    have hafter : after = (before.runCommand config _ invocation.command).2 :=
      congrArg Prod.snd hrun
    rw [hreply, hafter]
    refine ⟨?_, ?_⟩
    · rintro ⟨other, hother, hreads⟩
      obtain rfl : invocation = other := Option.some.inj (hline.symm.trans hother)
      exact stored_runCommand_of_reads hconfig hreads
    · intro hnumbers hcommand hfailed
      obtain ⟨error, hresult⟩ := Reply.ofResult_exitCode_ne_zero_iff.1 hfailed
      exact stored_runCommand_of_error hconfig hlogs hnumbers (hcommand invocation · hline) hresult

/-- A project in which a job was made. -/
def startedJob : List ProjectStep :=
  [.line { line := ["init"] }, .line { line := ["jobs", "create"] }]

theorem refused_move_changes_no_rows :
    let before := ProjectStep.run startedJob (ofConfigs "/p" "/u" (some "") none)
    let move : TypedLine := { line := ["jobs", "status", "1", "Finished"] }
    let listing : TypedLine := { line := ["jobs", "list"] }
    before.projectStore.lastJobId = 1 ∧ (move.perform before).1.exitCode = 1 ∧
      ∀ place, (move.perform before).2.stored place = before.stored place ∧
        (listing.perform before).2.stored place = before.stored place := by
  intro before move listing
  have hstart := stored_ofConfigs "/p" "/u" (some "") none
  have hnumber : before.projectStore.lastJobId = 1 := by decide +kernel
  have hrefused : (move.perform before).1.exitCode = 1 := by decide +kernel
  have hmove : move.invocation? =
      some { options := {}, external := false, command := .onStore (.moveJob 1 .finished) } := by
    decide +kernel
  have hlisting : listing.invocation? =
      some { options := {}, external := false, command := .onStore (.listJobs .importing []) } := by
    decide +kernel
  have hfailed := (failed_line_changes_no_rows hstart startedJob move).2
    (by rw [hnumber]; decide)
    (by intro invocation force hread; rw [hmove] at hread; cases hread; simp)
    (by rw [hrefused]; decide)
  have hread := (failed_line_changes_no_rows hstart startedJob listing).1 ⟨_, hlisting, rfl⟩
  exact ⟨hnumber, hrefused, fun place => ⟨hfailed place, hread place⟩⟩

end Workspace

end RecordGraph
