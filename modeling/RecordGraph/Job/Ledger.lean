import RecordGraph.Actor
import RecordGraph.Job.Log
import RecordGraph.Json.Write
import RecordGraph.Store.Connection

/-!
# Keeping jobs

Making, moving, listing and clearing jobs.  A job is seen and changed by its owner only.
-/

namespace RecordGraph.Ledger

/-- What is asked of a new job.  A job is an import that has not started, unless said otherwise. -/
structure NewJob where
  kind : JobKind := .importing
  status : JobStatus := .notStarted
  title : Option String := none
  description : Option String := none
  content : Option String := none
  results : Option Json := none
  driveMetadata : Option Json := none
deriving Repr, Inhabited

/-- The failure to store a job. -/
def explainJob : RowFailure → GraphError
  | .full => .storage .full
  | .blankType => .storage .blankType
  | .duplicate | .foreignKey => .storage .foreignKey

/-- The row of a new job; it gets its number when it is stored. -/
def NewJob.row (job : NewJob) (actor : Actor) (now : Int) : Job :=
  { id := 0, kind := job.kind, status := job.status, description := job.description
    createdAt := now, startAt := none, endAt := none, ownerId := actor.userId
    results := job.results.map Json.compact, title := job.title, content := job.content
    driveMetadata := job.driveMetadata.map Json.compact }

def create (actor : Actor) (now : Int) (job : NewJob) : Call Job :=
  Call.insertRow (fun store => store.insertJob (job.row actor now)) explainJob

/-- The job of a number, if the actor owns it. -/
def get (actor : Actor) (id : Int) (store : Store) : Except GraphError Job :=
  match store.job? id with
  | none => .error (.notFound "job" (Decimal.text id))
  | some job =>
    if job.ownerId = actor.userId then .ok job
    else .error (.forbidden ("job " ++ Decimal.text id ++ " belongs to another user"))

/-- An absent or empty list of numbers selects every job. -/
def idSelected (ids : Option (List Int)) (id : Int) : Bool :=
  match ids with
  | none => true
  | some ids => ids.isEmpty || ids.contains id

/-- The actor's jobs of a kind, oldest first. -/
def selected (actor : Actor) (kind : JobKind) (ids : Option (List Int)) (store : Store) :
    List Job :=
  store.jobs.filter
    (fun job => job.ownerId == actor.userId && job.kind == kind && idSelected ids job.id)

/-- The logs of the actor's jobs of a kind. -/
def list (actor : Actor) (kind : JobKind) (ids : Option (List Int)) (store : Store) :
    Except GraphError (List JobLog) :=
  Job.logs (selected actor kind ids store)

/-- The job in its next stage.  Entering `In Progress` for the first time sets the start, entering
a terminal stage sets the end. -/
def moved (now : Int) (target : JobStatus) (job : Job) : Job :=
  { job with
    status := target
    startAt := if target = .inProgress ∧ job.startAt = none then some now else job.startAt
    endAt := if target.isTerminal then some now else job.endAt }

def updateStatus (actor : Actor) (now : Int) (id : Int) (target : JobStatus) : Call Job :=
  Call.inSavepoint "job_status" do
    let job ← Call.check (get actor id)
    Call.check fun _ => job.status.checkTransition target
    let after := moved now target job
    Call.change (fun store => store.updateJob after)
    return after

/-- Replace the results document of a job. -/
def setResults (actor : Actor) (id : Int) (document : Json) : Call Job :=
  Call.inSavepoint "job_results" do
    let job ← Call.check (get actor id)
    let after := { job with results := some document.compact }
    Call.change (fun store => store.updateJob after)
    return after

/-- An import of the actor that is under way. -/
def isActiveImport (actor : Actor) (job : Job) : Bool :=
  job.ownerId == actor.userId && job.kind == .importing &&
    (job.status == .analysis || job.status == .inProgress)

/-- An import of the actor that waits. -/
def isPendingImport (actor : Actor) (job : Job) : Bool :=
  job.ownerId == actor.userId && job.kind == .importing &&
    (job.status == .notStarted || job.status == .blocked)

/-- Remove the actor's waiting imports, unless one is under way.  The result is their number. -/
def deletePreviousImports (actor : Actor) : Call Nat :=
  Call.inSavepoint "delete_previous_imports" do
    let count ← Call.check fun store =>
      if store.jobs.any (isActiveImport actor) then .error (.badRequest "Import in progress")
      else .ok (store.jobs.countP (isPendingImport actor))
    Call.change fun store =>
      { store with jobs := store.jobs.filter (fun job => !isPendingImport actor job) }
    return count

end RecordGraph.Ledger
