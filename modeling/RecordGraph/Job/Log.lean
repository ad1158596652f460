import RecordGraph.Job.Basic
import RecordGraph.Json.Raw
import RecordGraph.Timestamp

/-!
# Job logs

The form in which a job is listed: without its content, with its results as a document and its
times as points of the calendar.
-/

namespace RecordGraph

structure JobLog where
  id : Int
  kind : JobKind
  status : JobStatus
  description : Option String
  createdAt : Option Timestamp
  startAt : Option Timestamp
  endAt : Option Timestamp
  ownerId : Int
  title : Option String
  results : Option Json
deriving Repr, Inhabited

/-- The results document; an empty text holds none. -/
def Job.readResults (job : Job) : Except GraphError (Option Json) :=
  match job.results with
  | none => .ok none
  | some text =>
    if text.isEmpty then .ok none
    else
      match Json.parse? text with
      | some document => .ok (some document)
      | none => .error .json

/-- The log of a job; it fails when the results cannot be read. -/
def Job.log (job : Job) : Except GraphError JobLog :=
  match job.readResults with
  | .error error => .error error
  | .ok results => .ok
    { id := job.id, kind := job.kind, status := job.status, description := job.description
      createdAt := Timestamp.ofMicros? job.createdAt
      startAt := job.startAt.bind Timestamp.ofMicros?
      endAt := job.endAt.bind Timestamp.ofMicros?
      ownerId := job.ownerId, title := job.title, results }

/-- The logs of several jobs, if each has one. -/
def Job.logs : List Job → Except GraphError (List JobLog)
  | [] => .ok []
  | job :: rest =>
    match job.log, Job.logs rest with
    | .error error, _ => .error error
    | .ok _, .error error => .error error
    | .ok log, .ok rest => .ok (log :: rest)

end RecordGraph
