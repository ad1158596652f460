import RecordGraph.Job.Basic

/-!
# Rows of jobs

The table of jobs keeps the kind and the stage of a job as words.  It takes the stored names only,
and its rows are read with the lenient readers of words.
-/

namespace RecordGraph

/-- A row of the table of jobs. -/
structure JobRow where
  id : Int
  kind : String
  status : String
  description : Option String
  createdAt : Int
  startAt : Option Int
  endAt : Option Int
  ownerId : Int
  results : Option String
  title : Option String
  content : Option String
  driveMetadata : Option String
deriving DecidableEq, Repr, Inhabited

/-- The row that keeps a job. -/
def Job.row (job : Job) : JobRow :=
  { id := job.id, kind := job.kind.name, status := job.status.name
    description := job.description, createdAt := job.createdAt, startAt := job.startAt
    endAt := job.endAt, ownerId := job.ownerId, results := job.results, title := job.title
    content := job.content, driveMetadata := job.driveMetadata }

namespace JobRow

/-- Whether the table takes the row. -/
def isAllowed (row : JobRow) : Bool :=
  (JobKind.ofName? row.kind).isSome && (JobStatus.ofName? row.status).isSome

/-- Read a row.  A word that names no kind is reported before one that names no stage. -/
def job (row : JobRow) : Except UnknownWord Job :=
  match JobKind.parse row.kind, JobStatus.parse row.status with
  | .error word, _ | .ok _, .error word => .error word
  | .ok kind, .ok status =>
    .ok { id := row.id, kind, status, description := row.description
          createdAt := row.createdAt, startAt := row.startAt, endAt := row.endAt
          ownerId := row.ownerId, results := row.results, title := row.title
          content := row.content, driveMetadata := row.driveMetadata }

end JobRow

end RecordGraph
