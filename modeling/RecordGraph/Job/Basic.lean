import RecordGraph.Job.Status

/-!
# Jobs

A job belongs to the user who made it.  Its results document and its drive metadata are kept as
text.
-/

namespace RecordGraph

structure Job where
  id : Int
  kind : JobKind
  status : JobStatus
  description : Option String
  createdAt : Int
  startAt : Option Int
  endAt : Option Int
  ownerId : Int
  results : Option String
  title : Option String
  content : Option String
  driveMetadata : Option String
deriving DecidableEq, Repr, Inhabited

def Job.before (left right : Job) : Bool := decide (left.id < right.id)

end RecordGraph
