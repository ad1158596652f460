import RecordGraph.Policy
import RecordGraph.Relationship

/-!
# Failures

A failed operation reports its cause.  Each cause has one wording and one stable code, and a code
may come with a hint on what to do.
-/

namespace RecordGraph

/-- The stable codes by which programs tell failures apart. -/
inductive ErrorCode where
  | notInitialized
  | configParseError
  | objectNotFound
  | relationshipNotFound
  | jobNotFound
  | validationFailed
  | duplicateRelationship
  | invalidStateTransition
  | forbidden
  | importInProgress
  | corruptStore
  | storageFailure
  | internalUnexpected
deriving DecidableEq, Repr

namespace ErrorCode

def code : ErrorCode → String
  | .notInitialized => "E1001"
  | .configParseError => "E1002"
  | .objectNotFound => "E2001"
  | .relationshipNotFound => "E2002"
  | .jobNotFound => "E2003"
  | .validationFailed => "E3001"
  | .duplicateRelationship => "E3002"
  | .invalidStateTransition => "E3003"
  | .forbidden => "E4001"
  | .importInProgress => "E4002"
  | .corruptStore => "E5001"
  | .storageFailure => "E5002"
  | .internalUnexpected => "E9001"

/-- A short summary of the kind of failure. -/
def message : ErrorCode → String
  | .notInitialized => "Store not initialized"
  | .configParseError => "Config file parse error"
  | .objectNotFound => "Object not found"
  | .relationshipNotFound => "Relationship not found"
  | .jobNotFound => "Import/export job not found"
  | .validationFailed => "Validation failed"
  | .duplicateRelationship => "Relationship already exists"
  | .invalidStateTransition => "Invalid state transition"
  | .forbidden => "Forbidden"
  | .importInProgress => "Import in progress"
  | .corruptStore => "Corrupt SQLite store"
  | .storageFailure => "Storage failure"
  | .internalUnexpected => "Internal unexpected error"

/-- What to do about the failure, where that can be said. -/
def hint : ErrorCode → Option String
  | .notInitialized => some "Run `relg init` to create the store."
  | .configParseError => some "Fix syntax in .relgraph/config.toml and retry."
  | .objectNotFound | .relationshipNotFound | .jobNotFound | .validationFailed => none
  | .duplicateRelationship =>
    some "The pair is already mapped; look it up with `relg related`."
  | .invalidStateTransition =>
    some "Follow the job lifecycle: Not Started -> Analysis -> Blocked -> In Progress -> Finished."
  | .forbidden => some "Only the job owner can read or change it."
  | .importInProgress => some "Wait for the running import to finish, or stop it."
  | .corruptStore => some "Restore the store from backup or re-run `relg init`."
  | .storageFailure => some "Retry once. Check disk space and file permissions."
  | .internalUnexpected => some "Retry once. If persistent, report a bug with logs."

end ErrorCode

/-- Why a request was refused before anything was written. -/
inductive Refusal where
  | unknownType (type : String)
  | snapshotWithoutOrigin
  | originWithoutSnapshot (type : String)
  | originAbsent (origin : Stub)
  | endMissing (edgeEnd : EdgeEnd)
  | notRelatable (type : String)
  | endAbsent (edgeEnd : EdgeEnd) (stub : Stub)
  | restricted (violation : Policy.Violation)
  | snapshotAbsent (stub : Stub)
  | snapshotWithOrigin (sourceType destinationType : String)
  | notExternal
  /-- A reason given in words. -/
  | stated (reason : String)
deriving DecidableEq, Repr

def Refusal.message : Refusal → String
  | .unknownType type => "Unknown object type: " ++ type
  | .snapshotWithoutOrigin => "Snapshot objects must reference the object they were taken from."
  | .originWithoutSnapshot type =>
    "Only snapshots can reference an origin object, not " ++ type
  | .originAbsent origin => "Snapshot origin " ++ origin.text ++ " does not exist"
  | .endMissing edgeEnd => "Relationship." ++ edgeEnd.label ++ " can't be None."
  | .notRelatable type =>
    "You are trying to create relationship with not Relatable type: " ++ type
  | .endAbsent edgeEnd stub =>
    "Relationship." ++ edgeEnd.label ++ " " ++ stub.text ++ " does not exist."
  | .restricted violation => violation.message
  | .snapshotAbsent stub => "Snapshot " ++ stub.text ++ " not found."
  | .snapshotWithOrigin sourceType destinationType =>
    "Invalid source-destination types pair for Relationship: source_type='" ++ sourceType ++
      "', destination_type='" ++ destinationType ++ "'"
  | .notExternal => "External application can delete only external relationships."
  | .stated reason => reason

/-- Why the store itself could not do what was asked. -/
inductive StorageFailure where
  /-- A row refers to a row that is not there. -/
  | foreignKey
  /-- The type of a record is made of spaces only. -/
  | blankType
  /-- No id is left. -/
  | full
  | noSavepoint (name : String)
  | noRows
deriving DecidableEq, Repr

def StorageFailure.message : StorageFailure → String
  | .foreignKey => "FOREIGN KEY constraint failed"
  | .blankType => "CHECK constraint failed: length(trim(object_type)) > 0"
  | .full => "database or disk is full"
  | .noSavepoint name => "no such savepoint: " ++ name
  | .noRows => "Query returned no rows"

/-- The failure of an operation on the graph or on the jobs. -/
inductive GraphError where
  | validation (refusal : Refusal)
  /-- A row with the same key is stored; `what` names it. -/
  | conflict (what : String)
  | notFound (kind key : String)
  | forbidden (reason : String)
  | badRequest (reason : String)
  | invalidTransition (current target : String)
  | storage (failure : StorageFailure)
  /-- A stored document cannot be read. -/
  | json
deriving DecidableEq, Repr

namespace GraphError

def message : GraphError → String
  | .validation refusal => refusal.message
  | .conflict what => "relationship already exists: " ++ what
  | .notFound kind key => kind ++ " not found: " ++ key
  | .forbidden reason => "forbidden: " ++ reason
  | .badRequest reason => reason
  | .invalidTransition current target =>
    "invalid transition from '" ++ current ++ "' to '" ++ target ++ "'"
  | .storage failure => "storage error: " ++ failure.message
  | .json => "json error"

def code : GraphError → ErrorCode
  | .validation _ => .validationFailed
  | .conflict _ => .duplicateRelationship
  | .notFound kind _ =>
    if kind == "relationship" then .relationshipNotFound
    else if kind == "job" then .jobNotFound
    else .objectNotFound
  | .forbidden _ => .forbidden
  | .badRequest _ => .importInProgress
  | .invalidTransition _ _ => .invalidStateTransition
  | .storage _ => .storageFailure
  | .json => .corruptStore

def hint (error : GraphError) : Option String := error.code.hint

def isValidation : GraphError → Bool
  | .validation _ => true
  | _ => false

end GraphError

/-- Something wrong with stored data, or with undoing a change, that did not stop an operation. -/
inductive Warning where
  | unknownAccessor (accessor : String)
  | endAbsent (relationshipId : Int) (stub : Stub)
  | rowsAbsent (stub : Stub) (count : Nat)
  | rollbackFailed (savepoint : String) (failure : StorageFailure)
deriving DecidableEq, Repr

def Warning.message : Warning → String
  | .unknownAccessor accessor =>
    "Relationship endpoint attr '" ++ accessor ++
      "' does not exist. This indicates invalid data in our database!"
  | .endAbsent _ _ => "Relationship endpoint points at a missing object"
  | .rowsAbsent _ _ => "related objects point at missing rows"
  | .rollbackFailed _ _ => "savepoint rollback failed"

end RecordGraph
