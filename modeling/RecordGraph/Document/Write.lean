import RecordGraph.Job.Log
import RecordGraph.Json.Write
import RecordGraph.Relationship

/-!
# Values as documents

The document of each value that is shown or exchanged, with its fields in their order.
-/

namespace RecordGraph

open Json (ofOption)

def Stub.toJson (stub : Stub) : Json :=
  .obj [("type", .str stub.type), ("id", .int stub.id)]

def Actor.documentFields (userId : Int) (external : Bool) : List (String × Json) :=
  [("user_id", .int userId), ("is_external", .bool external)]

/-- The origin is left out where there is none. -/
def Object.documentFields (object : Object) : List (String × Json) :=
  [("type", .str object.type), ("id", .int object.id), ("title", .str object.title)] ++
    (match object.origin with
      | some origin => [("child", origin.toJson)]
      | none => []) ++
    [("created_at_us", .int object.createdAt), ("updated_at_us", .int object.updatedAt)]

def Object.toJson (object : Object) : Json := .obj object.documentFields

def Relationship.toJson (edge : Relationship) : Json :=
  .obj
    [("id", .int edge.id),
      ("source_type", .str edge.source.type),
      ("source_id", .int edge.source.id),
      ("destination_type", .str edge.destination.type),
      ("destination_id", .int edge.destination.id),
      ("parent_id", ofOption .int edge.parentId),
      ("automapping_id", ofOption .int edge.automappingId),
      ("is_external", .bool edge.external),
      ("modified_by_id", ofOption .int edge.modifiedBy),
      ("created_at_us", .int edge.createdAt),
      ("updated_at_us", .int edge.updatedAt)]

def Automapping.toJson (run : Automapping) : Json :=
  .obj
    [("id", .int run.id),
      ("relationship_id", ofOption .int run.relationshipId),
      ("source_type", .str run.source.type),
      ("source_id", .int run.source.id),
      ("destination_type", .str run.destination.type),
      ("destination_id", .int run.destination.id),
      ("modified_by_id", ofOption .int run.modifiedBy),
      ("created_at_us", .int run.createdAt)]

def Job.toJson (job : Job) : Json :=
  .obj
    [("id", .int job.id),
      ("type", .str job.kind.name),
      ("status", .str job.status.name),
      ("description", ofOption .str job.description),
      ("created_at_us", .int job.createdAt),
      ("start_at_us", ofOption .int job.startAt),
      ("end_at_us", ofOption .int job.endAt),
      ("created_by_id", .int job.ownerId),
      ("results", ofOption .str job.results),
      ("title", ofOption .str job.title),
      ("content", ofOption .str job.content),
      ("gdrive_metadata", ofOption .str job.driveMetadata)]

def Timestamp.toJson (time : Timestamp) : Json := .str time.internetText

/-- A document `null` of results and no document look the same. -/
def JobLog.toJson (log : JobLog) : Json :=
  .obj
    [("id", .int log.id),
      ("type", .str log.kind.name),
      ("status", .str log.status.name),
      ("description", ofOption .str log.description),
      ("created_at", ofOption Timestamp.toJson log.createdAt),
      ("start_at", ofOption Timestamp.toJson log.startAt),
      ("end_at", ofOption Timestamp.toJson log.endAt),
      ("created_by_id", .int log.ownerId),
      ("title", ofOption .str log.title),
      ("results", log.results.getD .null)]

/-- The numbers and references that come with a warning. -/
def Warning.details : Warning → List (String × Json)
  | .unknownAccessor _ => []
  | .endAbsent relationshipId stub =>
    [("relationship_id", .int relationshipId), ("endpoint", .str stub.text)]
  | .rowsAbsent stub count => [("object", .str stub.text), ("missing", .int count)]
  | .rollbackFailed savepoint failure =>
    [("savepoint", .str savepoint), ("error", .str failure.message)]

end RecordGraph
