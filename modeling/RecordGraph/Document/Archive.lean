import RecordGraph.Document.Read
import RecordGraph.Document.Write
import RecordGraph.Job.Row
import RecordGraph.Store.Basic

/-!
# Stores as documents

Between runs a store is kept as one document: its tables row by row, and the greatest number given
out in each.
-/

namespace RecordGraph

open Json (Raw)

namespace Json.Raw

/-- The items of an array, if each can be read. -/
def list? (read : Raw → Option α) : Raw → Option (List α)
  | .array items => items.mapM read
  | _ => none

end Json.Raw

def Relationship.ofRaw? (raw : Raw) : Option Relationship :=
  match raw.record? ["id", "source_type", "source_id", "destination_type", "destination_id",
    "parent_id", "automapping_id", "is_external", "modified_by_id", "created_at_us",
    "updated_at_us"] with
  | some [some id, some sourceType, some sourceId, some destinationType, some destinationId,
      some parentId, some automappingId, some external, some modifiedBy, some createdAt,
      some updatedAt] => do
    let source : Stub := ⟨← sourceType.text?, ← sourceId.id?⟩
    let destination : Stub := ⟨← destinationType.text?, ← destinationId.id?⟩
    return {
      id := ← id.id?, source, destination
      parentId := ← parentId.optional Raw.id?
      automappingId := ← automappingId.optional Raw.id?
      external := ← external.bool?
      modifiedBy := ← modifiedBy.optional Raw.id?
      createdAt := ← createdAt.id?
      updatedAt := ← updatedAt.id? }
  | _ => none

def Automapping.ofRaw? (raw : Raw) : Option Automapping :=
  match raw.record? ["id", "relationship_id", "source_type", "source_id", "destination_type",
    "destination_id", "modified_by_id", "created_at_us"] with
  | some [some id, some relationshipId, some sourceType, some sourceId, some destinationType,
      some destinationId, some modifiedBy, some createdAt] => do
    let source : Stub := ⟨← sourceType.text?, ← sourceId.id?⟩
    let destination : Stub := ⟨← destinationType.text?, ← destinationId.id?⟩
    return {
      id := ← id.id?
      relationshipId := ← relationshipId.optional Raw.id?
      source, destination
      modifiedBy := ← modifiedBy.optional Raw.id?
      createdAt := ← createdAt.id? }
  | _ => none

def JobRow.ofRaw? (raw : Raw) : Option JobRow :=
  match raw.record? ["id", "type", "status", "description", "created_at_us", "start_at_us",
    "end_at_us", "created_by_id", "results", "title", "content", "gdrive_metadata"] with
  | some [some id, some kind, some status, some description, some createdAt, some startAt,
      some endAt, some ownerId, some results, some title, some content, some driveMetadata] => do
    return {
      id := ← id.id?
      kind := ← kind.text?
      status := ← status.text?
      description := ← description.optional Raw.text?
      createdAt := ← createdAt.id?
      startAt := ← startAt.optional Raw.id?
      endAt := ← endAt.optional Raw.id?
      ownerId := ← ownerId.id?
      results := ← results.optional Raw.text?
      title := ← title.optional Raw.text?
      content := ← content.optional Raw.text?
      driveMetadata := ← driveMetadata.optional Raw.text? }
  | _ => none

def Job.ofRaw? (raw : Raw) : Option Job :=
  (JobRow.ofRaw? raw).bind fun row => row.job.toOption

namespace Store

def toJson (store : Store) : Json :=
  .obj
    [("objects", .arr (store.objects.map Object.toJson)),
      ("relationships", .arr (store.relationships.map Relationship.toJson)),
      ("automappings", .arr (store.automappings.map Automapping.toJson)),
      ("jobs", .arr (store.jobs.map Job.toJson)),
      ("last_relationship_id", .int store.lastRelationshipId),
      ("last_automapping_id", .int store.lastAutomappingId),
      ("last_job_id", .int store.lastJobId)]

def ofRaw? (raw : Raw) : Option Store :=
  match raw.record? ["objects", "relationships", "automappings", "jobs", "last_relationship_id",
    "last_automapping_id", "last_job_id"] with
  | some [some objects, some relationships, some automappings, some jobs, some lastRelationshipId,
      some lastAutomappingId, some lastJobId] => do
    return {
      objects := ← objects.list? Object.ofRaw?
      relationships := ← relationships.list? Relationship.ofRaw?
      automappings := ← automappings.list? Automapping.ofRaw?
      jobs := ← jobs.list? Job.ofRaw?
      lastRelationshipId := ← lastRelationshipId.id?
      lastAutomappingId := ← lastAutomappingId.id?
      lastJobId := ← lastJobId.id? }
  | _ => none

/-- The text that keeps a store. -/
def archive (store : Store) : String := store.toJson.compact ++ "\n"

/-- The store that a text keeps. -/
def ofArchive? (text : String) : Option Store := (Raw.ofChars? text.toList).bind ofRaw?

end Store

end RecordGraph
