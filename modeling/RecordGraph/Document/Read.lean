import RecordGraph.Actor
import RecordGraph.Job.Status
import RecordGraph.Json.Raw
import RecordGraph.Object

/-!
# Values from documents

A value is read from an object that has its fields, or from an array of the fields in their order.
Fields of other names may be there; a field that is there twice is refused, and so is a missing one
that is not optional.
-/

namespace RecordGraph

namespace Json.Raw

def id? : Raw → Option Int
  | .number lexeme => lexeme.toId?
  | _ => none

def bool? : Raw → Option Bool
  | .bool value => some value
  | _ => none

/-- `null` stands for an absent value. -/
def optional (read : Raw → Option α) : Raw → Option (Option α)
  | .null => some none
  | raw => (read raw).map some

def readKeys? : List (List Char × Raw) → Option (List (String × Raw))
  | [] => some []
  | (key, value) :: rest =>
    match unescape? key, readKeys? rest with
    | some key, some rest => some ((String.ofList key, value) :: rest)
    | _, _ => none

def countKey (fields : List (String × Raw)) (key : String) : Nat :=
  fields.countP (fun field => field.1 == key)

/-- The fields of the given names in the order of the names; a missing one is `none`. -/
def record? (names : List String) : Raw → Option (List (Option Raw))
  | .object written =>
    match readKeys? written with
    | none => none
    | some fields =>
      if names.any (fun name => decide (1 < countKey fields name)) then none
      else some (names.map (fun name => fields.lookup name))
  | .array items => if items.length = names.length then some (items.map some) else none
  | _ => none

/-- One of several names, as a string or as an object that gives the name no value. -/
def choice? : Raw → Option String
  | .object [(key, .null)] => (unescape? key).map String.ofList
  | raw => raw.text?

end Json.Raw

open Json (Raw)

def Stub.ofRaw? (raw : Raw) : Option Stub :=
  match raw.record? ["type", "id"] with
  | some [some type, some id] =>
    match type.text?, id.id? with
    | some type, some id => some ⟨type, id⟩
    | _, _ => none
  | _ => none

def Actor.ofRaw? (raw : Raw) : Option Actor :=
  match raw.record? ["user_id", "is_external"] with
  | some [some userId, some external] =>
    match userId.id?, external.bool? with
    | some userId, some external => some ⟨userId, external⟩
    | _, _ => none
  | _ => none

/-- A missing origin is none. -/
def Object.ofRaw? (raw : Raw) : Option Object :=
  match raw.record? ["type", "id", "title", "child", "created_at_us", "updated_at_us"] with
  | some [some type, some id, some title, origin, some createdAt, some updatedAt] =>
    match type.text?, id.id?, title.text?, (origin.getD .null).optional Stub.ofRaw?,
      createdAt.id?, updatedAt.id? with
    | some type, some id, some title, some origin, some createdAt, some updatedAt =>
      some { type, id, title, origin, createdAt, updatedAt }
    | _, _, _, _, _, _ => none
  | _ => none

def JobKind.ofRaw? (raw : Raw) : Option JobKind := raw.choice?.bind JobKind.ofName?

def JobStatus.ofRaw? (raw : Raw) : Option JobStatus := raw.choice?.bind JobStatus.ofName?

end RecordGraph
