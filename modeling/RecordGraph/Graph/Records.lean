import RecordGraph.Store.Connection

/-!
# Storing records

A record has a registered type.  A snapshot names its origin, which must be stored, and nothing but
a snapshot does.
-/

namespace RecordGraph.Graph

/-- Whether `object` may name the origin that it names. -/
def checkOrigin (store : Store) (object : Object) : Except GraphError Unit :=
  match object.origin, object.isSnapshot with
  | none, true => .error (.validation .snapshotWithoutOrigin)
  | some _, false => .error (.validation (.originWithoutSnapshot object.type))
  | some origin, true =>
    if store.hasObject origin then .ok () else .error (.validation (.originAbsent origin))
  | none, false => .ok ()

/-- The first reason not to store `object`, in the order: its type, then its origin. -/
def checkRecord (registry : TypeRegistry) (object : Object) (store : Store) :
    Except GraphError Unit :=
  match registry.get? object.type with
  | none => .error (.validation (.unknownType object.type))
  | some _ => checkOrigin store object

/-- The failure to store a record, in the words of a caller. -/
def explainRecord (object : Object) : RowFailure → GraphError
  | .duplicate => .conflict ("object " ++ object.stub.text)
  | .blankType => .storage .blankType
  | .foreignKey => .storage .foreignKey
  | .full => .storage .full

/-- Store a record.  Both times become `now`. -/
def insertObject (registry : TypeRegistry) (now : Int) (object : Object) : Call Object := do
  Call.check (checkRecord registry object)
  let stored := object.stampedAt now
  Call.insertRow (fun store => (store.insertObject stored).map (fun after => (stored, after)))
    (explainRecord object)

end RecordGraph.Graph
