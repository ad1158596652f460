import RecordGraph.Command.Invocation
import RecordGraph.Graph.Derivation
import RecordGraph.Graph.NeighborCache
import RecordGraph.Graph.Records
import RecordGraph.Job.Ledger
import RecordGraph.Output.Listing
import RecordGraph.Output.Report

/-!
# Commands on a store

Each command that works on the store of a project is a call; its result is the text to print.
-/

namespace RecordGraph

/-- Who works on a project, with what types, and how results are shown. -/
structure Session where
  registry : TypeRegistry
  actor : Actor
  mode : OutputMode
  now : Int
deriving Repr

namespace Session

/-- A document over several lines, or else a text. -/
def showResult (session : Session) (document : Json) (text : String) : String :=
  if session.mode.isJson then document.pretty ++ "\n" else text

/-! ## Records -/

def addObject (session : Session) (type : String) (id : Int) (title : Option String)
    (origin : Option Stub) : Call String := do
  let title := title.getD (type ++ " " ++ Decimal.text id)
  let stored ← Graph.insertObject session.registry session.now
    { Object.draft type id title with origin }
  return showItem session.mode stored

/-- A record and its edges, as a document. -/
def detailDocument (object : Object) (sources destinations : List Relationship) : Json :=
  .obj (object.documentFields ++
    [("related_sources", .arr (sources.map Relationship.toJson)),
      ("related_destinations", .arr (destinations.map Relationship.toJson))])

/-- A record and its edges, as people read them. -/
def detailText (object : Object) (sources destinations : List Relationship) : String :=
  object.human ++ Layout.headed "Sources" ++ String.join (sources.map Relationship.human) ++
    Layout.headed "Destinations" ++ String.join (destinations.map Relationship.human)

def showObject (session : Session) (stub : Stub) : Call String := do
  let object ← Call.check fun store =>
    match store.object? stub with
    | some object => .ok object
    | none => .error (.notFound "object" stub.text)
  let edges ← Call.ask (fun store => EagerRelationships.load store [stub] true)
  let sources := edges.relatedSources stub
  let destinations := edges.relatedDestinations stub
  return session.showResult (detailDocument object sources destinations)
    (detailText object sources destinations)

def listObjects (session : Session) (type : Option String) : Call String := do
  let objects ← Call.ask (fun store => store.listObjects type)
  return showList session.mode objects

def removeObject (session : Session) (stub : Stub) : Call String := do
  let edges ← Graph.deleteObject session.registry session.actor stub
  let document := Json.obj
    [("object", stub.toJson), ("relationships", .arr (edges.map Relationship.toJson))]
  return session.showResult document
    ("✓ Deleted " ++ stub.text ++ " and " ++ Decimal.text edges.length ++ " relationship(s)\n")

/-! ## Edges -/

/-- The stored record, or a stand-in of which the checks will say that it is not stored. -/
def endpoint (stub : Stub) : Call Object :=
  Call.ask (fun store => (store.object? stub).getD (Object.draft stub.type stub.id ""))

def mapDerived (session : Session) (parent : Int) (source destination : Stub)
    (sourceObject destinationObject : Object) : Call String := do
  let parentEdge ← Call.check fun store =>
    match store.relationship? parent with
    | some edge => .ok edge
    | none => .error (.notFound "relationship" (Decimal.text parent))
  let created ← Graph.createDerived session.registry session.actor session.now parentEdge
    sourceObject destinationObject
  match created with
  | some edge => return showItem session.mode edge
  | none =>
    return session.showResult
      (.obj [("skipped", .bool true), ("reason", .str "already related")])
      (source.text ++ " and " ++ destination.text ++ " are already related\n")

def map (session : Session) (source destination : Stub) (external : Bool) (parent : Option Int) :
    Call String := do
  let sourceObject ← endpoint source
  let destinationObject ← endpoint destination
  match parent with
  | some parent => session.mapDerived parent source destination sourceObject destinationObject
  | none =>
    let edge ← Graph.create session.registry session.actor session.now
      { source := some sourceObject, destination := some destinationObject
        external := external || session.actor.external }
    return showItem session.mode edge

def unmap (session : Session) (id : Int) : Call String := do
  let edge ← Graph.delete session.registry session.actor id
  return session.showResult edge.toJson
    ("✓ Unmapped #" ++ Decimal.text edge.id ++ " " ++ edge.displayName ++ "\n")

def edges (session : Session) (query : RelatedQuery) : Call String := do
  let found ← Call.ask query.all
  return showList session.mode found

/-! ## Neighbours -/

def related (session : Session) (stub : Stub) (types : List String) : Call String := do
  let found ← Call.ask (fun store => (store.relatedObjects session.registry stub (some types)).1)
  return showList session.mode found

/-- The neighbours of several records, in the order of the records. -/
def neighborRows (store : Store) (stubs : List Stub) (types : List String) :
    List (Stub × List Stub) :=
  let cache := (NeighborCache.empty.populate store stubs (some types)).2
  (Stub.sorted stubs).map (fun stub => (stub, cache.neighbors stub))

def neighborDocument (row : Stub × List Stub) : Json :=
  .obj [("object", row.1.toJson), ("neighbors", .arr (row.2.map Stub.toJson))]

/-- The references with a separator between them. -/
def stubsText (separator : String) (stubs : List Stub) : String :=
  separator.intercalate (stubs.map Stub.text)

def neighborText (row : Stub × List Stub) : String :=
  row.1.text ++ "  " ++ stubsText "," row.2 ++ "\n"

def neighborHuman (row : Stub × List Stub) : String :=
  Layout.keyValue row.1.text (if row.2.isEmpty then "(none)" else stubsText ", " row.2)

def neighbors (session : Session) (stubs : List Stub) (types : List String) : Call String := do
  let rows ← Call.ask (fun store => neighborRows store stubs types)
  match session.mode with
  | .json => return (Json.arr (rows.map neighborDocument)).pretty ++ "\n"
  | .text => return String.join (rows.map neighborText)
  | .pretty => return String.join (rows.map neighborHuman)

/-! ## Jobs -/

def showJobItem (session : Session) (job : Job) : Call String := do
  let log ← Call.check (fun _ => job.log)
  return showItem session.mode log

def createJob (session : Session) (kind : JobKind) (title description : Option String)
    (replacing : Bool) : Call String := do
  if replacing && kind == .importing then
    let _ ← Ledger.deletePreviousImports session.actor
  let job ← Ledger.create session.actor session.now { kind, title, description }
  session.showJobItem job

def listJobs (session : Session) (kind : JobKind) (ids : List Int) : Call String := do
  let logs ← Call.check (Ledger.list session.actor kind (some ids))
  return showList session.mode logs

def showJob (session : Session) (id : Int) : Call String := do
  let job ← Call.check (Ledger.get session.actor id)
  session.showJobItem job

def moveJob (session : Session) (id : Int) (status : JobStatus) : Call String := do
  let job ← Ledger.updateStatus session.actor session.now id status
  session.showJobItem job

def setResults (session : Session) (id : Int) (document : Json) : Call String := do
  let job ← Ledger.setResults session.actor id document
  session.showJobItem job

def clearJobs (session : Session) : Call String := do
  let removed ← Ledger.deletePreviousImports session.actor
  return session.showResult (.obj [("removed", .int removed)])
    ("✓ Removed " ++ Decimal.text removed ++ " pending import(s)\n")

end Session

/-- What is wrong with a text that should be a document. -/
def badDocumentCause : String := "not a JSON document"

namespace StoreCommand

/-- The call of a command; a command with a text that should be a document fails before it. -/
def call (session : Session) : StoreCommand → Except CommandError (Call String)
  | .addObject type id title origin => .ok (session.addObject type id title origin)
  | .showObject stub => .ok (session.showObject stub)
  | .listObjects type => .ok (session.listObjects type)
  | .removeObject stub => .ok (session.removeObject stub)
  | .map source destination external parent =>
    .ok (session.map source destination external parent)
  | .unmap id => .ok (session.unmap id)
  | .edges query => .ok (session.edges query)
  | .related stub types => .ok (session.related stub types)
  | .neighbors stubs types => .ok (session.neighbors stubs types)
  | .createJob kind title description replacing =>
    .ok (session.createJob kind title description replacing)
  | .listJobs kind ids => .ok (session.listJobs kind ids)
  | .showJob id => .ok (session.showJob id)
  | .moveJob id status => .ok (session.moveJob id status)
  | .setResults id text =>
    match Json.parse? text with
    | some document => .ok (session.setResults id document)
    | none => .error (.other ["results must be a JSON document"] badDocumentCause)
  | .clearJobs => .ok session.clearJobs

end StoreCommand

end RecordGraph
