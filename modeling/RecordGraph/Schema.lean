import RecordGraph.Store.Basic

/-!
# The schema and its versions

A database file holds tables, indexes and a version number.  A migration brings it to the latest
version, one step of the schema at a time; a step either happens as a whole or not at all.
-/

namespace RecordGraph.Schema

inductive Table where
  | objects
  | relationships
  | automappings
  | storeMeta
  | importExports
deriving DecidableEq, Repr

def Table.all : List Table := [.automappings, .importExports, .objects, .relationships, .storeMeta]

def Table.name : Table → String
  | .objects => "objects"
  | .relationships => "relationships"
  | .automappings => "automappings"
  | .storeMeta => "store_meta"
  | .importExports => "import_exports"

inductive Index where
  | relationshipsSource
  | relationshipsDestination
  | relationshipsParent
  | relationshipsAutomapping
  | automappingsRelationship
  | importExportsOwner
deriving DecidableEq, Repr

def Index.name : Index → String
  | .relationshipsSource => "ix_relationships_source"
  | .relationshipsDestination => "ix_relationships_destination"
  | .relationshipsParent => "ix_relationships_parent"
  | .relationshipsAutomapping => "ix_relationships_automapping"
  | .automappingsRelationship => "ix_automappings_relationship"
  | .importExportsOwner => "ix_import_exports_owner"

def Index.table : Index → Table
  | .relationshipsSource | .relationshipsDestination | .relationshipsParent
  | .relationshipsAutomapping => .relationships
  | .automappingsRelationship => .automappings
  | .importExportsOwner => .importExports

/-- The indexes that look-ups rely on. -/
def requiredIndexes : List Index :=
  [.relationshipsSource, .relationshipsDestination, .relationshipsParent,
    .relationshipsAutomapping, .automappingsRelationship, .importExportsOwner]

/-- A database file.  `metaVersion` is the version noted in the row of `store_meta`, if that row is
there; `rows` are those of the other tables. -/
structure Database where
  tables : List Table := []
  indexes : List Index := []
  userVersion : Int := 0
  metaVersion : Option Nat := none
  rows : Store := {}
deriving DecidableEq, Repr, Inhabited

/-- The database without the rows of a table.  The numbers of its rows start again. -/
def Database.emptied (database : Database) : Table → Database
  | .objects => { database with rows := { database.rows with objects := [] } }
  | .relationships =>
    { database with
      rows := { database.rows with relationships := [], lastRelationshipId := 0 } }
  | .automappings =>
    { database with rows := { database.rows with automappings := [], lastAutomappingId := 0 } }
  | .importExports => { database with rows := { database.rows with jobs := [], lastJobId := 0 } }
  | .storeMeta => { database with metaVersion := none }

inductive Statement where
  /-- Create a table, without rows, unless it is there. -/
  | createTable (table : Table)
  /-- Create an index unless it is there. -/
  | createIndex (index : Index)
  /-- Note a version, unless one is noted. -/
  | noteVersion (version : Nat)
  /-- Change the noted version, if one is noted. -/
  | changeVersion (version : Nat)
deriving DecidableEq, Repr

inductive Failure where
  /-- The version number of the file is negative. -/
  | outOfRange
  | noSuchTable (table : Table)
deriving DecidableEq, Repr

def Failure.message : Failure → String
  | .outOfRange => "user_version out of range"
  | .noSuchTable table => "no such table: " ++ table.name

def needTable (database : Database) (table : Table) (after : Database) : Except Failure Database :=
  if table ∈ database.tables then .ok after else .error (.noSuchTable table)

def execute (database : Database) : Statement → Except Failure Database
  | .createTable table =>
    if table ∈ database.tables then .ok database
    else .ok { database.emptied table with tables := table :: database.tables }
  | .createIndex index =>
    if index ∈ database.indexes then .ok database
    else needTable database index.table { database with indexes := index :: database.indexes }
  | .noteVersion version =>
    needTable database .storeMeta
      { database with metaVersion := some (database.metaVersion.getD version) }
  | .changeVersion version =>
    needTable database .storeMeta
      { database with metaVersion := database.metaVersion.map (fun _ => version) }

/-- Execute statements in order, up to the first that fails. -/
def executeAll (database : Database) : List Statement → Except Failure Database
  | [] => .ok database
  | statement :: rest =>
    match execute database statement with
    | .ok after => executeAll after rest
    | .error failure => .error failure

/-- Records, edges and mapping runs. -/
def graphScript : List Statement :=
  [.createTable .objects, .createTable .relationships, .createTable .automappings,
    .createIndex .relationshipsSource, .createIndex .relationshipsDestination,
    .createIndex .relationshipsParent, .createIndex .relationshipsAutomapping,
    .createIndex .automappingsRelationship, .createTable .storeMeta, .noteVersion 1]

/-- Jobs. -/
def jobScript : List Statement :=
  [.createTable .importExports, .createIndex .importExportsOwner, .changeVersion 2]

/-- The steps of the schema, each with the version that it leads to. -/
def steps : List (Nat × List Statement) := [(1, graphScript), (2, jobScript)]

def latestVersion : Nat := 2

/-- The version of a database, if it is a version at all. -/
def currentVersion (database : Database) : Except Failure Nat :=
  if 0 ≤ database.userVersion then .ok database.userVersion.toNat else .error .outOfRange

/-- Set the version number.  The file has 32 bits for it; a number that does not fit becomes 0. -/
def setVersion (database : Database) (version : Int) : Database :=
  { database with
    userVersion := if -2147483648 ≤ version ∧ version ≤ 2147483647 then version else 0 }

/-- Take one step. -/
def takeStep (database : Database) (version : Nat) (script : List Statement) :
    Except Failure Database :=
  match executeAll database script with
  | .error failure => .error failure
  | .ok after => execute (setVersion after version) (.changeVersion version)

/-- Take the steps above a version.  A step that fails leaves the database as it was before it. -/
def takeSteps (database : Database) (current : Nat) :
    List (Nat × List Statement) → Except Failure Nat × Database
  | [] => (.ok current, database)
  | (version, script) :: rest =>
    if version ≤ current then takeSteps database current rest
    else
      match takeStep database version script with
      | .ok after => takeSteps after version rest
      | .error failure => (.error failure, database)

/-- Bring a database to the latest version. -/
def migrate (database : Database) : Except Failure Nat × Database :=
  match currentVersion database with
  | .error failure => (.error failure, database)
  | .ok current => takeSteps database current steps

/-- The required indexes that a database lacks. -/
def missingIndexes (database : Database) : List Index :=
  requiredIndexes.filter (fun index => index ∉ database.indexes)

end RecordGraph.Schema
