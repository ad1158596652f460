import RecordGraph.Config
import RecordGraph.Files.StoreFile

/-!
# The files around a command

A command works in a directory.  It sees the project's own files, if there are any, the user's
configuration and the store.
-/

namespace RecordGraph

/-- What a command finds, and what it leaves. -/
structure Workspace where
  /-- The directory in which commands run. -/
  root : String
  userConfigPath : String
  files : FileTree
deriving Repr, Inhabited

namespace Workspace

def projectPath (workspace : Workspace) : String := joinPath workspace.root projectDirectory

def configPath (workspace : Workspace) : String := joinPath workspace.projectPath "config.toml"

def ignorePath (workspace : Workspace) : String := joinPath workspace.projectPath ".gitignore"

/-- Whether the project directory is there. -/
def initialized (workspace : Workspace) : Bool :=
  workspace.files.isDirectory (Path.place workspace.projectPath)

/-- Write a text to a file, whose directory is made where it is missing. -/
def write (workspace : Workspace) (path text : String) : Workspace :=
  let (_, files) := workspace.files.makeDirectories (Path.directoryParts path)
  { workspace with files := files.put (Path.place path) (.text text) }

/-- Write a text to a file, unless something stands there already. -/
def writeMissing (workspace : Workspace) (path text : String) : Workspace :=
  match workspace.files.find? (Path.place path) with
  | some _ => workspace
  | none => workspace.write path text

/-- A directory with these configurations and nothing else in it. -/
def ofConfigs (root userConfigPath : String) (project user : Option String) : Workspace :=
  let bare : Workspace := { root, userConfigPath, files := { base := Path.place root } }
  let started := match project with
    | some text => bare.write bare.configPath text
    | none => bare
  match user with
  | some text => started.write userConfigPath text
  | none => started

/-! ## Configurations -/

/-- The text of a configuration file, if it is there. -/
def configText (workspace : Workspace) (path : String) : Except ConfigError (Option String) :=
  match workspace.files.find? (Path.place path) with
  | none => .ok none
  | some (.text text) => .ok (some text)
  | some (.store _) => .error { path, fault := .notText }
  | some .directory => .error { path, fault := .directory }

/-- The project's part of the configuration. -/
def projectConfiguration (workspace : Workspace) : Except ConfigError ProjectConfig := do
  ProjectConfig.load workspace.configPath (← workspace.configText workspace.configPath)

/-- The user's part of the configuration. -/
def userConfiguration (workspace : Workspace) : Except ConfigError UserConfig := do
  UserConfig.load workspace.userConfigPath (← workspace.configText workspace.userConfigPath)

/-- The configuration of a command that runs here. -/
def configuration (workspace : Workspace) (documents : Bool) (environment : Option String) :
    Except ConfigError EffectiveConfig := do
  let project ← workspace.projectConfiguration
  let user ← workspace.userConfiguration
  return .resolve project user documents environment

/-! ## Project files -/

/-- The configuration of a new project. -/
def configTemplate : String :=
  "[store]\n" ++
  "path = \"relgraph.db\"\n" ++
  "busy_timeout_ms = 5000\n" ++
  "\n" ++
  "[registry]\n" ++
  "# Extra types that join the scoping-object policy group.\n" ++
  "scoping_types = []\n" ++
  "relatable_types = []\n" ++
  "non_relatable_types = []\n" ++
  "\n" ++
  "[actor]\n" ++
  "user_id = 1\n" ++
  "external = false\n"

/-- Database files are kept out of version control. -/
def ignoreTemplate : String := "*.db\n*.db-wal\n*.db-shm\n"

/-- Make the project directory and the files that it lacks.  With `force` the configuration is put
back to the template. -/
def prepare (workspace : Workspace) (force : Bool) : Workspace :=
  let configured :=
    if force then workspace.write workspace.configPath configTemplate
    else workspace.writeMissing workspace.configPath configTemplate
  configured.writeMissing workspace.ignorePath ignoreTemplate

/-! ## Stores -/

/-- Open the store at a path. -/
def openStore (workspace : Workspace) (path : String) : Except StoreFault Store × Workspace :=
  let (result, files) := workspace.files.openStore path
  (result, { workspace with files })

def store? (workspace : Workspace) (path : String) : Option Store := workspace.files.store? path

def keepStore (workspace : Workspace) (path : String) (store : Store) : Workspace :=
  { workspace with files := workspace.files.keepStore path store }

end Workspace

end RecordGraph
