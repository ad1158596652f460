import RecordGraph.Files.Path
import RecordGraph.Json.Basic
import RecordGraph.Registry
import RecordGraph.Text.Blank
import RecordGraph.Toml.Document

/-!
# Configuration

A project has a file that says where its store is, which types it adds to the registry and who acts
by default.  A user has a file with the preferred output.  Keys that mean nothing here are ignored,
missing ones have defaults, and a value of the wrong type spoils the file.
-/

namespace RecordGraph

structure StoreConfig where
  /-- The database file, relative to the project directory. -/
  path : String := "relgraph.db"
  busyTimeoutMs : Nat := 5000
deriving DecidableEq, Repr, Inhabited

structure ActorConfig where
  userId : Int := 1
  external : Bool := false
deriving DecidableEq, Repr, Inhabited

structure ProjectConfig where
  store : StoreConfig := {}
  registry : RegistryExtension := {}
  actor : ActorConfig := {}
deriving DecidableEq, Repr, Inhabited

structure UserConfig where
  output : Option String := none
deriving DecidableEq, Repr, Inhabited

/-- The configuration that a command runs under. -/
structure EffectiveConfig where
  project : ProjectConfig
  user : UserConfig
  output : String
deriving DecidableEq, Repr, Inhabited

namespace Toml

def string? : Toml → Option String
  | .string text => some text
  | _ => none

def integer? : Toml → Option Int
  | .integer value => some value
  | _ => none

def natural? : Toml → Option Nat
  | .integer value => if 0 ≤ value then some value.toNat else none
  | _ => none

def boolean? : Toml → Option Bool
  | .boolean value => some value
  | _ => none

def strings? : Toml → Option (List String)
  | .array items => items.mapM string?
  | _ => none

/-- The values of the named keys, in that order.  An array gives them by position; a date has none
of them. -/
def section? (names : List String) : Toml → Option (List (Option Toml))
  | .table _ _ entries => some (names.map (fun name => entries.lookup name))
  | .inline entries => some (names.map (fun name => entries.lookup name))
  | .array items => some (names.zipIdx.map (fun name => items[name.2]?))
  | .tables elements =>
    some (names.zipIdx.map (fun name => (elements.reverse[name.2]?).map (Toml.table false false)))
  | .datetime => some (names.map (fun _ => none))
  | _ => none

/-- A value of its type, or the default where there is none. -/
def orDefault (read : Toml → Option α) (default : α) : Option Toml → Option α
  | none => some default
  | some value => read value

end Toml

namespace StoreConfig

def ofToml? (toml : Toml) : Option StoreConfig :=
  match toml.section? ["path", "busy_timeout_ms"] with
  | some [path, busyTimeoutMs] =>
    match Toml.orDefault Toml.string? "relgraph.db" path,
      Toml.orDefault Toml.natural? 5000 busyTimeoutMs with
    | some path, some busyTimeoutMs => some { path, busyTimeoutMs }
    | _, _ => none
  | _ => none

end StoreConfig

namespace RegistryExtension

def ofToml? (toml : Toml) : Option RegistryExtension :=
  match toml.section? ["scoping_types", "relatable_types", "non_relatable_types"] with
  | some [scoping, relatable, nonRelatable] =>
    match Toml.orDefault Toml.strings? [] scoping, Toml.orDefault Toml.strings? [] relatable,
      Toml.orDefault Toml.strings? [] nonRelatable with
    | some scoping, some relatable, some nonRelatable => some { scoping, relatable, nonRelatable }
    | _, _, _ => none
  | _ => none

end RegistryExtension

namespace ActorConfig

def ofToml? (toml : Toml) : Option ActorConfig :=
  match toml.section? ["user_id", "external"] with
  | some [userId, external] =>
    match Toml.orDefault Toml.integer? 1 userId, Toml.orDefault Toml.boolean? false external with
    | some userId, some external => some { userId, external }
    | _, _ => none
  | _ => none

end ActorConfig

namespace ProjectConfig

def ofEntries? (entries : Toml.Entries) : Option ProjectConfig :=
  match Toml.orDefault StoreConfig.ofToml? {} (entries.lookup "store"),
    Toml.orDefault RegistryExtension.ofToml? {} (entries.lookup "registry"),
    Toml.orDefault ActorConfig.ofToml? {} (entries.lookup "actor") with
  | some store, some registry, some actor => some { store, registry, actor }
  | _, _, _ => none

def parse? (text : String) : Option ProjectConfig := (Toml.parse? text).bind ofEntries?

end ProjectConfig

namespace UserConfig

def ofEntries? (entries : Toml.Entries) : Option UserConfig :=
  (Toml.orDefault (fun value => (value.string?).map some) none (entries.lookup "output")).map
    (fun output => { output })

def parse? (text : String) : Option UserConfig := (Toml.parse? text).bind ofEntries?

end UserConfig

/-- The directory of a project's own files. -/
def projectDirectory : String := ".relgraph"

namespace ProjectConfig

/-- The database file of a project. -/
def storePath (config : ProjectConfig) (root : String) : String :=
  joinPath (joinPath root projectDirectory) config.store.path

end ProjectConfig

/-- The output mode that a word names, whatever its case and the blanks around it. -/
def outputWord? (word : String) : Option String :=
  let folded := String.ofList ((Text.trim word.toList).map Char.toLower)
  if folded = "pretty" ∨ folded = "human" then some "pretty"
  else if folded = "text" ∨ folded = "table" then some "text"
  else if folded = "json" then some "json"
  else none

/-- The output to use: documents where the command line asks for them, then the environment, then
the user's preference, and rows where none of them names a mode. -/
def resolveOutput (documents : Bool) (environment preference : Option String) : String :=
  if documents then "json"
  else ((environment.bind outputWord?).or (preference.bind outputWord?)).getD "text"

/-- Why a configuration file cannot be used. -/
inductive ConfigFault where
  | malformed
  | notText
  | directory
deriving DecidableEq, Repr

/-- What is wrong with the file. -/
def ConfigFault.cause : ConfigFault → String
  | malformed => "not a valid configuration"
  | notText => "stream did not contain valid UTF-8"
  | directory => "Is a directory (os error 21)"

/-- A configuration file that cannot be used. -/
structure ConfigError where
  path : String
  fault : ConfigFault := .malformed
deriving DecidableEq, Repr

/-- What could not be done with the file. -/
def ConfigError.message (error : ConfigError) : String :=
  match error.fault with
  | .malformed => "Failed to parse " ++ error.path
  | .notText => "Failed to read " ++ error.path
  | .directory => "Failed to read " ++ error.path

/-- The project's part of the configuration, from the text of its file if there is one. -/
def ProjectConfig.load (path : String) : Option String → Except ConfigError ProjectConfig
  | none => .ok {}
  | some text =>
    match ProjectConfig.parse? text with
    | some config => .ok config
    | none => .error { path }

/-- The user's part of the configuration, from the text of its file if there is one. -/
def UserConfig.load (path : String) : Option String → Except ConfigError UserConfig
  | none => .ok {}
  | some text =>
    match UserConfig.parse? text with
    | some config => .ok config
    | none => .error { path }

namespace EffectiveConfig

/-- The configuration of a command from the two files, its own wish and the environment. -/
def resolve (project : ProjectConfig) (user : UserConfig) (documents : Bool)
    (environment : Option String) : EffectiveConfig :=
  { project, user, output := resolveOutput documents environment user.output }

def strings (names : List String) : Json := .arr (names.map .str)

def toJson (config : EffectiveConfig) : Json :=
  .obj
    [("project", .obj
        [("store", .obj
            [("path", .str config.project.store.path),
              ("busy_timeout_ms", .int config.project.store.busyTimeoutMs)]),
          ("registry", .obj
            [("scoping_types", strings config.project.registry.scoping),
              ("relatable_types", strings config.project.registry.relatable),
              ("non_relatable_types", strings config.project.registry.nonRelatable)]),
          ("actor", .obj
            [("user_id", .int config.project.actor.userId),
              ("external", .bool config.project.actor.external)])]),
      ("user", .obj [("output", Json.ofOption .str config.user.output)]),
      ("resolved_output", .str config.output)]

end EffectiveConfig

end RecordGraph
