import RecordGraph.Command.Perform
import RecordGraph.Command.Workspace
import RecordGraph.Graph.Mapping
import RecordGraph.Schema

/-!
# Running a command line

A run reads the configuration, does what the line asks for and leaves the files changed.  Results
go to the output, failures with their report to the complaints.
-/

namespace RecordGraph

/-- What a run leaves behind for whoever started it. -/
structure Reply where
  /-- 0 for success, 1 for a failure, 2 for a line that is no command line, 101 for a stop without
  a report. -/
  exitCode : Nat
  output : String := ""
  complaint : String := ""
deriving DecidableEq, Repr, Inhabited

namespace Reply

def success (output : String) : Reply := { exitCode := 0, output }

def failure (mode : OutputMode) : CommandError → Reply
  | .stopped cause => { exitCode := 101, complaint := cause ++ "\n" }
  | error => { exitCode := 1, complaint := (Report.ofError error).render mode }

def refusedLine : Reply := { exitCode := 2, complaint := "error: not a command of relg\n" }

def ofResult (mode : OutputMode) : Except CommandError String → Reply
  | .ok output => success output
  | .error error => failure mode error

end Reply

def ConfigError.toCommandError (error : ConfigError) : CommandError :=
  .other [error.message] error.fault.cause

def StoreFault.toCommandError (fault : StoreFault) : CommandError :=
  .other [fault.context] fault.cause

namespace Workspace

/-! ## Making a project -/

/-- The report on a new project, `store` and `config` being the paths of its files. -/
def initText (mode : OutputMode) (store config : String) : String :=
  let version := Decimal.text Schema.latestVersion
  match mode with
  | .json =>
    (Json.obj [("store", .str store), ("config", .str config),
      ("schema_version", .int Schema.latestVersion)]).pretty ++ "\n"
  | .text => "store=" ++ store ++ " schema=" ++ version ++ "\n"
  | .pretty =>
    "✓ Initialized " ++ projectDirectory ++ "/\n" ++ Layout.keyValue "Store" store ++
      Layout.keyValue "Config" config ++ Layout.keyValue "Schema" version

/-- Make a project here, or bring the one that is here up to date. -/
def runInit (workspace : Workspace) (mode : OutputMode) (force : Bool) :
    Except CommandError String × Workspace :=
  let prepared := workspace.prepare force
  match prepared.projectConfiguration with
  | .error error => (.error error.toCommandError, prepared)
  | .ok config =>
    let path := config.storePath prepared.root
    match prepared.openStore path with
    | (.error fault, after) => (.error fault.toCommandError, after)
    | (.ok _, after) => (.ok (initText mode path prepared.configPath), after)

/-! ## Asking the policy -/

def checkText (session : Session) (source destination : String) : String :=
  session.showResult
    (.obj [("source_type", .str source), ("destination_type", .str destination),
      ("external", .bool session.actor.external), ("allowed", .bool true)])
    ("✓ " ++ source ++ " -> " ++ destination ++ " allowed\n")

def runCheck (session : Session) (source destination : String) : Except CommandError String :=
  match Graph.checkPair session.registry session.actor source destination with
  | .ok () => .ok (checkText session source destination)
  | .error error => .error (.graph error)

/-! ## Working on the store -/

/-- Run a call on a store that is open at a path.  What is still unsaved when the call ends is
lost. -/
def runCall (workspace : Workspace) (path : String) (store : Store) (call : Call String) :
    Except CommandError String × Workspace :=
  let outcome := call { store }
  let result := match outcome.result with
    | .ok output => Except.ok output
    | .error error => Except.error (CommandError.graph error)
  (result, workspace.keepStore path outcome.connection.committed)

/-- The longest time in milliseconds that a store can be told to wait for another user of it. -/
def maxBusyTimeout : Nat := 2147483647

/-- Run a command that works on the project's store. -/
def runOnStore (workspace : Workspace) (config : ProjectConfig)
    (call : Except CommandError (Call String)) : Except CommandError String × Workspace :=
  let path := config.storePath workspace.root
  if workspace.initialized then
    match workspace.openStore path with
    | (.error fault, after) => (.error fault.toCommandError, after)
    | (.ok store, after) =>
      if maxBusyTimeout < config.store.busyTimeoutMs then (.error (.stopped "too big"), after)
      else
        match call with
        | .error error => (.error error, after)
        | .ok call => after.runCall path store call
  else (.error (.reported Report.notInitialized), workspace)

/-! ## Whole runs -/

/-- The session of an invocation under a configuration. -/
def session (config : ProjectConfig) (mode : OutputMode) (now : Int) (invocation : Invocation) :
    Session :=
  { registry := TypeRegistry.ofExtension config.registry
    actor := ⟨invocation.options.user.getD config.actor.userId,
      invocation.external || config.actor.external⟩
    mode, now }

def runCommand (workspace : Workspace) (config : ProjectConfig) (session : Session)
    (command : Command) : Except CommandError String × Workspace :=
  match command with
  | .init force => workspace.runInit session.mode force
  | .check source destination => (runCheck session source destination, workspace)
  | .onStore command => workspace.runOnStore config (command.call session)

def runInvocation (workspace : Workspace) (environment : Option String) (now : Int)
    (invocation : Invocation) : Reply × Workspace :=
  let options := invocation.options
  match workspace.configuration options.documents environment with
  | .error error =>
    let mode := OutputMode.resolve options.format (if options.documents then "json" else "text")
    (.failure mode error.toCommandError, workspace)
  | .ok config =>
    let mode := OutputMode.resolve options.format config.output
    let (result, after) := workspace.runCommand config.project
      (session config.project mode now invocation) invocation.command
    (.ofResult mode result, after)

/-- Run a command line at a time; `environment` is the output mode that the environment names. -/
def run (workspace : Workspace) (environment : Option String) (now : Int) (line : List String) :
    Reply × Workspace :=
  match Invocation.read? line with
  | none => (.refusedLine, workspace)
  | some invocation => workspace.runInvocation environment now invocation

end Workspace

end RecordGraph
