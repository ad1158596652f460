import RecordGraph.Command.Run
import RecordGraph.Proofs.FileTrees
import RecordGraph.Proofs.Transition

/-!
# What a command line comes to

A line is refused as a whole, it asks for something that leaves the files alone, or it makes the
project, or it works on a store that could be opened.  Whichever it is, rows change only where a
call was made on an open store, or where a text is written over them.
-/

namespace RecordGraph

/-- A command line with its time and the output mode that the environment names. -/
structure TypedLine where
  environment : Option String := none
  now : Int := 0
  line : List String
deriving DecidableEq, Repr

/-- The mode in which an invocation shows its result. -/
def Invocation.mode (invocation : Invocation) (config : EffectiveConfig) : OutputMode :=
  .resolve invocation.options.format config.output

namespace TypedLine

def invocation? (typed : TypedLine) : Option Invocation := Invocation.read? typed.line

def perform (typed : TypedLine) (workspace : Workspace) : Reply × Workspace :=
  workspace.run typed.environment typed.now typed.line

end TypedLine

/-! ## Replies -/

/-- Only a result is reported as a success. -/
theorem Reply.ofResult_exitCode_eq_zero_iff {mode : OutputMode}
    {result : Except CommandError String} :
    (Reply.ofResult mode result).exitCode = 0 ↔ ∃ output, result = .ok output := by
  cases result with
  | ok output => simp [ofResult, success]
  | error error => cases error <;> simp [ofResult, failure]

theorem Reply.ofResult_exitCode_ne_zero_iff {mode : OutputMode}
    {result : Except CommandError String} :
    (Reply.ofResult mode result).exitCode ≠ 0 ↔ ∃ error, result = .error error := by
  rw [Ne, ofResult_exitCode_eq_zero_iff]
  cases result <;> simp

theorem Reply.refusedLine_exitCode_ne_zero : refusedLine.exitCode ≠ 0 := by
  simp [refusedLine]

theorem Reply.failure_exitCode_ne_zero (mode : OutputMode) (error : CommandError) :
    (Reply.failure mode error).exitCode ≠ 0 := by
  cases error <;> simp [failure]

namespace Workspace

/-! ## Rows in the files -/

/-- The store kept at a place; the one without rows where none is kept. -/
def stored (workspace : Workspace) (place : Place) : Store := workspace.files.stored place

/-- The store of the project under the configuration that it has. -/
def projectStore (workspace : Workspace) : Store :=
  match workspace.projectConfiguration with
  | .ok config => workspace.stored (Path.place (config.storePath workspace.root))
  | .error _ => {}

theorem projectStore_of_ok {workspace : Workspace} {config : ProjectConfig}
    (hconfig : workspace.projectConfiguration = .ok config) :
    workspace.projectStore = workspace.stored (Path.place (config.storePath workspace.root)) := by
  unfold projectStore
  generalize workspace.projectConfiguration = found at hconfig
  cases hconfig
  rfl

theorem openStore_eq (workspace : Workspace) (path : String) :
    workspace.openStore path =
      ((workspace.files.openStore path).1,
        { workspace with files := (workspace.files.openStore path).2 }) := by
  rw [openStore]

theorem write_eq (workspace : Workspace) (path text : String) :
    workspace.write path text =
      { workspace with
        files := (workspace.files.makeDirectories (Path.directoryParts path)).2.put
          (Path.place path) (.text text) } := by
  rw [write]

@[simp]
theorem stored_openStore (workspace : Workspace) (path : String) (place : Place) :
    (workspace.openStore path).2.stored place = workspace.stored place := by
  rw [openStore_eq, stored, stored, FileTree.stored_openStore]

theorem openStore_ok {workspace after : Workspace} {path : String} {store : Store}
    (hopened : workspace.openStore path = (.ok store, after)) :
    workspace.files.openStore path = (.ok store, after.files) ∧
      after = { workspace with files := after.files } := by
  rw [openStore_eq] at hopened
  generalize workspace.files.openStore path = outcome at hopened ⊢
  obtain ⟨result, files⟩ := outcome
  obtain ⟨rfl, rfl⟩ := Prod.mk.inj hopened
  exact ⟨rfl, rfl⟩

/-- A store that was opened holds the rows that were kept at its place. -/
theorem stored_of_openStore {workspace after : Workspace} {path : String} {store : Store}
    (hopened : workspace.openStore path = (.ok store, after)) :
    workspace.stored (Path.place path) = store :=
  (FileTree.openStore_ok (openStore_ok hopened).1).2

/-- Keeping a store changes the rows at its place and nowhere else. -/
theorem stored_keepStore_cases (workspace : Workspace) (path : String) (kept : Store)
    (place : Place) :
    (workspace.keepStore path kept).stored place = workspace.stored place ∨
      (place = Path.place path ∧ (workspace.keepStore path kept).stored place = kept) := by
  rw [stored, stored, keepStore, FileTree.keepStore]
  rcases workspace.files.stored_put_cases (.store kept) (Path.place path) place with
    hsame | ⟨hplace, hput⟩
  · exact .inl hsame
  · exact .inr ⟨hplace, FileTree.stored_of_find? hput⟩

/-- Where a text is written no rows are left; all others stay. -/
theorem stored_write_cases (workspace : Workspace) (path text : String) (place : Place) :
    (workspace.write path text).stored place = workspace.stored place ∨
      (workspace.write path text).stored place = {} := by
  have hgains := workspace.files.gainsDirectories_makeDirectories (Path.directoryParts path)
  rw [write_eq, stored, stored]
  rcases FileTree.stored_put_cases (workspace.files.makeDirectories (Path.directoryParts path)).2
    (.text text) (Path.place path) place with hsame | ⟨_, hput⟩
  · exact .inl (hsame.trans (hgains.stored place))
  · refine .inr ?_
    rw [FileTree.stored, hput]

/-- Where there are only configurations no rows are kept. -/
theorem stored_ofConfigs (root userConfigPath : String) (project user : Option String)
    (place : Place) : (ofConfigs root userConfigPath project user).stored place = {} := by
  have hwrite : ∀ {workspace : Workspace} (path text : String),
      workspace.stored place = {} → (workspace.write path text).stored place = {} := by
    intro workspace path text hempty
    rcases workspace.stored_write_cases path text place with hsame | hgone
    · exact hsame.trans hempty
    · exact hgone
  have hbare : Workspace.stored
      { root, userConfigPath, files := { base := Path.place root } } place = {} :=
    FileTree.stored_of_no_entries rfl place
  unfold ofConfigs
  cases project <;> cases user <;> simp only
  · exact hbare
  · exact hwrite _ _ hbare
  · exact hwrite _ _ hbare
  · exact hwrite _ _ (hwrite _ _ hbare)

/-! ## Lines -/

theorem configuration_eq_ok_iff {workspace : Workspace} {documents : Bool}
    {environment : Option String} {config : EffectiveConfig} :
    workspace.configuration documents environment = .ok config ↔
      ∃ project user, workspace.projectConfiguration = .ok project ∧
        workspace.userConfiguration = .ok user ∧
        config = .resolve project user documents environment := by
  constructor
  · intro hconfig
    obtain ⟨project, hproject, hrest⟩ := bind_eq_ok_iff.1 hconfig
    obtain ⟨user, huser, hresolved⟩ := bind_eq_ok_iff.1 hrest
    exact ⟨project, user, hproject, huser, (Except.ok.inj hresolved).symm⟩
  · rintro ⟨project, user, hproject, huser, rfl⟩
    exact bind_eq_ok_iff.2 ⟨project, hproject, bind_eq_ok_iff.2 ⟨user, huser, rfl⟩⟩

theorem projectConfiguration_of_ok {workspace : Workspace} {documents : Bool}
    {environment : Option String} {config : EffectiveConfig}
    (hconfig : workspace.configuration documents environment = .ok config) :
    workspace.projectConfiguration = .ok config.project := by
  obtain ⟨project, user, hproject, _, rfl⟩ := configuration_eq_ok_iff.1 hconfig
  exact hproject

theorem runInvocation_of_error {workspace : Workspace} {environment : Option String}
    {invocation : Invocation} {error : ConfigError}
    (hconfig : workspace.configuration invocation.options.documents environment = .error error)
    (now : Int) :
    ∃ mode, workspace.runInvocation environment now invocation =
      (.failure mode error.toCommandError, workspace) := by
  unfold runInvocation
  simp only
  rw [hconfig]
  exact ⟨_, rfl⟩

theorem runInvocation_of_ok {workspace : Workspace} {environment : Option String}
    {invocation : Invocation} {config : EffectiveConfig}
    (hconfig : workspace.configuration invocation.options.documents environment = .ok config)
    (now : Int) :
    workspace.runInvocation environment now invocation =
      (.ofResult (invocation.mode config) (workspace.runCommand config.project
          (session config.project (invocation.mode config) now invocation) invocation.command).1,
        (workspace.runCommand config.project
          (session config.project (invocation.mode config) now invocation)
            invocation.command).2) := by
  unfold runInvocation Invocation.mode
  simp only
  rw [hconfig]

/-- A line whose configurations can be read does what its command does under them. -/
theorem perform_of_configured {workspace : Workspace} {typed : TypedLine} {invocation : Invocation}
    {project : ProjectConfig} {user : UserConfig} (hline : typed.invocation? = some invocation)
    (hproject : workspace.projectConfiguration = .ok project)
    (huser : workspace.userConfiguration = .ok user) :
    let config := EffectiveConfig.resolve project user invocation.options.documents
      typed.environment
    let session := session project (invocation.mode config) typed.now invocation
    typed.perform workspace =
      (.ofResult session.mode (workspace.runCommand project session invocation.command).1,
        (workspace.runCommand project session invocation.command).2) := by
  intro config session
  have hconfig : workspace.configuration invocation.options.documents typed.environment =
      .ok config := configuration_eq_ok_iff.2 ⟨project, user, hproject, huser, rfl⟩
  rw [TypedLine.invocation?] at hline
  rw [TypedLine.perform, run, hline]
  exact runInvocation_of_ok hconfig typed.now

/-- A line that is no command line, or whose configuration cannot be read, leaves all files alone.
Any other does what its command does under the configuration. -/
theorem run_cases (workspace : Workspace) (environment : Option String) (now : Int)
    (line : List String) :
    (∃ reply : Reply, reply.exitCode ≠ 0 ∧
        workspace.run environment now line = (reply, workspace)) ∨
      ∃ invocation config mode, Invocation.read? line = some invocation ∧
        workspace.projectConfiguration = .ok config ∧
        workspace.run environment now line =
          (.ofResult mode (workspace.runCommand config (session config mode now invocation)
              invocation.command).1,
            (workspace.runCommand config (session config mode now invocation)
              invocation.command).2) := by
  rw [run]
  split
  · exact .inl ⟨.refusedLine, Reply.refusedLine_exitCode_ne_zero, rfl⟩
  · next invocation hline =>
    cases hconfig : workspace.configuration invocation.options.documents environment with
    | error error =>
      obtain ⟨mode, hrun⟩ := runInvocation_of_error hconfig now
      exact .inl ⟨_, Reply.failure_exitCode_ne_zero mode _, hrun⟩
    | ok config =>
      exact .inr ⟨invocation, config.project, _, hline, projectConfiguration_of_ok hconfig,
        runInvocation_of_ok hconfig now⟩

theorem writeMissing_cases (workspace : Workspace) (path text : String) :
    ((workspace.files.find? (Path.place path)).isSome = true ∧
        workspace.writeMissing path text = workspace) ∨
      (workspace.files.find? (Path.place path) = none ∧
        workspace.writeMissing path text = workspace.write path text) := by
  rw [writeMissing]
  cases workspace.files.find? (Path.place path) with
  | none => exact .inr ⟨rfl, rfl⟩
  | some entry => exact .inl ⟨rfl, rfl⟩

/-- Making a project prepares its files, and opens its store if the configuration can be read. -/
theorem runInit_cases (workspace : Workspace) (mode : OutputMode) (force : Bool) :
    (∃ error, workspace.runInit mode force = (.error error, workspace.prepare force) ∧
        ∀ config, (workspace.prepare force).projectConfiguration ≠ .ok config) ∨
      ∃ config result, (workspace.prepare force).projectConfiguration = .ok config ∧
        workspace.runInit mode force =
          (result, ((workspace.prepare force).openStore
            (config.storePath (workspace.prepare force).root)).2) := by
  unfold runInit
  generalize workspace.prepare force = prepared
  simp only
  cases hconfig : prepared.projectConfiguration with
  | error error => exact .inl ⟨_, rfl, fun config hok => by simp at hok⟩
  | ok config =>
    simp only
    generalize hopened : prepared.openStore (config.storePath prepared.root) = outcome
    obtain ⟨result, after⟩ := outcome
    cases result with
    | error fault => exact .inr ⟨config, _, rfl, by rw [hopened]⟩
    | ok store => exact .inr ⟨config, _, rfl, by rw [hopened]⟩

section

variable (workspace : Workspace) (config : ProjectConfig) (session : Session)

theorem runCommand_init (force : Bool) :
    workspace.runCommand config session (.init force) = workspace.runInit session.mode force := rfl

theorem runCommand_check (source destination : String) :
    workspace.runCommand config session (.check source destination) =
      (runCheck session source destination, workspace) := rfl

theorem runCommand_onStore (command : StoreCommand) :
    workspace.runCommand config session (.onStore command) =
      workspace.runOnStore config (command.call session) := rfl

end

/-- What a call leaves is kept at the path of its store. -/
theorem runCall_files (workspace : Workspace) (path : String) (store : Store)
    (call : Call String) :
    (workspace.runCall path store call).2 =
      workspace.keepStore path (call { store }).connection.committed := rfl

/-- What a call gives is the result of its command. -/
theorem runCall_eq_ok_iff {workspace : Workspace} {path : String} {store : Store}
    {call : Call String} {output : String} :
    (workspace.runCall path store call).1 = .ok output ↔ (call { store }).result = .ok output := by
  simp only [runCall]
  cases (call { store }).result <;> simp

/-- A call on the store fails where it is refused. -/
theorem runCall_error {workspace : Workspace} {path : String} {store : Store} {call : Call String}
    {error : CommandError} (hfailed : (workspace.runCall path store call).1 = .error error) :
    ∃ refusal, (call { store }).result = .error refusal := by
  simp only [runCall] at hfailed
  cases hresult : (call { store }).result with
  | ok output =>
    rw [hresult] at hfailed
    cases hfailed
  | error refusal => exact ⟨refusal, rfl⟩

/-- A command on the store fails before it is made, and then no rows have changed, or its call is
made on the open store. -/
theorem runOnStore_cases (workspace : Workspace) (config : ProjectConfig)
    (call : Except CommandError (Call String)) :
    (∃ error after, workspace.runOnStore config call = (.error error, after) ∧
        (after = workspace ∨
          after = (workspace.openStore (config.storePath workspace.root)).2)) ∨
      ∃ store opened made, call = .ok made ∧
        workspace.openStore (config.storePath workspace.root) = (.ok store, opened) ∧
        workspace.runOnStore config call =
          opened.runCall (config.storePath workspace.root) store made := by
  simp only [runOnStore]
  split
  · split
    · next fault after hopened => exact .inl ⟨_, after, rfl, .inr (by rw [hopened])⟩
    · next store opened hopened =>
      split
      · exact .inl ⟨_, opened, rfl, .inr (by rw [hopened])⟩
      · cases call with
        | error error => exact .inl ⟨error, opened, rfl, .inr (by rw [hopened])⟩
        | ok made => exact .inr ⟨store, opened, made, rfl, hopened, rfl⟩
  · exact .inl ⟨_, workspace, rfl, .inl rfl⟩

end Workspace

end RecordGraph
