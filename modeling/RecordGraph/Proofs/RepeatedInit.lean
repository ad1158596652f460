import RecordGraph.Proofs.CommandLines

/-!
# Making a project again

To make a project is to see that its files are there: the configuration, the list of files to
ignore and the store.  Once they are there, a further `init` finds nothing to do, and no command
takes any of them away.  So it can be typed anywhere in a script without any trace.
-/

namespace RecordGraph

/-- The line is to make a project; with `force`, it puts the configuration back to the template. -/
def TypedLine.Makes (typed : TypedLine) (force : Bool) : Prop :=
  ∃ invocation, typed.invocation? = some invocation ∧ invocation.command = .init force

/-! ## Paths of a project -/

namespace Path

theorem parts_ne_nil (path : List Char) : parts path ≠ [] := by
  fun_cases parts path <;> simp_all

/-- A slash ends a part. -/
theorem parts_append_slash (left right : List Char) :
    parts (left ++ '/' :: right) = parts left ++ parts right := by
  induction left with
  | nil => simp [parts]
  | cons first rest ih =>
    by_cases hslash : first = '/'
    · subst hslash
      simp [parts, ih]
    · obtain ⟨part, others, hparts⟩ := List.exists_cons_of_ne_nil (parts_ne_nil rest)
      simp [parts, ih, hparts]

/-- A plain name below a directory leads to the place of that name in it. -/
theorem place_joinPath {directory name : String} (hdirectory : directory.toList.getLast? ≠ some '/')
    (hname : parts name.toList = [name.toList]) (hidle : isIdle name.toList = false)
    (hback : leadsBack name.toList = false) :
    place (joinPath directory name) = place directory ++ [name] := by
  have hhead : name.toList.head? ≠ some '/' := by
    intro hslash
    obtain ⟨rest, hrest⟩ := List.head?_eq_some_iff.1 hslash
    rw [hrest] at hname
    simp [parts] at hname
  have hjoined : (directory ++ "/" ++ name).toList = directory.toList ++ '/' :: name.toList := by
    simp
  rw [joinPath, if_neg hhead, if_neg hdirectory, place, place, hjoined, parts_append_slash,
    List.foldl_append, hname]
  simp [follow, hidle, hback]

end Path

namespace Workspace

variable {workspace : Workspace}

theorem projectPath_getLast_ne (workspace : Workspace) :
    workspace.projectPath.toList.getLast? ≠ some '/' := by
  rw [projectPath, joinPath]
  split
  · decide
  · split
    · simp [projectDirectory]
    · simp [projectDirectory]

/-- The store that is used by default is not kept in the place of the configuration. -/
theorem place_configPath_ne (workspace : Workspace) : Path.place workspace.configPath ≠
    Path.place (ProjectConfig.storePath {} workspace.root) := by
  have hlast := workspace.projectPath_getLast_ne
  have hconfig : Path.place workspace.configPath =
      Path.place workspace.projectPath ++ ["config.toml"] :=
    Path.place_joinPath hlast (by decide) (by decide) (by decide)
  have hstore : Path.place (ProjectConfig.storePath {} workspace.root) =
      Path.place workspace.projectPath ++ ["relgraph.db"] :=
    Path.place_joinPath hlast (by decide) (by decide) (by decide)
  rw [hconfig, hstore]
  simp

/-! ## The configuration stays -/

theorem configPath_congr {after : Workspace} (hroot : after.root = workspace.root) :
    after.configPath = workspace.configPath := by
  rw [configPath, projectPath, hroot, configPath, projectPath]

theorem ignorePath_congr {after : Workspace} (hroot : after.root = workspace.root) :
    after.ignorePath = workspace.ignorePath := by
  rw [ignorePath, projectPath, hroot, ignorePath, projectPath]

theorem projectConfiguration_congr {after : Workspace} (hroot : after.root = workspace.root)
    (hentry : after.files.find? (Path.place workspace.configPath) =
      workspace.files.find? (Path.place workspace.configPath)) :
    after.projectConfiguration = workspace.projectConfiguration := by
  have htext : after.configText workspace.configPath =
      workspace.configText workspace.configPath := by
    unfold configText
    rw [hentry]
  unfold projectConfiguration
  rw [configPath_congr hroot, htext]

/-- A store is no configuration, so a configuration that could be read is not where rows are
kept. -/
theorem configText_keepStore {path file : String} {store : Store} {text : Option String}
    (hstands : workspace.files.find? (Path.place path) = some (.store store))
    (htext : workspace.configText file = .ok text) (kept : Store) :
    (workspace.keepStore path kept).configText file = .ok text := by
  have hapart : Path.place file ≠ Path.place path := by
    intro hplace
    rw [configText, hplace, hstands] at htext
    cases htext
  rw [← htext, configText, configText, keepStore, FileTree.keepStore,
    FileTree.find?_put_of_ne _ _ hapart]

theorem projectConfiguration_keepStore {path : String} {store : Store} {config : ProjectConfig}
    (hstands : workspace.files.find? (Path.place path) = some (.store store))
    (hconfig : workspace.projectConfiguration = .ok config) (kept : Store) :
    (workspace.keepStore path kept).projectConfiguration = .ok config := by
  obtain ⟨text, htext, hload⟩ := bind_eq_ok_iff.1 hconfig
  exact bind_eq_ok_iff.2 ⟨text, configText_keepStore hstands htext kept, hload⟩

theorem projectConfiguration_of_empty {config : ProjectConfig}
    (hempty : workspace.files.find? (Path.place workspace.configPath) = some (.text ""))
    (hconfig : workspace.projectConfiguration = .ok config) : config = {} := by
  have htext : workspace.configText workspace.configPath = .ok (some "") := by
    unfold configText
    rw [hempty]
  have hparsed : ProjectConfig.parse? "" = some {} := by decide +kernel
  unfold projectConfiguration at hconfig
  rw [htext] at hconfig
  simp only [bind, Except.bind, ProjectConfig.load, hparsed] at hconfig
  exact (Except.ok.inj hconfig).symm

theorem userConfiguration_of_none
    (hnone : workspace.files.find? (Path.place workspace.userConfigPath) = none) :
    workspace.userConfiguration = .ok {} := by
  have htext : workspace.configText workspace.userConfigPath = .ok none := by
    unfold configText
    rw [hnone]
  unfold userConfiguration
  rw [htext]
  rfl

/-! ## Files that are there -/

/-- The project's own files besides the store are there. -/
structure Prepared (workspace : Workspace) : Prop where
  configured : (workspace.files.find? (Path.place workspace.configPath)).isSome = true
  ignoring : (workspace.files.find? (Path.place workspace.ignorePath)).isSome = true

/-- Everything is there that `init` would make. -/
structure Settled (workspace : Workspace) : Prop extends workspace.Prepared where
  opened : ∀ config, workspace.projectConfiguration = .ok config →
    (workspace.openStore (config.storePath workspace.root)).2 = workspace

/-- Files that are there stay there. -/
theorem Prepared.of_isSome {after : Workspace} (hprepared : workspace.Prepared)
    (hroot : after.root = workspace.root)
    (hkept : ∀ place, (workspace.files.find? place).isSome = true →
      (after.files.find? place).isSome = true) : after.Prepared where
  configured := by
    rw [configPath_congr hroot]
    exact hkept _ hprepared.configured
  ignoring := by
    rw [ignorePath_congr hroot]
    exact hkept _ hprepared.ignoring

theorem root_write (path text : String) : (workspace.write path text).root = workspace.root := by
  rw [write_eq]

theorem isSome_find?_write (path text : String) :
    ((workspace.write path text).files.find? (Path.place path)).isSome = true := by
  rw [write_eq]
  exact FileTree.isSome_find?_put _ _ _

theorem isSome_find?_write_of_isSome {place : Place} (path text : String)
    (hplace : (workspace.files.find? place).isSome = true) :
    ((workspace.write path text).files.find? place).isSome = true := by
  obtain ⟨entry, hentry⟩ := Option.isSome_iff_exists.1 hplace
  have hgains := workspace.files.gainsDirectories_makeDirectories (Path.directoryParts path)
  rw [write_eq]
  refine FileTree.isSome_find?_put_of_isSome _ _ ?_
  rw [hgains.find?_eq_some hentry]
  rfl

theorem root_writeMissing (path text : String) :
    (workspace.writeMissing path text).root = workspace.root := by
  rcases workspace.writeMissing_cases path text with ⟨_, hsame⟩ | ⟨_, hwritten⟩
  · rw [hsame]
  · rw [hwritten, root_write]

theorem isSome_find?_writeMissing (path text : String) :
    ((workspace.writeMissing path text).files.find? (Path.place path)).isSome = true := by
  rcases workspace.writeMissing_cases path text with ⟨hthere, hsame⟩ | ⟨_, hwritten⟩
  · rw [hsame]
    exact hthere
  · rw [hwritten]
    exact isSome_find?_write path text

theorem isSome_find?_writeMissing_of_isSome {place : Place} (path text : String)
    (hplace : (workspace.files.find? place).isSome = true) :
    ((workspace.writeMissing path text).files.find? place).isSome = true := by
  rcases workspace.writeMissing_cases path text with ⟨_, hsame⟩ | ⟨_, hwritten⟩
  · rw [hsame]
    exact hplace
  · rw [hwritten]
    exact isSome_find?_write_of_isSome path text hplace

theorem writeMissing_of_isSome {path : String} (text : String)
    (hthere : (workspace.files.find? (Path.place path)).isSome = true) :
    workspace.writeMissing path text = workspace := by
  rcases workspace.writeMissing_cases path text with ⟨_, hsame⟩ | ⟨hnone, _⟩
  · exact hsame
  · rw [hnone] at hthere
    cases hthere

theorem prepared_of_configured {configured : Workspace}
    (hroot : configured.root = workspace.root)
    (hthere : (configured.files.find? (Path.place workspace.configPath)).isSome = true) :
    (configured.writeMissing workspace.ignorePath ignoreTemplate).Prepared := by
  have hsame : (configured.writeMissing workspace.ignorePath ignoreTemplate).root =
      workspace.root := (root_writeMissing _ _).trans hroot
  refine ⟨?_, ?_⟩
  · rw [configPath_congr hsame]
    exact isSome_find?_writeMissing_of_isSome _ _ hthere
  · rw [ignorePath_congr hsame]
    exact isSome_find?_writeMissing _ _

theorem prepared_prepare (workspace : Workspace) (force : Bool) :
    (workspace.prepare force).Prepared := by
  unfold prepare
  cases force with
  | true =>
    simp only [if_true]
    exact prepared_of_configured (root_write _ _) (isSome_find?_write _ _)
  | false =>
    simp only [Bool.false_eq_true, if_false]
    exact prepared_of_configured (root_writeMissing _ _) (isSome_find?_writeMissing _ _)

theorem Prepared.prepare (hprepared : workspace.Prepared) :
    workspace.prepare false = workspace := by
  have hconfigured : workspace.writeMissing workspace.configPath configTemplate = workspace :=
    writeMissing_of_isSome _ hprepared.configured
  unfold Workspace.prepare
  simp only [Bool.false_eq_true, if_false, hconfigured]
  exact writeMissing_of_isSome _ hprepared.ignoring

/-! ## Opening the store -/

theorem root_openStore (path : String) : (workspace.openStore path).2.root = workspace.root := by
  rw [openStore_eq]

theorem files_openStore (path : String) :
    (workspace.openStore path).2.files = (workspace.files.openStore path).2 := by
  rw [openStore_eq]

theorem openStore_again (path : String) :
    ((workspace.openStore path).2.openStore path).2 = (workspace.openStore path).2 := by
  simp only [openStore_eq]
  rw [FileTree.openStore_again]

theorem Prepared.openStore (hprepared : workspace.Prepared) (path : String) :
    (workspace.openStore path).2.Prepared := by
  refine hprepared.of_isSome (root_openStore path) fun place hplace => ?_
  rw [files_openStore]
  exact FileTree.isSome_find?_openStore path hplace

/-- The configuration can be read after its store was opened as it could before. -/
theorem Prepared.projectConfiguration_openStore (hprepared : workspace.Prepared)
    {config : ProjectConfig} (hconfig : workspace.projectConfiguration = .ok config) :
    (workspace.openStore (config.storePath workspace.root)).2.projectConfiguration =
      .ok config := by
  obtain ⟨entry, hentry⟩ := Option.isSome_iff_exists.1 hprepared.configured
  rw [← hconfig]
  refine projectConfiguration_congr (root_openStore _) ?_
  rw [files_openStore, hentry]
  refine FileTree.find?_openStore hentry fun hplace hblank => ?_
  -- An empty configuration leaves the store in its own place.
  have hdefault : config = {} := by
    rw [hblank] at hentry
    exact projectConfiguration_of_empty hentry hconfig
  rw [hdefault] at hplace
  exact workspace.place_configPath_ne hplace

theorem Prepared.settled_openStore (hprepared : workspace.Prepared) {config : ProjectConfig}
    (hconfig : workspace.projectConfiguration = .ok config) :
    (workspace.openStore (config.storePath workspace.root)).2.Settled := by
  refine { hprepared.openStore _ with opened := ?_ }
  intro later hlater
  have hsame := hprepared.projectConfiguration_openStore hconfig
  rw [← Except.ok.inj (hsame.symm.trans hlater), root_openStore]
  exact openStore_again _

/-! ## Lines -/

theorem settled_runInit (workspace : Workspace) (mode : OutputMode) (force : Bool) :
    (workspace.runInit mode force).2.Settled := by
  have hprepared := workspace.prepared_prepare force
  rcases workspace.runInit_cases mode force with ⟨_, hrun, hnone⟩ | ⟨config, _, hconfig, hrun⟩
  · simp only [hrun]
    exact { hprepared with opened := fun config hconfig => absurd hconfig (hnone config) }
  · simp only [hrun]
    exact hprepared.settled_openStore hconfig

namespace Settled

theorem runInit (hsettled : workspace.Settled) (mode : OutputMode) :
    (workspace.runInit mode false).2 = workspace := by
  have hsame := hsettled.toPrepared.prepare
  rcases workspace.runInit_cases mode false with ⟨_, hrun, _⟩ | ⟨config, _, hconfig, hrun⟩
  · simp only [hrun]
    exact hsame
  · simp only [hrun]
    rw [hsame] at hconfig ⊢
    exact hsettled.opened config hconfig

theorem keepStore (hsettled : workspace.Settled) {config : ProjectConfig} {store : Store}
    (hconfig : workspace.projectConfiguration = .ok config)
    (hopened : workspace.openStore (config.storePath workspace.root) = (.ok store, workspace))
    (kept : Store) : (workspace.keepStore (config.storePath workspace.root) kept).Settled := by
  obtain ⟨hfiles, _⟩ := openStore_ok hopened
  have hstands := (FileTree.openStore_ok hfiles).1
  have hsame := projectConfiguration_keepStore hstands hconfig kept
  have hprepared : (workspace.keepStore (config.storePath workspace.root) kept).Prepared :=
    hsettled.toPrepared.of_isSome rfl fun place hplace =>
      FileTree.isSome_find?_put_of_isSome _ _ hplace
  refine { hprepared with opened := ?_ }
  intro later hlater
  rw [← Except.ok.inj (hsame.symm.trans hlater), openStore_eq]
  simp only [Workspace.keepStore, FileTree.openStore_keepStore hfiles]

theorem runOnStore (hsettled : workspace.Settled) {config : ProjectConfig}
    (hconfig : workspace.projectConfiguration = .ok config)
    (called : Except CommandError (Call String)) :
    (workspace.runOnStore config called).2.Settled := by
  have hstays := hsettled.opened config hconfig
  rcases workspace.runOnStore_cases config called with
    ⟨_, after, hrun, hafter⟩ | ⟨store, opened, call, _, hopened, hrun⟩
  · simp only [hrun]
    rcases hafter with hafter | hafter
    · rw [hafter]
      exact hsettled
    · rw [hafter, hstays]
      exact hsettled
  · have hsame : opened = workspace := by
      rw [hopened] at hstays
      exact hstays
    rw [hsame] at hopened hrun
    rw [hrun, runCall_files]
    exact hsettled.keepStore hconfig hopened _

/-- No line takes away what `init` has made. -/
theorem perform (hsettled : workspace.Settled) (typed : TypedLine) :
    (typed.perform workspace).2.Settled := by
  rcases workspace.run_cases typed.environment typed.now typed.line with
    ⟨reply, _, hrun⟩ | ⟨invocation, config, mode, _, hconfig, hrun⟩
  · simp only [TypedLine.perform, hrun]
    exact hsettled
  · simp only [TypedLine.perform, hrun]
    cases invocation.command with
    | init force =>
      rw [runCommand_init]
      exact settled_runInit _ _ _
    | check source destination =>
      rw [runCommand_check]
      exact hsettled
    | onStore command =>
      rw [runCommand_onStore]
      exact hsettled.runOnStore hconfig _

/-- A further `init` finds nothing to do. -/
theorem perform_again (hsettled : workspace.Settled) {typed : TypedLine}
    (hmakes : typed.Makes false) : (typed.perform workspace).2 = workspace := by
  obtain ⟨invocation, hline, hcommand⟩ := hmakes
  rcases workspace.run_cases typed.environment typed.now typed.line with
    ⟨reply, _, hrun⟩ | ⟨other, config, mode, hother, _, hrun⟩
  · simp only [TypedLine.perform, hrun]
  · obtain rfl : other = invocation := Option.some.inj (hother.symm.trans hline)
    simp only [TypedLine.perform, hrun, hcommand]
    rw [runCommand_init]
    exact hsettled.runInit _

end Settled

/-! ## The first of several -/

theorem runInit_of_opened {mode : OutputMode} {force : Bool} {config : ProjectConfig}
    {store : Store} {after : Workspace}
    (hconfig : (workspace.prepare force).projectConfiguration = .ok config)
    (hopened : (workspace.prepare force).openStore
      (config.storePath (workspace.prepare force).root) = (.ok store, after)) :
    workspace.runInit mode force =
      (.ok (initText mode (config.storePath (workspace.prepare force).root)
        (workspace.prepare force).configPath), after) := by
  unfold runInit
  generalize workspace.prepare force = prepared at hconfig hopened
  simp only
  rw [hconfig]
  simp only
  rw [hopened]

theorem runInit_ok {mode : OutputMode} {force : Bool} {output : String}
    (hmade : (workspace.runInit mode force).1 = .ok output) :
    ∃ config store after, (workspace.prepare force).projectConfiguration = .ok config ∧
      (workspace.prepare force).openStore (config.storePath (workspace.prepare force).root) =
        (.ok store, after) := by
  unfold runInit at hmade
  generalize workspace.prepare force = prepared at hmade
  simp only at hmade
  cases hconfig : prepared.projectConfiguration with
  | error error =>
    rw [hconfig] at hmade
    cases hmade
  | ok config =>
    rw [hconfig] at hmade
    simp only at hmade
    generalize hopened : prepared.openStore (config.storePath prepared.root) = outcome at hmade
    obtain ⟨result, after⟩ := outcome
    cases result with
    | error fault => cases hmade
    | ok store => exact ⟨config, store, after, rfl, hopened⟩

/-- A second `init` answers as the first did, and leaves what the first has left. -/
theorem runInit_again {mode : OutputMode} {force : Bool} {output : String}
    (hmade : (workspace.runInit mode force).1 = .ok output) :
    (∃ config, (workspace.runInit mode force).2.projectConfiguration = .ok config) ∧
      (workspace.runInit mode force).2.runInit mode false = workspace.runInit mode force := by
  obtain ⟨config, store, after, hconfig, hopened⟩ := runInit_ok hmade
  have hprepared := workspace.prepared_prepare force
  rw [runInit_of_opened hconfig hopened]
  generalize workspace.prepare force = prepared at hconfig hopened hprepared
  obtain ⟨hfiles, _⟩ := openStore_ok hopened
  have hafter : (prepared.openStore (config.storePath prepared.root)).2 = after := by rw [hopened]
  have hroot : after.root = prepared.root := by rw [← hafter, root_openStore]
  have hlater : after.projectConfiguration = .ok config := by
    rw [← hafter]
    exact hprepared.projectConfiguration_openStore hconfig
  have hsame : after.prepare false = after := by
    rw [← hafter]
    exact (hprepared.openStore _).prepare
  have hagain : (after.prepare false).openStore (config.storePath (after.prepare false).root) =
      (.ok store, after) := by
    rw [hsame, hroot, openStore_eq, FileTree.openStore_of_ok hfiles]
  refine ⟨⟨config, hlater⟩, ?_⟩
  simp only
  rw [runInit_of_opened (by rw [hsame]; exact hlater) hagain, hsame, hroot, configPath_congr hroot]

/-- What a line does that is to make the project, once the configurations can be read. -/
theorem perform_of_makes {typed : TypedLine} {invocation : Invocation} {force : Bool}
    {project : ProjectConfig} {user : UserConfig}
    (hline : typed.invocation? = some invocation) (hcommand : invocation.command = .init force)
    (hproject : workspace.projectConfiguration = .ok project)
    (huser : workspace.userConfiguration = .ok user) :
    let mode := OutputMode.resolve invocation.options.format
      (resolveOutput invocation.options.documents typed.environment user.output)
    typed.perform workspace =
      (.ofResult mode (workspace.runInit mode force).1, (workspace.runInit mode force).2) := by
  intro mode
  have hperform := perform_of_configured hline hproject huser
  simp only [hcommand, runCommand_init] at hperform
  exact hperform

/-- A line that makes the project with success has read both configurations. -/
theorem configured_of_success {typed : TypedLine} {force : Bool} (hmakes : typed.Makes force)
    (hsuccess : (typed.perform workspace).1.exitCode = 0) :
    ∃ project user, workspace.projectConfiguration = .ok project ∧
      workspace.userConfiguration = .ok user := by
  obtain ⟨invocation, hline, _⟩ := hmakes
  rw [TypedLine.perform, run] at hsuccess
  rw [TypedLine.invocation?] at hline
  rw [hline] at hsuccess
  cases hconfig : workspace.configuration invocation.options.documents typed.environment with
  | error error =>
    obtain ⟨mode, hrun⟩ := runInvocation_of_error hconfig typed.now
    simp only [hrun] at hsuccess
    exact absurd hsuccess (Reply.failure_exitCode_ne_zero mode _)
  | ok config =>
    obtain ⟨project, user, hproject, huser, _⟩ := configuration_eq_ok_iff.1 hconfig
    exact ⟨project, user, hproject, huser⟩

/-- The files that `init` leaves do not depend on how its result is shown. -/
theorem runInit_files (mode other : OutputMode) (force : Bool) :
    (workspace.runInit mode force).2 = (workspace.runInit other force).2 := by
  rcases workspace.runInit_cases mode force with ⟨_, hrun, hnone⟩ | ⟨config, _, hconfig, hrun⟩
  · rcases workspace.runInit_cases other force with ⟨_, hother, _⟩ | ⟨config, _, hconfig, _⟩
    · simp only [hrun, hother]
    · exact absurd hconfig (hnone config)
  · rcases workspace.runInit_cases other force with ⟨_, _, hnone⟩ | ⟨later, _, hlater, hother⟩
    · exact absurd hconfig (hnone config)
    · simp only [hrun, hother]
      rw [Except.ok.inj (hconfig.symm.trans hlater)]

theorem settled_of_success {typed : TypedLine} {force : Bool} (hmakes : typed.Makes force)
    (hsuccess : (typed.perform workspace).1.exitCode = 0) :
    (typed.perform workspace).2.Settled := by
  obtain ⟨project, user, hproject, huser⟩ := configured_of_success hmakes hsuccess
  obtain ⟨invocation, hline, hcommand⟩ := hmakes
  simp only [perform_of_makes hline hcommand hproject huser]
  exact settled_runInit _ _ _

/-- Where one line makes the project with success, any other that is to make it leaves the same
files. -/
theorem perform_files_of_makes {typed other : TypedLine} {force : Bool}
    (hmakes : typed.Makes force) (hsuccess : (typed.perform workspace).1.exitCode = 0)
    (hother : other.Makes force) : (other.perform workspace).2 = (typed.perform workspace).2 := by
  obtain ⟨project, user, hproject, huser⟩ := configured_of_success hmakes hsuccess
  obtain ⟨_, hline, hcommand⟩ := hmakes
  obtain ⟨_, hline', hcommand'⟩ := hother
  simp only [perform_of_makes hline hcommand hproject huser,
    perform_of_makes hline' hcommand' hproject huser]
  exact runInit_files _ _ _

/-- Typed a second time under the same preferences, a line that made the project with success
answers as before. -/
theorem perform_again_of_success {typed : TypedLine} (hmakes : typed.Makes false)
    (hsuccess : (typed.perform workspace).1.exitCode = 0)
    (huser : (typed.perform workspace).2.userConfiguration = workspace.userConfiguration) :
    typed.perform (typed.perform workspace).2 = typed.perform workspace := by
  obtain ⟨project, user, hproject, hread⟩ := configured_of_success hmakes hsuccess
  obtain ⟨invocation, hline, hcommand⟩ := hmakes
  obtain ⟨mode, hperform⟩ : ∃ mode, ∀ {current : Workspace} {config : ProjectConfig},
      current.projectConfiguration = .ok config → current.userConfiguration = .ok user →
        typed.perform current =
          (.ofResult mode (current.runInit mode false).1, (current.runInit mode false).2) :=
    ⟨_, fun hconfig hsame => perform_of_makes hline hcommand hconfig hsame⟩
  have hfirst := hperform hproject hread
  simp only [hfirst] at hsuccess huser ⊢
  obtain ⟨output, hmade⟩ := Reply.ofResult_exitCode_eq_zero_iff.1 hsuccess
  obtain ⟨⟨config, hconfig⟩, hagain⟩ := runInit_again hmade
  rw [hperform hconfig (huser.trans hread), hagain]

end Workspace

/-! ## Scripts -/

/-- A line of a script that was there from the start, or one that was added. -/
inductive ScriptLine where
  | original (typed : TypedLine)
  | added (typed : TypedLine)

namespace ScriptLine

def isOriginal : ScriptLine → Bool
  | original _ => true
  | added _ => false

end ScriptLine

namespace Workspace

/-- The replies to the original lines of a script, and the files in the end. -/
def transcript : List ScriptLine → Workspace → List Reply × Workspace
  | [], workspace => ([], workspace)
  | .original typed :: rest, workspace =>
    let (reply, after) := typed.perform workspace
    let (replies, last) := transcript rest after
    (reply :: replies, last)
  | .added typed :: rest, workspace => transcript rest (typed.perform workspace).2

theorem transcript_original (typed : TypedLine) (rest : List ScriptLine) (workspace : Workspace) :
    transcript (.original typed :: rest) workspace =
      ((typed.perform workspace).1 :: (transcript rest (typed.perform workspace).2).1,
        (transcript rest (typed.perform workspace).2).2) := rfl

theorem transcript_added (typed : TypedLine) (rest : List ScriptLine) (workspace : Workspace) :
    transcript (.added typed :: rest) workspace =
      transcript rest (typed.perform workspace).2 := rfl

/-- Once everything is there, added lines that are to make the project leave no trace. -/
theorem Settled.transcript {workspace : Workspace} (hsettled : workspace.Settled)
    {script : List ScriptLine} (hadded : ∀ typed, .added typed ∈ script → typed.Makes false) :
    transcript script workspace = transcript (script.filter ScriptLine.isOriginal) workspace := by
  induction script generalizing workspace with
  | nil => rfl
  | cons line rest ih =>
    have hrest : ∀ typed, .added typed ∈ rest → typed.Makes false :=
      fun typed htyped => hadded typed (List.mem_cons_of_mem _ htyped)
    cases line with
    | original typed =>
      have hlater := ih (hsettled.perform typed) hrest
      rw [List.filter_cons_of_pos rfl, transcript_original, transcript_original, hlater]
    | added typed =>
      rw [List.filter_cons_of_neg (by simp [ScriptLine.isOriginal]), transcript_added,
        hsettled.perform_again (hadded typed List.mem_cons_self)]
      exact ih hsettled hrest

theorem Settled.transcript_front {workspace : Workspace} (hsettled : workspace.Settled)
    {front : List TypedLine} (hfront : ∀ typed ∈ front, typed.Makes false)
    (rest : List ScriptLine) :
    Workspace.transcript (front.map .added ++ rest) workspace =
      Workspace.transcript rest workspace := by
  induction front with
  | nil => rfl
  | cons typed front ih =>
    obtain ⟨hmakes, hothers⟩ := List.forall_mem_cons.1 hfront
    rw [List.map_cons, List.cons_append, transcript_added, hsettled.perform_again hmakes]
    exact ih hothers

/-- In a script that starts by making the project with success, lines that are to make it again can
be added anywhere: the original lines are answered as before, and the files are the same in the
end.  They can also be added before the first line, unless that one puts the configuration back,
provided that making the project does not touch the user's own configuration. -/
theorem added_init_leaves_no_trace {start : Workspace} {first : TypedLine} {force : Bool}
    {front : List TypedLine} {script : List ScriptLine} (hfirst : first.Makes force)
    (hsuccess : (first.perform start).1.exitCode = 0)
    (hadded : ∀ typed, .added typed ∈ script → typed.Makes false)
    (hfront : front ≠ [] → force = false ∧ (∀ typed ∈ front, typed.Makes false) ∧
      (first.perform start).2.userConfiguration = start.userConfiguration) :
    transcript (front.map .added ++ .original first :: script) start =
      transcript (.original first :: script.filter ScriptLine.isOriginal) start := by
  have hsettled := settled_of_success hfirst hsuccess
  have hrest := hsettled.transcript hadded
  cases front with
  | nil => rw [List.map_nil, List.nil_append, transcript_original, transcript_original, hrest]
  | cons head tail =>
    obtain ⟨rfl, hmakes, huser⟩ := hfront (by simp)
    obtain ⟨hhead, htail⟩ := List.forall_mem_cons.1 hmakes
    have hagain := perform_again_of_success hfirst hsuccess huser
    rw [List.map_cons, List.cons_append, transcript_added,
      perform_files_of_makes hfirst hsuccess hhead, hsettled.transcript_front htail,
      transcript_original, transcript_original, hagain, hrest]

/-- A script with `init` typed again before, between and after its lines. -/
def repeatedInit : List ScriptLine :=
  [.added { line := ["init"] }, .original { line := ["object", "add", "Control", "1"] },
    .added { line := ["--json", "init"] }, .original { line := ["object", "list"] }]

theorem repeated_init_lists_control :
    let start := ofConfigs "/p" "/u" (some "") none
    let first : TypedLine := { line := ["init"] }
    let again : TypedLine := { line := ["init", "--json"] }
    transcript (.added again :: .original first :: repeatedInit) start =
        transcript (.original first :: repeatedInit.filter ScriptLine.isOriginal) start ∧
      (transcript (.original first :: repeatedInit) start).1.map Reply.exitCode = [0, 0, 0] := by
  intro start first again
  have hmakes : ∀ {typed : TypedLine} (options : GlobalOptions),
      typed.invocation? = some { options, external := false, command := .init false } →
        typed.Makes false := fun _ hline => ⟨_, hline, rfl⟩
  have hfirst : first.Makes false := hmakes {} (by decide +kernel)
  have hagain : again.Makes false := hmakes { documents := true } (by decide +kernel)
  have hadded : ∀ typed, .added typed ∈ repeatedInit → typed.Makes false := by
    intro typed htyped
    simp only [repeatedInit, List.mem_cons, reduceCtorEq, ScriptLine.added.injEq, List.not_mem_nil,
      or_false, false_or] at htyped
    rcases htyped with rfl | rfl
    · exact hmakes {} (by decide +kernel)
    · exact hmakes { documents := true } (by decide +kernel)
  have hsuccess : (first.perform start).1.exitCode = 0 := by decide +kernel
  have huser : (first.perform start).2.userConfiguration = start.userConfiguration := by
    rw [userConfiguration_of_none (by decide +kernel)]
    rw [userConfiguration_of_none (by decide +kernel)]
  refine ⟨?_, by decide +kernel⟩
  have hfront : ∀ typed ∈ [again], typed.Makes false := List.forall_mem_singleton.2 hagain
  exact added_init_leaves_no_trace hfirst hsuccess hadded fun _ => ⟨rfl, hfront, huser⟩

end Workspace

end RecordGraph
