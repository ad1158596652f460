import RecordGraph.Proofs.MappingDryRun
import RecordGraph.Proofs.RepeatedInit
import RecordGraph.Proofs.WrittenLines

/-!
# Lines that map records, and lines that ask first

A project serves a store if it can open it under the configuration that it has.  There a line that
asks the policy succeeds where the policy lets the types pass, and a line that maps two records
succeeds where its call does.  So mapping can be refused after the policy has agreed for two reasons
only: a type is not relatable, or no line can name records of it.
-/

namespace RecordGraph

/-- Who acts when an invocation is run under a configuration. -/
def Invocation.actor (config : ProjectConfig) (invocation : Invocation) : Actor :=
  ⟨invocation.options.user.getD config.actor.userId, invocation.external || config.actor.external⟩

namespace TypedLine

/-- Under the configuration, the line is the actor's and asks for the command. -/
def Asks (typed : TypedLine) (config : ProjectConfig) (actor : Actor) (command : Command) : Prop :=
  ∃ invocation, typed.invocation? = some invocation ∧ invocation.actor config = actor ∧
    invocation.command = command

/-- The actor asks to map one record to the other; the edge is not derived from any. -/
def AsksToMap (typed : TypedLine) (config : ProjectConfig) (actor : Actor)
    (source destination : Stub) : Prop :=
  ∃ external, typed.Asks config actor (.onStore (.map source destination external none))

/-- A line that maps two records names both. -/
theorem AsksToMap.writable {typed : TypedLine} {config : ProjectConfig} {actor : Actor}
    {source destination : Stub} (hasks : typed.AsksToMap config actor source destination) :
    source.Writable ∧ destination.Writable := by
  obtain ⟨external, invocation, hline, _, hcommand⟩ := hasks
  have hstubs := Invocation.namesWritable hline
  rw [hcommand] at hstubs
  exact ⟨hstubs source (by simp [Command.stubs, StoreCommand.stubs]),
    hstubs destination (by simp [Command.stubs, StoreCommand.stubs])⟩

/-- There is such a line for any two records that can be named.  An actor who is no trusted
integration has it unless the configuration makes everybody one. -/
theorem exists_asksToMap {config : ProjectConfig} {actor : Actor} {source destination : Stub}
    (huser : Decimal.InRange actor.userId)
    (hexternal : config.actor.external = true → actor.external = true)
    (hsource : source.Writable) (hdestination : destination.Writable) :
    ∃ typed : TypedLine, typed.AsksToMap config actor source destination := by
  refine ⟨{ line := mapLine actor source destination }, false, _,
    Invocation.read?_mapLine huser hsource hdestination, ?_, rfl⟩
  obtain ⟨userId, external⟩ := actor
  cases external with
  | false =>
    have hinternal : config.actor.external = false :=
      Bool.eq_false_iff.2 fun hconfig => Bool.false_ne_true (hexternal hconfig)
    simp [Invocation.actor, hinternal]
  | true => simp [Invocation.actor]

end TypedLine

namespace Workspace

/-! ## Projects that serve a store -/

/-- The project has the configuration, and a command on its store finds these rows. -/
structure Serves (workspace : Workspace) (config : ProjectConfig) (store : Store) : Prop where
  configured : workspace.projectConfiguration = .ok config
  preferred : ∃ user, workspace.userConfiguration = .ok user
  made : workspace.initialized = true
  opens : (workspace.openStore (config.storePath workspace.root)).1 = .ok store
  patient : config.store.busyTimeoutMs ≤ maxBusyTimeout

/-- The project directory is not where rows are kept. -/
theorem initialized_keepStore {workspace : Workspace} {path : String} {store : Store}
    (hstands : workspace.files.find? (Path.place path) = some (.store store))
    (hmade : workspace.initialized = true) (kept : Store) :
    (workspace.keepStore path kept).initialized = true := by
  have hapart : Path.place workspace.projectPath ≠ Path.place path := by
    intro hplace
    rw [initialized, FileTree.isDirectory, hplace, hstands] at hmade
    cases hmade
  have hpath : (workspace.keepStore path kept).projectPath = workspace.projectPath := rfl
  have hsame : (workspace.keepStore path kept).files.find? (Path.place workspace.projectPath) =
      workspace.files.find? (Path.place workspace.projectPath) :=
    FileTree.find?_put_of_ne _ _ hapart
  rw [← hmade, initialized, initialized, FileTree.isDirectory, FileTree.isDirectory, hpath, hsame]

namespace Serves

variable {workspace : Workspace} {config : ProjectConfig} {store : Store} {typed : TypedLine}
  {actor : Actor}

/-- A line does what its command does, in a session of its actor. -/
theorem perform (hserves : workspace.Serves config store) {command : Command}
    (hasks : typed.Asks config actor command) :
    ∃ session : Session, session.registry = .ofExtension config.registry ∧
      session.actor = actor ∧
      typed.perform workspace = (.ofResult session.mode
        (workspace.runCommand config session command).1,
          (workspace.runCommand config session command).2) := by
  obtain ⟨invocation, hline, rfl, rfl⟩ := hasks
  obtain ⟨user, huser⟩ := hserves.preferred
  exact ⟨_, rfl, rfl, perform_of_configured hline hserves.configured huser⟩

theorem runOnStore (hserves : workspace.Serves config store) (call : Call String) :
    ∃ opened : Workspace, workspace.runOnStore config (.ok call) =
      opened.runCall (config.storePath workspace.root) store call := by
  have hopens := hserves.opens
  simp only [Workspace.runOnStore, hserves.made, if_true]
  generalize workspace.openStore (config.storePath workspace.root) = outcome at hopens ⊢
  obtain ⟨_, opened⟩ := outcome
  cases hopens
  exact ⟨opened, if_neg (Nat.not_lt.2 hserves.patient)⟩

/-- The project serves any other rows just as well, once its store has been opened. -/
theorem keepStore (hserves : workspace.Serves config store)
    (hopened : (workspace.openStore (config.storePath workspace.root)).2 = workspace)
    (kept : Store) :
    (workspace.keepStore (config.storePath workspace.root) kept).Serves config kept := by
  have hopens : workspace.openStore (config.storePath workspace.root) = (.ok store, workspace) :=
    Prod.ext hserves.opens hopened
  obtain ⟨hfiles, _⟩ := openStore_ok hopens
  have hstands := (FileTree.openStore_ok hfiles).1
  obtain ⟨user, huser⟩ := hserves.preferred
  obtain ⟨text, htext, hload⟩ := bind_eq_ok_iff.1 huser
  exact {
    configured := projectConfiguration_keepStore hstands hserves.configured kept
    preferred := ⟨user, bind_eq_ok_iff.2 ⟨text, configText_keepStore hstands htext kept, hload⟩⟩
    made := initialized_keepStore hstands hserves.made kept
    opens := by
      rw [openStore_eq]
      simp only [Workspace.keepStore, FileTree.openStore_keepStore hfiles]
    patient := hserves.patient }

/-! ## What the lines answer -/

/-- Asking the policy succeeds where the policy lets the types pass. -/
theorem check_iff (hserves : workspace.Serves config store) {source destination : String}
    (hasks : typed.Asks config actor (.check source destination)) :
    (typed.perform workspace).1.exitCode = 0 ↔
      Graph.checkPair (.ofExtension config.registry) actor source destination = .ok () := by
  obtain ⟨session, hregistry, hactor, hperform⟩ := hserves.perform hasks
  rw [hperform, runCommand_check, Reply.ofResult_exitCode_eq_zero_iff, ← hregistry, ← hactor]
  exact Session.allows_iff

/-- Mapping succeeds where, besides, both types are relatable. -/
theorem map_iff (hserves : workspace.Serves config store) {first second : Stub}
    (hpair : store.Unmapped first second) (hasks : typed.AsksToMap config actor first second) :
    (typed.perform workspace).1.exitCode = 0 ↔
      Graph.checkPair (.ofExtension config.registry) actor first.type second.type = .ok () ∧
        config.registry.MakesRelatable first.type ∧
        config.registry.MakesRelatable second.type := by
  obtain ⟨external, hasks⟩ := hasks
  obtain ⟨session, hregistry, hactor, hperform⟩ := hserves.perform hasks
  obtain ⟨opened, hcall⟩ :=
    hserves.runOnStore (session.map first second external none)
  have hmaps := session.maps_iff hpair external
  rw [Session.allows_iff, hregistry, hactor, TypeRegistry.isRelatable_ofExtension_iff,
    TypeRegistry.isRelatable_ofExtension_iff] at hmaps
  rw [hperform, runCommand_onStore, Reply.ofResult_exitCode_eq_zero_iff, ← hmaps, StoreCommand.call,
    hcall]
  exact exists_congr fun _ => runCall_eq_ok_iff

end Serves

end Workspace

/-- Any two unrelated records of the types can be mapped: whichever project serves the configuration
and the store, the actor has a line for it, and every such line succeeds. -/
def ProjectConfig.MapsAll (config : ProjectConfig) (actor : Actor) (source destination : String) :
    Prop :=
  ∀ (workspace : Workspace) (store : Store) (first second : Stub), workspace.Serves config store →
    store.Unrelated first second → first.type = source → second.type = destination →
      (∃ typed : TypedLine, typed.AsksToMap config actor first second) ∧
        ∀ typed : TypedLine, typed.AsksToMap config actor first second →
          (typed.perform workspace).1.exitCode = 0

namespace Workspace

/-- Once a project has opened its store, the types of which its lines map any two records are those
that the policy lets pass, that are relatable, and that references can name. -/
theorem Serves.mapsAll_iff {workspace : Workspace} {config : ProjectConfig} {kept : Store}
    {actor : Actor} {source destination : String} (hserves : workspace.Serves config kept)
    (hopened : (workspace.openStore (config.storePath workspace.root)).2 = workspace)
    (huser : Decimal.InRange actor.userId)
    (hexternal : config.actor.external = true → actor.external = true)
    (hsource : Store.isBlankType source = false)
    (hdestination : Store.isBlankType destination = false)
    (hplainSource : source ≠ snapshotType) (hplainDestination : destination ≠ snapshotType) :
    config.MapsAll actor source destination ↔
      (Graph.checkPair (.ofExtension config.registry) actor source destination = .ok () ∧
        config.registry.MakesRelatable source ∧ config.registry.MakesRelatable destination) ∧
      Stub.NamesType source.toList ∧ Stub.NamesType destination.toList := by
  constructor
  · intro hall
    obtain ⟨store, hpair⟩ :=
      Store.exists_unrelated hsource hdestination hplainSource hplainDestination
    have hproject := hserves.keepStore hopened store
    obtain ⟨⟨typed, hasks⟩, hsuccess⟩ := hall _ store _ _ hproject hpair rfl rfl
    obtain ⟨hfirst, hsecond⟩ := hasks.writable
    exact ⟨(hproject.map_iff hpair.toUnmapped hasks).1 (hsuccess typed hasks), hfirst.1, hsecond.1⟩
  · rintro ⟨hmappable, hname, hother⟩ project store first second hproject hpair rfl rfl
    refine ⟨?_, fun typed hasks => (hproject.map_iff hpair.toUnmapped hasks).2 hmappable⟩
    exact TypedLine.exists_asksToMap huser hexternal ⟨hname, hpair.sourceNumber⟩
      ⟨hother, hpair.destinationNumber⟩

/-- An actor's line has asked the policy about two types.  The actor's lines map two records of
these types where the policy agreed and both types are relatable, whatever rows the project keeps.
If both types are names as well, any two unrelated records of them can be mapped, and only then; so
it is with all types that records other than snapshots can have. -/
theorem check_and_relatable_iff_maps {workspace : Workspace} {config : ProjectConfig} {kept : Store}
    {actor : Actor} {asked : TypedLine} {source destination : String}
    (hserves : workspace.Serves config kept)
    (hopened : (workspace.openStore (config.storePath workspace.root)).2 = workspace)
    (huser : Decimal.InRange actor.userId)
    (hasked : asked.Asks config actor (.check source destination)) :
    let mappable := (asked.perform workspace).1.exitCode = 0 ∧
      config.registry.MakesRelatable source ∧ config.registry.MakesRelatable destination
    (∀ (project : Workspace) (store : Store) (first second : Stub) (typed : TypedLine),
        project.Serves config store → store.Unmapped first second → first.type = source →
          second.type = destination → typed.AsksToMap config actor first second →
            ((typed.perform project).1.exitCode = 0 ↔ mappable)) ∧
      (Store.isBlankType source = false → Store.isBlankType destination = false →
        source ≠ snapshotType → destination ≠ snapshotType →
          (mappable ∧ Stub.NamesType source.toList ∧ Stub.NamesType destination.toList ↔
            config.MapsAll actor source destination)) := by
  intro mappable
  have hcheck := hserves.check_iff hasked
  have hexternal : config.actor.external = true → actor.external = true := by
    obtain ⟨invocation, _, rfl, _⟩ := hasked
    intro hconfig
    simp [Invocation.actor, hconfig]
  refine ⟨?_, ?_⟩
  · rintro project store first second typed hproject hpair rfl rfl hasks
    rw [hproject.map_iff hpair hasks, ← hcheck]
  · intro hsource hdestination hplainSource hplainDestination
    rw [hserves.mapsAll_iff hopened huser hexternal hsource hdestination hplainSource
      hplainDestination, ← hcheck]

/-- A configuration with a type whose records are never ends of edges, and with one whose records
could be ends of edges but cannot be named. -/
def memoTypes : String :=
  "[registry]\nrelatable_types = [\"Data Asset\"]\nnon_relatable_types = [\"Memo\"]\n"

def memoConfig : ProjectConfig :=
  { registry := { relatable := ["Data Asset"], nonRelatable := ["Memo"] } }

/-- A project that was just made under that configuration. -/
def memoProject : Workspace :=
  (({ line := ["init"] } : TypedLine).perform (ofConfigs "/p" "/u" (some memoTypes) none)).2

theorem serves_memoProject : memoProject.Serves memoConfig {} := by
  have hnone : memoProject.files.find? (Path.place memoProject.userConfigPath) = none := by
    decide +kernel
  exact {
    configured := by decide +kernel
    preferred := ⟨{}, userConfiguration_of_none hnone⟩
    made := by decide +kernel
    opens := by decide +kernel
    patient := by decide }

theorem memoProject_opened :
    (memoProject.openStore (memoConfig.storePath memoProject.root)).2 = memoProject := by
  have hmakes : TypedLine.Makes { line := ["init"] } false :=
    ⟨{ options := {}, external := false, command := .init false }, by decide +kernel, rfl⟩
  have hsettled : memoProject.Settled := by
    rw [memoProject]
    exact settled_of_success hmakes (by decide +kernel)
  exact hsettled.opened _ serves_memoProject.configured

/-- A line by which the default user of that project asks the policy. -/
def askingAbout (source destination : String) : TypedLine :=
  { line := ["check", source, destination] }

theorem asks_askingAbout {source destination : String}
    (hline : (askingAbout source destination).invocation? =
      some { options := {}, external := false, command := .check source destination }) :
    (askingAbout source destination).Asks memoConfig ⟨1, false⟩ (.check source destination) :=
  ⟨_, hline, rfl, rfl⟩

/-- A control and an issue that are not related. -/
def controlAndIssue : Store :=
  { objects := [Object.draft "Control" 1 "Access review", Object.draft "Issue" 2 "Stale accounts"] }

theorem control_issue_mapped :
    let project := memoProject.keepStore (memoConfig.storePath memoProject.root) controlAndIssue
    let line : TypedLine := { line := ["map", "Control#1", "Issue#2"] }
    (line.perform project).1.exitCode = 0 ∧ memoConfig.MapsAll ⟨1, false⟩ "Control" "Issue" ∧
      ¬memoConfig.MapsAll ⟨1, false⟩ "Memo" "Control" := by
  intro project line
  have hproject := serves_memoProject.keepStore memoProject_opened controlAndIssue
  have hpair : controlAndIssue.Unmapped ⟨"Control", 1⟩ ⟨"Issue", 2⟩ := {
    numbered := ⟨by simp [controlAndIssue], by simp [controlAndIssue], List.Pairwise.nil⟩
    room := by decide
    sourceStored := by decide
    destinationStored := by decide
    sourcePlain := by decide
    destinationPlain := by decide
    unmapped := by decide }
  have hline : line.AsksToMap memoConfig ⟨1, false⟩ ⟨"Control", 1⟩ ⟨"Issue", 2⟩ :=
    ⟨false, { options := {}, external := false
              command := .onStore (.map ⟨"Control", 1⟩ ⟨"Issue", 2⟩ false none) },
      by decide +kernel, rfl, rfl⟩
  have hasks := @asks_askingAbout "Control" "Issue" (by decide +kernel)
  have hasksMemo := @asks_askingAbout "Memo" "Control" (by decide +kernel)
  have hallows : ((askingAbout "Control" "Issue").perform memoProject).1.exitCode = 0 := by
    decide +kernel
  have hcontrol : memoConfig.registry.MakesRelatable "Control" := by
    simp [RegistryExtension.MakesRelatable, memoConfig, TypeRegistry.builtinRelatable]
  have hissue : memoConfig.registry.MakesRelatable "Issue" := by
    simp [RegistryExtension.MakesRelatable, memoConfig, TypeRegistry.builtinRelatable]
  have hmemo : ¬memoConfig.registry.MakesRelatable "Memo" := by
    simp [RegistryExtension.MakesRelatable, memoConfig]
  have huser : Decimal.InRange (1 : Int) := by decide
  obtain ⟨hone, hall⟩ :=
    check_and_relatable_iff_maps serves_memoProject memoProject_opened huser hasks
  obtain ⟨_, hnone⟩ :=
    check_and_relatable_iff_maps serves_memoProject memoProject_opened huser hasksMemo
  have hmappable := And.intro hallows (And.intro hcontrol hissue)
  refine ⟨?_, ?_, ?_⟩
  · exact (hone project controlAndIssue _ _ line hproject hpair rfl rfl hline).2 hmappable
  · exact (hall (by decide) (by decide) (by decide) (by decide)).1
      ⟨hmappable, by simp [Stub.NamesType], by simp [Stub.NamesType]⟩
  · intro hmaps
    exact hmemo ((hnone (by decide) (by decide) (by decide) (by decide)).2 hmaps).1.2.1

/-- The policy lets pairs of types pass of which no line maps any two records: a type can be plain,
or no name. -/
theorem check_allows_unmappable :
    ¬(((askingAbout "Memo" "Control").perform memoProject).1.exitCode = 0 ↔
        memoConfig.MapsAll ⟨1, false⟩ "Memo" "Control") ∧
      ¬(((askingAbout "Data Asset" "Control").perform memoProject).1.exitCode = 0 ↔
        memoConfig.MapsAll ⟨1, false⟩ "Data Asset" "Control") := by
  have hmaps : ∀ {type}, Store.isBlankType type = false → type ≠ snapshotType →
      memoConfig.MapsAll ⟨1, false⟩ type "Control" →
        memoConfig.registry.MakesRelatable type ∧ Stub.NamesType type.toList := by
    intro type hblank hplain hall
    obtain ⟨⟨_, hrelatable, _⟩, hname, _⟩ := (serves_memoProject.mapsAll_iff memoProject_opened
      (by decide) (by decide) hblank (by decide) hplain (by decide)).1 hall
    exact ⟨hrelatable, hname⟩
  refine ⟨fun hagree => ?_, fun hagree => ?_⟩
  · have hrelatable := (hmaps (by decide) (by decide) (hagree.1 (by decide +kernel))).1
    exact hrelatable.1 (by simp [memoConfig])
  · have hname := (hmaps (by decide) (by decide) (hagree.1 (by decide +kernel))).2
    exact absurd hname (by simp [Stub.NamesType])

end Workspace

end RecordGraph
