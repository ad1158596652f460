import RecordGraph.Schema

/-!
# Migrations from any start

A script creates what is missing and leaves alone what is there.  So it may be run again on a
database that has its tables, whatever rows are in them and whatever version the database gives
itself.  A migration runs the scripts above that version.  It succeeds unless the version is
negative or claims tables that were never made, and otherwise changes nothing.
-/

namespace RecordGraph.Schema

/-- Nothing is in a table, and no number has been given out there. -/
def Database.Vacant (database : Database) : Table → Prop
  | .objects => database.rows.objects = []
  | .relationships => database.rows.relationships = [] ∧ database.rows.lastRelationshipId = 0
  | .automappings => database.rows.automappings = [] ∧ database.rows.lastAutomappingId = 0
  | .importExports => database.rows.jobs = [] ∧ database.rows.lastJobId = 0
  | .storeMeta => database.metaVersion = none

/-- Rows are only in tables that exist. -/
def Contained (database : Database) : Prop :=
  ∀ table, table ∉ database.tables → database.Vacant table

/-- What is there stays, rows and all. -/
structure Extends (before after : Database) : Prop where
  tables : before.tables ⊆ after.tables
  indexes : before.indexes ⊆ after.indexes
  rows : after.rows = before.rows
  noted : before.metaVersion.isSome = true → after.metaVersion.isSome = true

variable {database before between after : Database} {statement : Statement}
variable {script : List Statement} {table : Table}

theorem Extends.refl (database : Database) : Extends database database :=
  ⟨List.Subset.refl _, List.Subset.refl _, rfl, id⟩

theorem Extends.trans (hfirst : Extends before between) (hsecond : Extends between after) :
    Extends before after where
  tables := List.Subset.trans hfirst.tables hsecond.tables
  indexes := List.Subset.trans hfirst.indexes hsecond.indexes
  rows := hsecond.rows.trans hfirst.rows
  noted hnoted := hsecond.noted (hfirst.noted hnoted)

/-- Emptying a table in which nothing is changes nothing. -/
theorem emptied_of_vacant (hvacant : database.Vacant table) : database.emptied table = database := by
  obtain ⟨tables, indexes, userVersion, metaVersion, rows⟩ := database
  obtain ⟨objects, relationships, automappings, jobs, lastEdge, lastRun, lastJob⟩ := rows
  cases table with
  | objects =>
    cases hvacant
    rfl
  | storeMeta =>
    cases hvacant
    rfl
  | _ =>
    obtain ⟨hrows, hlast⟩ := hvacant
    cases hrows
    cases hlast
    rfl

theorem contained_empty : Contained {} := by
  intro table _
  cases table with
  | relationships => exact ⟨rfl, rfl⟩
  | automappings => exact ⟨rfl, rfl⟩
  | importExports => exact ⟨rfl, rfl⟩
  | _ => rfl

/-- Rows stay in tables while tables are made, and a version is noted in its table only. -/
theorem Contained.of_extends (hcontained : Contained before) (hextends : Extends before after)
    (hnoted : .storeMeta ∉ after.tables → after.metaVersion = before.metaVersion) :
    Contained after := by
  intro table htable
  have hvacant := hcontained table fun hbefore => htable (hextends.tables hbefore)
  cases table with
  | storeMeta => exact (hnoted htable).trans hvacant
  | _ => simpa only [Database.Vacant, hextends.rows] using hvacant

/-! ## Statements -/

/-- The tables that a statement may fail without. -/
def Statement.needs : Statement → List Table
  | createTable _ => []
  | createIndex index => [index.table]
  | noteVersion _ => [.storeMeta]
  | changeVersion _ => [.storeMeta]

def Statement.makes : Statement → List Table
  | createTable table => [table]
  | _ => []

/-- What a statement is there for. -/
def Statement.Achieved : Statement → Database → Prop
  | createTable table, database => table ∈ database.tables
  | createIndex index, database => index ∈ database.indexes
  | noteVersion _, database => database.metaVersion.isSome = true
  | changeVersion _, database => .storeMeta ∈ database.tables

theorem Statement.Achieved.mono (hachieved : statement.Achieved before)
    (hextends : Extends before after) : statement.Achieved after := by
  cases statement with
  | createTable table => exact hextends.tables hachieved
  | createIndex index => exact hextends.indexes hachieved
  | noteVersion version => exact hextends.noted hachieved
  | changeVersion version => exact hextends.tables hachieved

/-- What a statement makes of a database. -/
structure Executed (statement : Statement) (before after : Database) : Prop where
  extended : Extends before after
  contained : Contained after
  achieved : statement.Achieved after
  /-- It makes no other table. -/
  tables : ∀ table ∈ after.tables, table ∈ before.tables ∨ statement = .createTable table

theorem needTable_eq_ok_iff :
    needTable database table between = .ok after ↔ table ∈ database.tables ∧ between = after := by
  rw [needTable]
  split
  · next htable => simp [htable]
  · next htable => simp [htable]

theorem executed_of_ok (hcontained : Contained before)
    (hexecute : execute before statement = .ok after) : Executed statement before after := by
  cases statement with
  | createTable table =>
    rw [execute] at hexecute
    split at hexecute
    · next htable =>
      cases hexecute
      exact ⟨.refl _, hcontained, htable, fun _ => .inl⟩
    · next htable =>
      rw [emptied_of_vacant (hcontained table htable)] at hexecute
      cases hexecute
      have hextends : Extends before { before with tables := table :: before.tables } :=
        ⟨List.subset_cons_self _ _, List.Subset.refl _, rfl, id⟩
      refine ⟨hextends, hcontained.of_extends hextends fun _ => rfl, List.mem_cons_self, ?_⟩
      intro other hother
      rcases List.mem_cons.1 hother with rfl | hbefore
      · exact .inr rfl
      · exact .inl hbefore
  | createIndex index =>
    rw [execute] at hexecute
    split at hexecute
    · next hindex =>
      cases hexecute
      exact ⟨.refl _, hcontained, hindex, fun _ => .inl⟩
    · obtain ⟨_, rfl⟩ := needTable_eq_ok_iff.1 hexecute
      have hextends : Extends before { before with indexes := index :: before.indexes } :=
        ⟨List.Subset.refl _, List.subset_cons_self _ _, rfl, id⟩
      exact ⟨hextends, hcontained.of_extends hextends fun _ => rfl, List.mem_cons_self,
        fun _ => .inl⟩
  | noteVersion version =>
    obtain ⟨htable, rfl⟩ := needTable_eq_ok_iff.1 hexecute
    have hextends : Extends before
        { before with metaVersion := some (before.metaVersion.getD version) } :=
      ⟨List.Subset.refl _, List.Subset.refl _, rfl, fun _ => rfl⟩
    exact ⟨hextends, hcontained.of_extends hextends (absurd htable), rfl, fun _ => .inl⟩
  | changeVersion version =>
    obtain ⟨htable, rfl⟩ := needTable_eq_ok_iff.1 hexecute
    have hextends : Extends before
        { before with metaVersion := before.metaVersion.map fun _ => version } :=
      ⟨List.Subset.refl _, List.Subset.refl _, rfl, fun hnoted => by simpa using hnoted⟩
    exact ⟨hextends, hcontained.of_extends hextends (absurd htable), htable, fun _ => .inl⟩

theorem exists_execute_of_needs (hneeds : statement.needs ⊆ database.tables) :
    ∃ after, execute database statement = .ok after := by
  cases statement with
  | createTable table =>
    rw [execute]
    split
    · exact ⟨_, rfl⟩
    · exact ⟨_, rfl⟩
  | createIndex index =>
    rw [execute]
    split
    · exact ⟨_, rfl⟩
    · exact ⟨_, needTable_eq_ok_iff.2 ⟨hneeds List.mem_cons_self, rfl⟩⟩
  | noteVersion version => exact ⟨_, needTable_eq_ok_iff.2 ⟨hneeds List.mem_cons_self, rfl⟩⟩
  | changeVersion version => exact ⟨_, needTable_eq_ok_iff.2 ⟨hneeds List.mem_cons_self, rfl⟩⟩

/-! ## Scripts -/

/-- What a script makes of a database. -/
structure Ran (script : List Statement) (before after : Database) : Prop where
  extended : Extends before after
  contained : Contained after
  achieved : ∀ statement ∈ script, statement.Achieved after
  tables : ∀ table ∈ after.tables, table ∈ before.tables ∨ .createTable table ∈ script

theorem ran_of_ok (hcontained : Contained before)
    (hscript : executeAll before script = .ok after) : Ran script before after := by
  induction script generalizing before with
  | nil =>
    cases hscript
    exact ⟨.refl _, hcontained, fun _ hstatement => (nomatch hstatement), fun _ => .inl⟩
  | cons statement rest ih =>
    rw [executeAll] at hscript
    cases hexecute : execute before statement with
    | error failure =>
      rw [hexecute] at hscript
      cases hscript
    | ok between =>
      rw [hexecute] at hscript
      have hfirst := executed_of_ok hcontained hexecute
      have hrest := ih hfirst.contained hscript
      refine ⟨hfirst.extended.trans hrest.extended, hrest.contained, ?_, ?_⟩
      · intro other hother
        rcases List.mem_cons.1 hother with rfl | hlater
        · exact hfirst.achieved.mono hrest.extended
        · exact hrest.achieved other hlater
      · intro table htable
        rcases hrest.tables table htable with hbetween | hcreated
        · rcases hfirst.tables table hbetween with hbefore | rfl
          · exact .inl hbefore
          · exact .inr List.mem_cons_self
        · exact .inr (List.mem_cons_of_mem _ hcreated)

/-- Every table that a script needs is given or made by the script before. -/
def runnable (tables : List Table) : List Statement → Bool
  | [] => true
  | statement :: rest =>
    statement.needs.all (fun table => tables.contains table) &&
      runnable (statement.makes ++ tables) rest

theorem Executed.makes (hexecuted : Executed statement before after) :
    statement.makes ⊆ after.tables := by
  cases statement with
  | createTable table => exact List.cons_subset.2 ⟨hexecuted.achieved, List.nil_subset _⟩
  | _ => exact List.nil_subset _

theorem exists_executeAll_of_runnable {tables : List Table} (hcontained : Contained database)
    (hrunnable : runnable tables script = true) (htables : tables ⊆ database.tables) :
    ∃ after, executeAll database script = .ok after := by
  induction script generalizing tables database with
  | nil => exact ⟨database, rfl⟩
  | cons statement rest ih =>
    rw [runnable, Bool.and_eq_true, List.all_eq_true] at hrunnable
    obtain ⟨hneeded, hrest⟩ := hrunnable
    have hneeds : statement.needs ⊆ database.tables := fun table htable =>
      htables (List.contains_iff_mem.1 (hneeded table htable))
    obtain ⟨between, hexecute⟩ := exists_execute_of_needs hneeds
    have hexecuted := executed_of_ok hcontained hexecute
    rw [executeAll, hexecute]
    refine ih hexecuted.contained hrest (List.append_subset.2 ⟨hexecuted.makes, ?_⟩)
    exact List.Subset.trans htables hexecuted.extended.tables

/-! ## Steps -/

/-- A step runs its script, sets the version of the database and changes the noted one. -/
theorem takeStep_eq_ok_iff {version : Nat} :
    takeStep database version script = .ok after ↔
      ∃ between, executeAll database script = .ok between ∧ .storeMeta ∈ between.tables ∧
        { setVersion between version with
          metaVersion := between.metaVersion.map fun _ => version } = after := by
  rw [takeStep]
  cases executeAll database script with
  | error failure => simp
  | ok between =>
    simp only [Except.ok.injEq, exists_eq_left']
    exact needTable_eq_ok_iff

theorem ran_of_takeStep {version : Nat} (hcontained : Contained before)
    (hstep : takeStep before version script = .ok after) : Ran script before after := by
  obtain ⟨between, hscript, hnoted, rfl⟩ := takeStep_eq_ok_iff.1 hstep
  have hran := ran_of_ok hcontained hscript
  have hextends : Extends between { setVersion between version with
      metaVersion := between.metaVersion.map fun _ => version } :=
    ⟨List.Subset.refl _, List.Subset.refl _, rfl, fun hnoted => by simpa using hnoted⟩
  exact ⟨hran.extended.trans hextends, hran.contained.of_extends hextends (absurd hnoted),
    fun statement hstatement => (hran.achieved statement hstatement).mono hextends, hran.tables⟩

theorem exists_takeStep_of_runnable {tables : List Table} (hcontained : Contained database)
    (hrunnable : runnable tables script = true) (htables : tables ⊆ database.tables)
    (hnoted : .storeMeta ∈ tables ∨ .createTable .storeMeta ∈ script) (version : Nat) :
    ∃ after, takeStep database version script = .ok after := by
  obtain ⟨between, hscript⟩ := exists_executeAll_of_runnable hcontained hrunnable htables
  have hran := ran_of_ok hcontained hscript
  refine ⟨_, takeStep_eq_ok_iff.2 ⟨between, hscript, ?_, rfl⟩⟩
  rcases hnoted with hgiven | hmade
  · exact hran.extended.tables (htables hgiven)
  · exact hran.achieved _ hmade

theorem versions_of_takeStep {version : Nat} (hstep : takeStep before version script = .ok after)
    (hversion : version ≤ 2147483647) :
    after.userVersion = version ∧
      (after.metaVersion.isSome = true → after.metaVersion = some version) := by
  obtain ⟨between, _, _, rfl⟩ := takeStep_eq_ok_iff.1 hstep
  constructor
  · rw [setVersion, if_pos (by omega)]
  · cases between.metaVersion with
    | none => exact fun hnoted => nomatch hnoted
    | some noted => exact fun _ => rfl

/-! ## The two scripts -/

/-- Everything that a database of the latest version has. -/
structure Latest (database : Database) : Prop where
  tables : ∀ table, table ∈ database.tables
  indexes : ∀ index ∈ requiredIndexes, index ∈ database.indexes
  userVersion : database.userVersion = latestVersion
  metaVersion : database.metaVersion = some latestVersion

/-- The first script has been run. -/
def GraphMade (database : Database) : Prop :=
  ∀ statement ∈ graphScript, statement.Achieved database

theorem exists_graphStep (hcontained : Contained database) :
    ∃ after, takeStep database 1 graphScript = .ok after ∧ Contained after ∧ GraphMade after ∧
      after.rows = database.rows := by
  have hrunnable : runnable [] graphScript = true := rfl
  obtain ⟨after, hstep⟩ := exists_takeStep_of_runnable hcontained hrunnable (List.nil_subset _)
    (.inr (by decide)) 1
  have hran := ran_of_takeStep hcontained hstep
  exact ⟨after, hstep, hran.contained, hran.achieved, hran.extended.rows⟩

theorem exists_jobStep (hcontained : Contained database) (hgraph : GraphMade database) :
    ∃ after, takeStep database 2 jobScript = .ok after ∧ Latest after ∧
      after.rows = database.rows := by
  have hrunnable : runnable [.storeMeta] jobScript = true := rfl
  have hnoted : .storeMeta ∈ database.tables := hgraph (.createTable .storeMeta) (by decide)
  obtain ⟨after, hstep⟩ := exists_takeStep_of_runnable hcontained hrunnable
    (List.cons_subset.2 ⟨hnoted, List.nil_subset _⟩) (.inl List.mem_cons_self) 2
  have hran := ran_of_takeStep hcontained hstep
  have hmade : ∀ statement ∈ graphScript ++ jobScript, statement.Achieved after :=
    List.forall_mem_append.2 ⟨fun statement hstatement =>
      (hgraph statement hstatement).mono hran.extended, hran.achieved⟩
  obtain ⟨huser, hmeta⟩ := versions_of_takeStep hstep (by decide)
  refine ⟨after, hstep, ?_, hran.extended.rows⟩
  constructor
  · intro table
    exact hmade (.createTable table) (by cases table <;> decide)
  · intro index _
    exact hmade (.createIndex index) (by cases index <;> decide)
  · exact huser
  · exact hmeta (hmade (.noteVersion 1) (by decide))

/-- The second script cannot change a version where none can be noted. -/
theorem jobStep_fails (hcontained : Contained database) (hmissing : .storeMeta ∉ database.tables) :
    ∃ failure, takeStep database 2 jobScript = .error failure := by
  cases hstep : takeStep database 2 jobScript with
  | error failure => exact ⟨failure, rfl⟩
  | ok after =>
    have hran := ran_of_takeStep hcontained hstep
    have hnoted : .storeMeta ∈ after.tables := hran.achieved (.changeVersion 2) (by decide)
    rcases hran.tables _ hnoted with hbefore | hmade
    · exact absurd hbefore hmissing
    · exact absurd hmade (by decide)

/-! ## Starting points -/

/-- What a script leaves that is run outside of a transaction: statements before the first failure
stay. -/
def leftBy (database : Database) : List Statement → Database
  | [] => database
  | statement :: rest =>
    match execute database statement with
    | .ok after => leftBy after rest
    | .error _ => database

/-- A database on which scripts were run, then filled with rows and given a version. -/
def started (scripts : List (List Statement)) (rows : Store) (version : Int) : Database :=
  setVersion { scripts.foldl leftBy {} with rows } version

theorem leftBy_of_ok (hscript : executeAll before script = .ok after) :
    leftBy before script = after := by
  induction script generalizing before with
  | nil => exact Except.ok.inj hscript
  | cons statement rest ih =>
    rw [executeAll] at hscript
    rw [leftBy]
    cases hexecute : execute before statement with
    | error failure =>
      rw [hexecute] at hscript
      cases hscript
    | ok between =>
      rw [hexecute] at hscript
      exact ih hscript

/-- A script is executed up to some statement of it. -/
theorem exists_done (database : Database) (script : List Statement) :
    ∃ done, done <+: script ∧ executeAll database done = .ok (leftBy database script) := by
  induction script generalizing database with
  | nil => exact ⟨[], List.prefix_refl _, rfl⟩
  | cons statement rest ih =>
    rw [leftBy]
    cases hexecute : execute database statement with
    | error failure => exact ⟨[], List.nil_prefix, rfl⟩
    | ok after =>
      obtain ⟨done, hdone, hafter⟩ := ih after
      refine ⟨statement :: done, (List.prefix_cons_inj statement).2 hdone, ?_⟩
      rw [executeAll, hexecute]
      exact hafter

/-- The invariant of databases that only the two scripts have made: the tables of the first script
are there all or none. -/
structure Scripted (database : Database) : Prop where
  contained : Contained database
  graph : ∀ table, .createTable table ∈ graphScript → table ∈ database.tables → GraphMade database

theorem scripted_empty : Scripted {} :=
  ⟨contained_empty, fun _ _ htable => (nomatch htable)⟩

theorem Scripted.leftBy (hscripted : Scripted database) (hscript : script ∈ steps.map Prod.snd) :
    Scripted (leftBy database script) := by
  obtain ⟨done, hdone, hafter⟩ := exists_done database script
  have hran := ran_of_ok hscripted.contained hafter
  refine ⟨hran.contained, fun table hmade htable => ?_⟩
  simp only [steps, List.map_cons, List.map_nil, List.mem_cons, List.not_mem_nil, or_false]
    at hscript
  rcases hscript with rfl | rfl
  · have hrunnable : runnable [] graphScript = true := rfl
    obtain ⟨after, hwhole⟩ :=
      exists_executeAll_of_runnable hscripted.contained hrunnable (List.nil_subset _)
    rw [leftBy_of_ok hwhole]
    exact (ran_of_ok hscripted.contained hwhole).achieved
  · -- The second script makes no table of the first, so the table was there.
    have hbefore : table ∈ database.tables := by
      refine (hran.tables table htable).resolve_right fun hlater => ?_
      have hjob := hdone.subset hlater
      revert hmade hjob
      cases table <;> decide
    exact fun statement hstatement =>
      (hscripted.graph table hmade hbefore statement hstatement).mono hran.extended

theorem Scripted.foldl {scripts : List (List Statement)}
    (hscripts : ∀ script ∈ scripts, script ∈ steps.map Prod.snd) (hscripted : Scripted database) :
    Scripted (scripts.foldl Schema.leftBy database) := by
  induction scripts generalizing database with
  | nil => exact hscripted
  | cons script rest ih =>
    obtain ⟨hscript, hrest⟩ := List.forall_mem_cons.1 hscripts
    exact ih hrest (hscripted.leftBy hscript)

/-- Rows and a version do not matter to the scripts. -/
theorem scripted_started {scripts : List (List Statement)} {rows : Store}
    (hscripts : ∀ script ∈ scripts, script ∈ steps.map Prod.snd)
    (hrows : Contained { scripts.foldl leftBy {} with rows }) (version : Int) :
    Scripted (started scripts rows version) where
  contained := hrows
  graph table hmade htable statement hstatement := by
    have hachieved := (scripted_empty.foldl hscripts).graph table hmade htable statement hstatement
    cases statement with
    | _ => exact hachieved

/-! ## Migrations -/

/-- A migration is safe from a start, if it changes nothing unless it succeeds, and then brings the
database to the latest version, with its rows, once and for all. -/
structure MigratesSafely (start : Database) : Prop where
  negative : start.userVersion < 0 → migrate start = (.error .outOfRange, start)
  current : 2 ≤ start.userVersion → migrate start = (.ok start.userVersion.toNat, start)
  upgraded : ∀ version after, start.userVersion = 0 ∨ start.userVersion = 1 →
    migrate start = (.ok version, after) →
      version = latestVersion ∧ Latest after ∧ after.rows = start.rows
  refused : ∀ failure after, migrate start = (.error failure, after) → after = start
  /-- Below the latest version, it is refused where version 1 is claimed without its tables. -/
  refused_iff : start.userVersion = 0 ∨ start.userVersion = 1 →
    ((∃ failure, migrate start = (.error failure, start)) ↔
      start.userVersion = 1 ∧ ∀ table, .createTable table ∈ graphScript → table ∉ start.tables)
  again : ∀ version after, migrate start = (.ok version, after) →
    migrate after = (.ok version, after)

theorem takeSteps_of_latest {current : Nat} (hcurrent : 2 ≤ current) :
    takeSteps database current steps = (.ok current, database) := by
  simp only [takeSteps, steps, if_pos (show 1 ≤ current by omega), if_pos hcurrent]

theorem migrate_of_nonneg {current : Nat} (hversion : database.userVersion = current) :
    migrate database = takeSteps database current steps := by
  simp only [migrate, currentVersion, hversion, Int.natCast_nonneg, if_true, Int.toNat_natCast]

theorem migrate_of_negative (hversion : database.userVersion < 0) :
    migrate database = (.error .outOfRange, database) := by
  rw [migrate, currentVersion, if_neg (by omega)]

theorem migrate_of_current (hversion : 2 ≤ database.userVersion) :
    migrate database = (.ok database.userVersion.toNat, database) := by
  rw [migrate_of_nonneg (Int.toNat_of_nonneg (by omega)).symm, takeSteps_of_latest (by omega)]

theorem migrate_of_one (hversion : database.userVersion = 1) :
    migrate database =
      match takeStep database 2 jobScript with
      | .ok after => (.ok 2, after)
      | .error failure => (.error failure, database) :=
  migrate_of_nonneg hversion

theorem exists_migrate_of_zero (hcontained : Contained database)
    (hversion : database.userVersion = 0) :
    ∃ after, migrate database = (.ok 2, after) ∧ Latest after ∧ after.rows = database.rows := by
  obtain ⟨between, hfirst, hkept, hgraph, hrows⟩ := exists_graphStep hcontained
  obtain ⟨after, hsecond, hlatest, hrest⟩ := exists_jobStep hkept hgraph
  refine ⟨after, ?_, hlatest, hrest.trans hrows⟩
  rw [migrate_of_nonneg (hversion : database.userVersion = (0 : Nat))]
  simp [takeSteps, steps, hfirst, hsecond]

theorem exists_migrate_of_one (hcontained : Contained database) (hgraph : GraphMade database)
    (hversion : database.userVersion = 1) :
    ∃ after, migrate database = (.ok 2, after) ∧ Latest after ∧ after.rows = database.rows := by
  obtain ⟨after, hsecond, hlatest, hrows⟩ := exists_jobStep hcontained hgraph
  exact ⟨after, by rw [migrate_of_one hversion, hsecond], hlatest, hrows⟩

theorem migrate_refused (hcontained : Contained database)
    (hmissing : .storeMeta ∉ database.tables) (hversion : database.userVersion = 1) :
    ∃ failure, migrate database = (.error failure, database) := by
  obtain ⟨failure, hfailure⟩ := jobStep_fails hcontained hmissing
  exact ⟨failure, by rw [migrate_of_one hversion, hfailure]⟩

/-- The four ways that a migration can go. -/
theorem migrate_cases (hscripted : Scripted database) :
    (database.userVersion < 0 ∧ migrate database = (.error .outOfRange, database)) ∨
    (2 ≤ database.userVersion ∧
      migrate database = (.ok database.userVersion.toNat, database)) ∨
    ((database.userVersion = 0 ∨ database.userVersion = 1 ∧ .storeMeta ∈ database.tables) ∧
      ∃ after, migrate database = (.ok latestVersion, after) ∧ Latest after ∧
        after.rows = database.rows) ∨
    (database.userVersion = 1 ∧
      (∀ table, .createTable table ∈ graphScript → table ∉ database.tables) ∧
      ∃ failure, migrate database = (.error failure, database)) := by
  have hversions : database.userVersion < 0 ∨ 2 ≤ database.userVersion ∨
      database.userVersion = 0 ∨ database.userVersion = 1 := by omega
  rcases hversions with hnegative | hcurrent | hzero | hone
  · exact .inl ⟨hnegative, migrate_of_negative hnegative⟩
  · exact .inr (.inl ⟨hcurrent, migrate_of_current hcurrent⟩)
  · exact .inr (.inr (.inl ⟨.inl hzero, exists_migrate_of_zero hscripted.contained hzero⟩))
  · have hmakes : .createTable .storeMeta ∈ graphScript := by decide
    by_cases hnoted : .storeMeta ∈ database.tables
    · have hgraph := hscripted.graph _ hmakes hnoted
      exact .inr (.inr (.inl
        ⟨.inr ⟨hone, hnoted⟩, exists_migrate_of_one hscripted.contained hgraph hone⟩))
    · refine .inr (.inr (.inr ⟨hone, fun table hmade htable => hnoted ?_,
        migrate_refused hscripted.contained hnoted hone⟩))
      exact hscripted.graph table hmade htable _ hmakes

theorem Latest.migrate (hlatest : Latest database) :
    migrate database = (.ok latestVersion, database) := by
  have hcurrent : 2 ≤ database.userVersion := by
    rw [hlatest.userVersion]
    decide
  rw [migrate_of_current hcurrent, hlatest.userVersion, Int.toNat_natCast]

theorem migratesSafely_of_scripted (hscripted : Scripted database) :
    MigratesSafely database where
  negative := migrate_of_negative
  current := migrate_of_current
  upgraded version after hbelow hmigrate := by
    obtain ⟨hnegative, _⟩ | ⟨hcurrent, _⟩ | ⟨_, upgraded, hupgraded, hlatest, hrows⟩ |
      ⟨_, _, failure, hrefused⟩ := migrate_cases hscripted
    · omega
    · omega
    · cases hupgraded.symm.trans hmigrate
      exact ⟨rfl, hlatest, hrows⟩
    · cases hrefused.symm.trans hmigrate
  refused failure after hmigrate := by
    obtain ⟨_, hrefused⟩ | ⟨_, hkept⟩ | ⟨_, upgraded, hupgraded, _⟩ | ⟨_, _, _, hrefused⟩ :=
      migrate_cases hscripted
    · cases hrefused.symm.trans hmigrate
      rfl
    · cases hkept.symm.trans hmigrate
    · cases hupgraded.symm.trans hmigrate
    · cases hrefused.symm.trans hmigrate
      rfl
  refused_iff hbelow := by
    obtain ⟨hnegative, _⟩ | ⟨hcurrent, _⟩ | ⟨hmade, upgraded, hupgraded, _⟩ |
      ⟨hone, hmissing, hrefused⟩ := migrate_cases hscripted
    · omega
    · omega
    · constructor
      · rintro ⟨failure, hrefused⟩
        cases hupgraded.symm.trans hrefused
      · rintro ⟨hone, hmissing⟩
        rcases hmade with hzero | ⟨_, hnoted⟩
        · omega
        · exact absurd hnoted (hmissing _ (by decide))
    · exact ⟨fun _ => ⟨hone, hmissing⟩, fun _ => hrefused⟩
  again version after hmigrate := by
    obtain ⟨_, hrefused⟩ | ⟨_, hkept⟩ | ⟨_, upgraded, hupgraded, hlatest, _⟩ |
      ⟨_, _, _, hrefused⟩ := migrate_cases hscripted
    · cases hrefused.symm.trans hmigrate
    · cases hkept.symm.trans hmigrate
      exact hkept
    · cases hupgraded.symm.trans hmigrate
      exact hlatest.migrate
    · cases hrefused.symm.trans hmigrate

/-- From a database that the scripts have made, in any order and any number, with any rows in its
tables and any version, a migration is safe. -/
theorem migrates_safely (scripts : List (List Statement)) (rows : Store) (version : Int)
    (hscripts : ∀ script ∈ scripts, script ∈ steps.map Prod.snd)
    (hrows : Contained { scripts.foldl leftBy {} with rows }) :
    MigratesSafely (started scripts rows version) :=
  migratesSafely_of_scripted (scripted_started hscripts hrows version)

/-- Two starts at version 1.  The tables of the first script, with a record in them, are upgraded;
those of the second script alone are refused. -/
theorem migrates_from_one :
    let filled : Store := { objects := [Object.draft "system" 7 "cart"] }
    MigratesSafely (started [graphScript, graphScript] filled 1) ∧
      MigratesSafely (started [jobScript] {} 1) ∧
      (migrate (started [graphScript, graphScript] filled 1)).1 = .ok 2 ∧
      (migrate (started [graphScript, graphScript] filled 1)).2.rows = filled ∧
      migrate (started [jobScript] {} 1) =
        (.error (.noSuchTable .storeMeta), started [jobScript] {} 1) := by
  refine ⟨migrates_safely _ _ 1 (by decide) ?_, migrates_safely _ _ 1 (by decide) ?_, rfl, rfl, rfl⟩
  · intro table htable
    cases table with
    | importExports => exact ⟨rfl, rfl⟩
    | _ => exact absurd htable (by decide)
  · exact fun table _ => contained_empty table List.not_mem_nil

end RecordGraph.Schema
