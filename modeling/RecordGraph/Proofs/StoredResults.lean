import RecordGraph.Proofs.DocumentText
import RecordGraph.Proofs.LedgerRuns

/-!
# Which results can be listed

A job holds the text of the last document that was given to it, when it was made or later.  Writing
takes documents of any nesting, and reading stops at a fixed depth.  So the log of a job fails
exactly when the last document given to it is nested deeper, and with it every listing in which the
job stands.
-/

namespace RecordGraph

/-! ## The document of a job -/

namespace LedgerCall

/-- The document that a call gives to a job. -/
def document? : LedgerCall → Option Json
  | create _ _ job => job.results
  | setResults _ _ document => some document
  | updateStatus .. | deletePreviousImports _ => none

/-- The documents by the numbers of the jobs, after a call on a store with this result. -/
def give (store : Store) (documents : Int → Option Json) :
    LedgerCall → Except GraphError Unit → Int → Option Json
  | create _ _ job, .ok () => fun id =>
    if freshId? store.lastJobId = some id then job.results else documents id
  | setResults _ given document, .ok () => fun id =>
    if given = id then some document else documents id
  | _, _ => documents

/-- The documents after some calls; refused calls give nothing. -/
def documentsAfter : List LedgerCall → Connection → (Int → Option Json) → Int → Option Json
  | [], _, documents => documents
  | call :: rest, connection, documents =>
    documentsAfter rest (call.perform connection).connection
      (call.give connection.store documents (call.perform connection).result)

/-- The document that the calls on a fresh store gave last to the job of a number. -/
def documentOf (calls : List LedgerCall) (id : Int) : Option Json :=
  documentsAfter calls {} (fun _ => none) id

theorem give_error (call : LedgerCall) (store : Store) (documents : Int → Option Json)
    (error : GraphError) : call.give store documents (.error error) = documents := by
  cases call <;> rfl

theorem give_cases {call : LedgerCall} {store : Store} {documents : Int → Option Json}
    {result : Except GraphError Unit} {id : Int} {document : Json}
    (hgiven : call.give store documents result id = some document) :
    call.document? = some document ∨ documents id = some document := by
  cases result with
  | error error =>
    rw [give_error] at hgiven
    exact .inr hgiven
  | ok _ =>
    cases call with
    | create actor now job =>
      simp only [give] at hgiven
      split at hgiven
      · exact .inl hgiven
      · exact .inr hgiven
    | setResults actor given other =>
      simp only [give] at hgiven
      split at hgiven
      · exact .inl hgiven
      · exact .inr hgiven
    | updateStatus actor now moved target => exact .inr hgiven
    | deletePreviousImports actor => exact .inr hgiven

/-- Every document that a job has after some calls came from one of them. -/
theorem documentsAfter_cases {calls : List LedgerCall} {connection : Connection}
    {documents : Int → Option Json} {id : Int} {document : Json}
    (hdocument : documentsAfter calls connection documents id = some document) :
    (∃ call ∈ calls, call.document? = some document) ∨ documents id = some document := by
  induction calls generalizing connection documents with
  | nil => exact .inr hdocument
  | cons call rest ih =>
    rcases ih hdocument with ⟨later, hlater, hgiven⟩ | hgiven
    · exact .inl ⟨later, List.mem_cons_of_mem call hlater, hgiven⟩
    · exact (give_cases hgiven).imp_left fun hcall => ⟨call, List.mem_cons_self, hcall⟩

theorem documentOf_given {calls : List LedgerCall} {id : Int} {document : Json}
    (hdocument : documentOf calls id = some document) :
    ∃ call ∈ calls, call.document? = some document :=
  (documentsAfter_cases hdocument).resolve_right (by simp)

end LedgerCall

/-! ## What is stored -/

/-- Each job holds the text of its document. -/
def Store.HoldsDocuments (store : Store) (documents : Int → Option Json) : Prop :=
  ∀ job ∈ store.jobs, job.results = (documents job.id).map Json.compact

namespace Store.HoldsDocuments

variable {store after : Store} {documents : Int → Option Json}

theorem insertJob {row stored : Job} {results : Option Json}
    (hholds : store.HoldsDocuments documents) (hnumbered : store.JobsNumbered)
    (hrow : row.results = results.map Json.compact)
    (hstored : store.insertJob row = .ok (stored, after)) :
    after.HoldsDocuments fun id =>
      if freshId? store.lastJobId = some id then results else documents id := by
  obtain ⟨id, hid, rfl, rfl⟩ := insertJob_eq_ok_iff.1 hstored
  intro job hjob
  rcases Ordered.mem_of_mem_insert hjob with rfl | hold
  · simp only [hid, if_true]
    exact hrow
  · have hless := hnumbered.fresh hid job hold
    have hother : ¬ freshId? store.lastJobId = some job.id := by
      rw [hid, Option.some.injEq]
      omega
    simp only [hother, if_false]
    exact hholds job hold

theorem updateJob {job : Job} (hholds : store.HoldsDocuments documents)
    (hjob : job.results = (documents job.id).map Json.compact) :
    (store.updateJob job).HoldsDocuments documents := by
  intro other hother
  rcases mem_updateJob_iff.1 hother with ⟨hold, _⟩ | ⟨rfl, _⟩
  · exact hholds other hold
  · exact hjob

theorem setResults {job : Job} {document : Json} (hholds : store.HoldsDocuments documents) :
    (store.updateJob { job with results := some document.compact }).HoldsDocuments fun id =>
      if job.id = id then some document else documents id := by
  intro other hother
  rcases mem_updateJob_iff.1 hother with ⟨hold, hne⟩ | ⟨rfl, _⟩
  · have hid : ¬ job.id = other.id := fun hid => hne hid.symm
    simp only [hid, if_false]
    exact hholds other hold
  · simp

theorem transition {call : LedgerCall} (hholds : store.HoldsDocuments documents)
    (hnumbered : store.JobsNumbered) (hcall : call.transition store = .ok ((), after)) :
    after.HoldsDocuments (call.give store documents (.ok ())) := by
  cases call with
  | create actor now job =>
    obtain ⟨_, hcreated⟩ := Transition.void_eq_ok_iff.1 hcall
    exact hholds.insertJob hnumbered rfl (Transition.createJob_eq_ok_iff.1 hcreated)
  | updateStatus actor now id target =>
    obtain ⟨_, hmoved⟩ := Transition.void_eq_ok_iff.1 hcall
    obtain ⟨job, hget, _, rfl, rfl⟩ := Transition.updateStatus_eq_ok_iff.1 hmoved
    have hjob := (Store.job?_eq_some (Ledger.get_eq_ok_iff.1 hget).1).1
    exact hholds.updateJob (hholds job hjob)
  | setResults actor id document =>
    obtain ⟨_, hset⟩ := Transition.void_eq_ok_iff.1 hcall
    obtain ⟨job, hget, rfl, rfl⟩ := Transition.setResults_eq_ok_iff.1 hset
    have hid := (Store.job?_eq_some (Ledger.get_eq_ok_iff.1 hget).1).2
    rw [← hid]
    exact hholds.setResults
  | deletePreviousImports actor =>
    obtain ⟨_, hcleared⟩ := Transition.void_eq_ok_iff.1 hcall
    obtain ⟨_, _, rfl⟩ := Transition.deletePreviousImports_eq_ok_iff.1 hcleared
    intro job hjob
    exact hholds job (List.mem_filter.1 hjob).1

/-- One call, whether it succeeds or not. -/
theorem perform {connection : Connection} (call : LedgerCall) (hclosed : connection.frames = [])
    (hnumbered : connection.store.JobsNumbered)
    (hholds : connection.store.HoldsDocuments documents) :
    (call.perform connection).connection.store.HoldsDocuments
      (call.give connection.store documents (call.perform connection).result) := by
  rcases call.realizes_perform.of_closed hclosed with
    ⟨error, hresult, hsame⟩ | ⟨_, after, hcall, hresult, hconnection⟩
  · rw [hresult, hsame, LedgerCall.give_error]
    exact hholds
  · rw [hresult, hconnection]
    exact hholds.transition hnumbered hcall

theorem run (calls : List LedgerCall) {connection : Connection} (hclosed : connection.frames = [])
    (hnumbered : connection.store.JobsNumbered)
    (hholds : connection.store.HoldsDocuments documents) :
    (LedgerCall.run calls connection).store.HoldsDocuments
      (LedgerCall.documentsAfter calls connection documents) := by
  induction calls generalizing connection documents with
  | nil => exact hholds
  | cons call rest ih =>
    obtain ⟨hstill, hnumbers⟩ :=
      LedgerCall.run_keeps Store.JobsNumbered.transition [call] hclosed hnumbered
    exact ih hstill hnumbers (perform call hclosed hnumbered hholds)

/-- After any calls on a fresh store each job holds the last document that was given to it. -/
theorem run_empty (calls : List LedgerCall) :
    (LedgerCall.run calls {}).store.HoldsDocuments (LedgerCall.documentOf calls) :=
  run calls rfl .empty (by simp [HoldsDocuments])

end Store.HoldsDocuments

/-! ## What can be listed -/

namespace Job

theorem readResults_cases (job : Job) :
    job.readResults = .error .json ∨ ∃ results, job.readResults = .ok results := by
  rw [readResults]
  split
  · exact .inr ⟨none, rfl⟩
  · split
    · exact .inr ⟨none, rfl⟩
    · split
      · next document _ => exact .inr ⟨some document, rfl⟩
      · exact .inl rfl

/-- The only failure of a log is that of its results. -/
theorem log_cases (job : Job) : job.log = .error .json ∨ ∃ log, job.log = .ok log := by
  rcases job.readResults_cases with hread | ⟨results, hread⟩
  · exact .inl (by rw [log, hread])
  · exact .inr ⟨_, by rw [log, hread]⟩

theorem log_ok_iff {job : Job} :
    (∃ log, job.log = .ok log) ↔ ∃ results, job.readResults = .ok results := by
  rw [log]
  cases job.readResults with
  | error error => simp
  | ok results => simp

/-- A log is there exactly when every document in the results can be read. -/
theorem log_ok_iff_of_results {job : Job} {held : Option Json}
    (hresults : job.results = held.map Json.compact) :
    (∃ log, job.log = .ok log) ↔
      ∀ document, held = some document → (Json.parse? document.compact).isSome = true := by
  rw [log_ok_iff, readResults, hresults]
  cases held with
  | none => simp
  | some document =>
    simp only [Option.map_some, document.isEmpty_compact, Option.some.injEq, forall_eq']
    cases hread : Json.parse? document.compact with
    | none => simp
    | some read => simp

theorem logs_cases (jobs : List Job) :
    Job.logs jobs = .error .json ∨ ∃ logs, Job.logs jobs = .ok logs := by
  induction jobs with
  | nil => exact .inr ⟨[], rfl⟩
  | cons job rest ih =>
    rw [Job.logs]
    rcases job.log_cases with hlog | ⟨log, hlog⟩
    · rw [hlog]
      exact .inl rfl
    · rcases ih with hrest | ⟨logs, hrest⟩
      · rw [hlog, hrest]
        exact .inl rfl
      · rw [hlog, hrest]
        exact .inr ⟨log :: logs, rfl⟩

/-- Several jobs have logs exactly when each of them has one. -/
theorem logs_ok_iff {jobs : List Job} :
    (∃ logs, Job.logs jobs = .ok logs) ↔ ∀ job ∈ jobs, ∃ log, job.log = .ok log := by
  induction jobs with
  | nil => simp [Job.logs]
  | cons job rest ih =>
    rw [List.forall_mem_cons, ← ih, Job.logs]
    cases job.log with
    | error error => simp
    | ok log =>
      cases Job.logs rest with
      | error error => simp
      | ok logs => simp

end Job

namespace LedgerCall

/-- The last document given to the job of a number, if any, is nested no deeper than a reader
goes. -/
def ShallowDocument (calls : List LedgerCall) (id : Int) : Prop :=
  ∀ document, documentOf calls id = some document → document.depth ≤ Json.maxDepth

/-- What can be listed after some calls on a fresh store. -/
structure Listable (calls : List LedgerCall) : Prop where
  /-- The log of a job. -/
  log : ∀ job ∈ (run calls {}).store.jobs,
    (∃ log, job.log = .ok log) ↔ ShallowDocument calls job.id
  /-- The logs of the jobs that an actor asks for. -/
  list : ∀ actor kind ids,
    (∃ logs, Ledger.list actor kind ids (run calls {}).store = .ok logs) ↔
      ∀ job ∈ Ledger.selected actor kind ids (run calls {}).store, ShallowDocument calls job.id
  /-- A listing that fails does so because results cannot be read. -/
  refused : ∀ actor kind ids error,
    Ledger.list actor kind ids (run calls {}).store = .error error → error = .json

/-- A job can be listed exactly when the last document given to it is nested no deeper than a reader
goes, and the jobs that an actor asks for exactly when this is so for each of them. -/
theorem listable_run (calls : List LedgerCall)
    (hnumbers : ∀ call ∈ calls, ∀ document, call.document? = some document →
      document.NumbersInRange) : Listable calls := by
  have hlog : ∀ job ∈ (run calls {}).store.jobs,
      (∃ log, job.log = .ok log) ↔ ShallowDocument calls job.id := by
    intro job hjob
    rw [Job.log_ok_iff_of_results (Store.HoldsDocuments.run_empty calls job hjob), ShallowDocument]
    refine forall_congr' fun document => forall_congr' fun hdocument => ?_
    obtain ⟨call, hcall, hgiven⟩ := documentOf_given hdocument
    exact Json.parse?_compact_isSome (hnumbers call hcall document hgiven)
  refine ⟨hlog, ?_, ?_⟩
  · intro actor kind ids
    rw [Ledger.list, Job.logs_ok_iff]
    exact forall_congr' fun job => forall_congr' fun hjob => hlog job (List.mem_filter.1 hjob).1
  · intro actor kind ids error herror
    rcases Job.logs_cases (Ledger.selected actor kind ids (run calls {}).store) with
      hjson | ⟨_, hok⟩
    · rw [Ledger.list, hjson] at herror
      exact (Except.error.inj herror).symm
    · rw [Ledger.list, hok] at herror
      cases herror

/-- A user makes an import with results of one level too many. -/
def deepImport : List LedgerCall :=
  [.create ⟨7, false⟩ 10 { results := some (Json.nestedArrays Json.maxDepth) }]

/-- The import is stored with its results, and none of the user's imports can be listed after it. -/
theorem deep_import_unlisted :
    documentOf deepImport 1 = some (Json.nestedArrays Json.maxDepth) ∧
      (∃ job ∈ (run deepImport {}).store.jobs, job.id = 1 ∧ job.log = .error .json) ∧
      Ledger.list ⟨7, false⟩ .importing none (run deepImport {}).store = .error .json := by
  have hlistable : Listable deepImport := by
    apply listable_run
    intro call hcall document hgiven
    rw [List.mem_singleton.1 hcall] at hgiven
    cases hgiven
    exact Json.numbersInRange_nestedArrays Json.maxDepth
  have hdocument : documentOf deepImport 1 = some (Json.nestedArrays Json.maxDepth) := rfl
  have hdeep : ¬ ShallowDocument deepImport 1 := by
    intro hshallow
    have hdepth := hshallow _ hdocument
    rw [Json.depth_nestedArrays] at hdepth
    omega
  let job : Job := {
    id := 1, kind := .importing, status := .notStarted, description := none, createdAt := 10
    startAt := none, endAt := none, ownerId := 7
    results := some (Json.nestedArrays Json.maxDepth).compact, title := none, content := none
    driveMetadata := none }
  have hstored : job ∈ (run deepImport {}).store.jobs := List.mem_singleton.2 rfl
  have hselected : job ∈ Ledger.selected ⟨7, false⟩ .importing none (run deepImport {}).store :=
    List.mem_filter.2 ⟨hstored, rfl⟩
  refine ⟨hdocument, ⟨job, hstored, rfl, ?_⟩, ?_⟩
  · exact job.log_cases.resolve_right fun hlog => hdeep ((hlistable.log job hstored).1 hlog)
  · exact (Job.logs_cases _).resolve_right fun hlogs =>
      hdeep ((hlistable.list ⟨7, false⟩ .importing none).1 hlogs job hselected)

end LedgerCall

end RecordGraph
