import RecordGraph.Proofs.IntegerDocuments
import RecordGraph.Proofs.OpenTransactions
import RecordGraph.Proofs.StoredResults

/-!
# Results that are kept

A job keeps the text of its results.  Whoever looks at the job later, by itself or in a listing,
is shown the document that was written, until its owner sets other results: moving the job, refused
attempts of others and changes of other jobs and of the graph leave it alone.  The document may be
`null`, which is not the same as none.  Only the end of a transaction undoes it: where something was
open when the document was written and a later call finds no number left, the document is gone with
the rest of the transaction.
-/

namespace RecordGraph

/-! ## Logs -/

namespace Job

variable {job : Job} {log : JobLog} {document : Json}

theorem results_of_log (hlog : job.log = .ok log) :
    log.id = job.id ∧ job.readResults = .ok log.results := by
  rw [Job.log] at hlog
  cases hread : job.readResults with
  | error error =>
    rw [hread] at hlog
    cases hlog
  | ok results =>
    rw [hread] at hlog
    cases hlog
    exact ⟨rfl, rfl⟩

/-- The text of an integer document is not empty, and stands for the document. -/
theorem readResults_of_compact (hresults : job.results = some document.compact)
    (hread : Json.parse? document.compact = some document) :
    job.readResults = .ok (some document) := by
  rw [readResults, hresults]
  simp [document.isEmpty_compact, hread]

theorem mem_logs_iff {jobs : List Job} {logs : List JobLog} (hlogs : Job.logs jobs = .ok logs) :
    log ∈ logs ↔ ∃ job ∈ jobs, job.log = .ok log := by
  induction jobs generalizing logs with
  | nil =>
    cases hlogs
    simp
  | cons job rest ih =>
    rw [Job.logs] at hlogs
    split at hlogs
    · cases hlogs
    · cases hlogs
    · next first others hfirst hothers =>
      cases hlogs
      rw [List.mem_cons, ih hothers, List.exists_mem_cons_iff, hfirst, Except.ok.injEq]
      exact or_congr_left eq_comm

end Job

/-! ## One number through later calls -/

/-- Whatever is stored under a number is a job of a user with these results, and the number is not
given out again. -/
structure Store.HoldsResults (store : Store) (user id : Int) (results : String) : Prop where
  given : id ≤ store.lastJobId
  same : ∀ job ∈ store.jobs, job.id = id → job.ownerId = user ∧ job.results = some results

namespace StoreCall

/-- The call sets results of the job of a number, and its owner makes it. -/
def SetsResults (user id : Int) : StoreCall → Prop
  | ledger (.setResults actor given _) => actor.userId = user ∧ given = id
  | _ => False

/-- The call clears the waiting imports of a user. -/
def ClearsImports (user : Int) : StoreCall → Prop
  | ledger (.deletePreviousImports actor) => actor.userId = user
  | _ => False

end StoreCall

namespace Store.HoldsResults

variable {store after : Store} {user id : Int} {results : String} {call : StoreCall}

theorem transition (hholds : store.HoldsResults user id results)
    (hquiet : ¬call.SetsResults user id) (hcall : call.transition store = .ok ((), after)) :
    after.HoldsResults user id results := by
  cases call with
  | graph call =>
    obtain ⟨hjobs, hlast⟩ := GraphCall.jobs_of_transition hcall
    exact ⟨hlast ▸ hholds.given, hjobs ▸ hholds.same⟩
  | ledger call =>
    refine ⟨Int.le_trans hholds.given (LedgerCall.lastJobId_le hcall), fun job hjob hid => ?_⟩
    rcases LedgerCall.job_after_cases hcall hjob with
      hold | ⟨old, hold, hnumber, hreplaces⟩ | hnew
    · exact hholds.same job hold hid
    · have hsame := hholds.same old hold (hnumber.trans hid)
      cases call with
      | updateStatus actor now moved target =>
        obtain ⟨_, _, _, rfl⟩ := hreplaces
        exact hsame
      | setResults actor given document =>
        -- Whoever sets the results of a job is its owner.
        obtain ⟨hgiven, howner, _⟩ := hreplaces
        refine absurd ⟨?_, ?_⟩ hquiet
        · exact howner.symm.trans hsame.1
        · exact hgiven.symm.trans (hnumber.trans hid)
      | create => exact hreplaces.elim
      | deletePreviousImports => exact hreplaces.elim
    · have hgiven := hholds.given
      omega

/-- The job of the number stays, unless its owner clears imports. -/
theorem stored (hholds : store.HoldsResults user id results) (hquiet : ¬call.ClearsImports user)
    (hstored : ∃ job ∈ store.jobs, job.id = id)
    (hcall : call.transition store = .ok ((), after)) : ∃ job ∈ after.jobs, job.id = id := by
  obtain ⟨job, hjob, rfl⟩ := hstored
  cases call with
  | graph call =>
    obtain ⟨hjobs, _⟩ := GraphCall.jobs_of_transition hcall
    exact ⟨job, hjobs ▸ hjob, rfl⟩
  | ledger call =>
    refine (LedgerCall.job_stays hcall hjob).resolve_right ?_
    rintro ⟨actor, rfl, howner⟩
    exact hquiet (howner.symm.trans (hholds.same job hjob rfl).1)

end Store.HoldsResults

/-- A call on the graph or on the jobs keeps the numbers of jobs apart. -/
theorem Store.JobsNumbered.storeTransition {store after : Store} {call : StoreCall}
    (hnumbered : store.JobsNumbered) (hcall : call.transition store = .ok ((), after)) :
    after.JobsNumbered := by
  cases call with
  | graph call =>
    obtain ⟨hjobs, hlast⟩ := GraphCall.jobs_of_transition hcall
    exact ⟨hjobs ▸ hnumbered.distinct, hjobs ▸ hlast ▸ hnumbered.bounded⟩
  | ledger call => exact hnumbered.transition call store after hcall

/-! ## What is shown -/

namespace Ledger

/-- Everybody who sees the job of a number sees these results. -/
structure ShowsResults (store : Store) (user id : Int) (document : Json) : Prop where
  /-- Its owner gets the job, and its log shows them. -/
  got : ∀ job ∈ store.jobs, job.id = id → ∀ actor : Actor, actor.userId = user →
    get actor id store = .ok job ∧ ∃ log, job.log = .ok log ∧ log.results = some document
  /-- Every listing in which the job stands shows them. -/
  listed : ∀ actor kind ids logs, list actor kind ids store = .ok logs →
    ∀ log ∈ logs, log.id = id → log.results = some document
  /-- The job stands in every listing that selects it. -/
  contained : ∀ actor kind ids logs, list actor kind ids store = .ok logs →
    ∀ job ∈ selected actor kind ids store, job.id = id → ∃ log ∈ logs, log.id = id
  /-- A listing fails because of other jobs only. -/
  harmless : ∀ actor kind ids, (∃ logs, list actor kind ids store = .ok logs) ↔
    ∀ job ∈ selected actor kind ids store, job.id ≠ id → ∃ log, job.log = .ok log

/-- Whatever happens after, the results of the job are shown until its owner sets others, and the
job stays unless its owner clears imports; or one of the calls has ended the transaction that is
open, and all that was done in it is undone. -/
def KeepsResults (connection : Connection) (user id : Int) (document : Json) : Prop :=
  ∀ later : List StoreCall, (∀ call ∈ later, ¬call.SetsResults user id) →
    (ShowsResults (StoreCall.run later connection).store user id document ∧
        ((∀ call ∈ later, ¬call.ClearsImports user) →
          ∃ job ∈ (StoreCall.run later connection).store.jobs, job.id = id)) ∨
      StoreCall.UndoTransaction later connection

variable {store : Store} {connection : Connection} {user id : Int} {document : Json}

theorem showsResults_of_holds (hnumbered : store.JobsNumbered)
    (hholds : store.HoldsResults user id document.compact)
    (hread : Json.parse? document.compact = some document) :
    ShowsResults store user id document := by
  have hlog : ∀ job ∈ store.jobs, job.id = id →
      ∃ log, job.log = .ok log ∧ log.results = some document := by
    intro job hjob hid
    have hresults := Job.readResults_of_compact (hholds.same job hjob hid).2 hread
    obtain ⟨log, hlog⟩ := Job.log_ok_iff.2 ⟨some document, hresults⟩
    have hsame := (Job.results_of_log hlog).2
    rw [hresults, Except.ok.injEq] at hsame
    exact ⟨log, hlog, hsame.symm⟩
  constructor
  case got =>
    intro job hjob hid actor hactor
    refine ⟨get_eq_ok_iff.2 ⟨hnumbered.job?_eq_some_iff.2 ⟨hjob, hid⟩, ?_⟩, hlog job hjob hid⟩
    rw [(hholds.same job hjob hid).1, hactor]
  case listed =>
    intro actor kind ids logs hlist log hmem hid
    obtain ⟨job, hselected, hjob⟩ := (Job.mem_logs_iff hlist).1 hmem
    obtain ⟨other, hother, hresults⟩ := hlog job (List.mem_of_mem_filter hselected)
      ((Job.results_of_log hjob).1.symm.trans hid)
    rw [hother] at hjob
    cases hjob
    exact hresults
  case contained =>
    intro actor kind ids logs hlist job hselected hid
    obtain ⟨log, hjob, _⟩ := hlog job (List.mem_of_mem_filter hselected) hid
    exact ⟨log, (Job.mem_logs_iff hlist).2 ⟨job, hselected, hjob⟩,
      (Job.results_of_log hjob).1.trans hid⟩
  case harmless =>
    intro actor kind ids
    rw [list, Job.logs_ok_iff]
    refine ⟨fun hall job hjob _ => hall job hjob, fun hothers job hjob => ?_⟩
    by_cases hid : job.id = id
    · obtain ⟨log, hfound, _⟩ := hlog job (List.mem_of_mem_filter hjob) hid
      exact ⟨log, hfound⟩
    · exact hothers job hjob hid

theorem keepsResults_of_holds (hnumbered : connection.store.JobsNumbered)
    (hholds : connection.store.HoldsResults user id document.compact)
    (hstored : ∃ job ∈ connection.store.jobs, job.id = id)
    (hread : Json.parse? document.compact = some document) :
    KeepsResults connection user id document := by
  intro later hquiet
  by_cases hnumbers : connection.frames = [] ∨ StoreCall.FindNumbers later connection
  case neg =>
    obtain ⟨hopen, hnone⟩ := not_or.1 hnumbers
    exact .inr (StoreCall.undoTransaction_of_not_findNumbers hopen hnone)
  refine .inl ⟨?_, ?_⟩
  · have hstep : ∀ call ∈ later, ∀ store after : Store,
        store.JobsNumbered ∧ store.HoldsResults user id document.compact →
          call.transition store = .ok ((), after) →
            after.JobsNumbered ∧ after.HoldsResults user id document.compact :=
      fun call hcall _ _ hstore hchanged =>
        ⟨hstore.1.storeTransition hchanged, hstore.2.transition (hquiet call hcall) hchanged⟩
    obtain ⟨hdistinct, hresults⟩ := StoreCall.run_keeps hstep hnumbers ⟨hnumbered, hholds⟩
    exact showsResults_of_holds hdistinct hresults hread
  · intro hnone
    have hstep : ∀ call ∈ later, ∀ store after : Store,
        store.HoldsResults user id document.compact ∧ (∃ job ∈ store.jobs, job.id = id) →
          call.transition store = .ok ((), after) →
            after.HoldsResults user id document.compact ∧ ∃ job ∈ after.jobs, job.id = id :=
      fun call hcall _ _ hstore hchanged =>
        ⟨hstore.1.transition (hquiet call hcall) hchanged,
          hstore.1.stored (hnone call hcall) hstore.2 hchanged⟩
    exact (StoreCall.run_keeps hstep hnumbers ⟨hholds, hstored⟩).2

/-! ## Writing results -/

theorem holdsResults_of_set {actor : Actor} {job : Job} {results : String}
    (hnumbered : store.JobsNumbered) (hget : get actor id store = .ok job) :
    (store.updateJob { job with results := some results }).HoldsResults actor.userId id
      results where
  given := by
    obtain ⟨hjob, hid⟩ := Store.job?_eq_some (get_eq_ok_iff.1 hget).1
    exact hid ▸ hnumbered.bounded job hjob
  same other hother hid := by
    obtain ⟨hlookup, howner⟩ := get_eq_ok_iff.1 hget
    obtain ⟨_, hnumber⟩ := Store.job?_eq_some hlookup
    rcases Store.mem_updateJob_iff.1 hother with ⟨_, hne⟩ | ⟨rfl, _⟩
    · exact absurd (hid.trans hnumber.symm) hne
    · exact ⟨howner, rfl⟩

theorem holdsResults_of_insert {after : Store} {row stored : Job} {results : String}
    (hnumbered : store.JobsNumbered) (hresults : row.results = some results)
    (hstored : store.insertJob row = .ok (stored, after)) :
    after.HoldsResults row.ownerId stored.id results := by
  obtain ⟨id, hid, rfl, rfl⟩ := Store.insertJob_eq_ok_iff.1 hstored
  refine ⟨Int.le_max_right _ _, fun other hother hsame => ?_⟩
  rcases Ordered.mem_of_mem_insert hother with rfl | hold
  · exact ⟨rfl, hresults⟩
  · have hless := hnumbered.fresh hid other hold
    simp only at hsame
    omega

theorem keepsResults_setResults {actor : Actor} {job : Job}
    (hnumbered : connection.store.JobsNumbered) (hget : get actor id connection.store = .ok job)
    (hread : Json.parse? document.compact = some document) :
    (setResults actor id document connection).result =
        .ok { job with results := some document.compact } ∧
      KeepsResults (setResults actor id document connection).connection actor.userId id
        document := by
  let stored : Job := { job with results := some document.compact }
  have hset : Transition.setResults actor id document connection.store =
      .ok (stored, connection.store.updateJob stored) :=
    Transition.setResults_eq_ok_iff.2 ⟨job, hget, rfl, rfl⟩
  have hrealizes := realizes_setResults actor id document
  refine ⟨hrealizes.result_eq_ok_iff.2 ⟨_, hset⟩, ?_⟩
  rw [hrealizes.connection_of_ok hset]
  obtain ⟨hjob, hid⟩ := Store.job?_eq_some (get_eq_ok_iff.1 hget).1
  exact keepsResults_of_holds (hnumbered.updateJob stored)
    (holdsResults_of_set hnumbered hget)
    ⟨stored, Store.mem_updateJob_iff.2 (.inr ⟨rfl, job, hjob, rfl⟩), hid⟩ hread

theorem keepsResults_create {actor : Actor} {now : Int} {job : NewJob}
    (hnumbered : connection.store.JobsNumbered) (hresults : job.results = some document)
    (hroom : connection.store.lastJobId < Decimal.maxId)
    (hread : Json.parse? document.compact = some document) :
    ∃ stored, (create actor now job connection).result = .ok stored ∧
      KeepsResults (create actor now job connection).connection actor.userId stored.id
        document := by
  have hid := Store.freshId?_eq_some_iff.2 ⟨hroom, rfl⟩
  obtain ⟨stored, after, hinserted⟩ : ∃ stored after,
      connection.store.insertJob (job.row actor now) = .ok (stored, after) :=
    ⟨_, _, Store.insertJob_eq_ok_iff.2 ⟨_, hid, rfl, rfl⟩⟩
  have hcreated := Transition.createJob_eq_ok_iff.2 hinserted
  have hrealizes := realizes_create actor now job
  refine ⟨stored, hrealizes.result_eq_ok_iff.2 ⟨after, hcreated⟩, ?_⟩
  rw [hrealizes.connection_of_ok hcreated]
  have hrow : (job.row actor now).results = some document.compact := by
    rw [NewJob.row, hresults]
    rfl
  exact keepsResults_of_holds (hnumbered.insertJob hinserted)
    (holdsResults_of_insert hnumbered hrow hinserted)
    ⟨stored, hnumbered.mem_insertJob hinserted, rfl⟩ hread

/-- The owner of a job may set its results, and a job may be made with results while there are
numbers left.  Either way a document whose numbers are integers and that is nested no deeper than a
reader goes is what everybody sees from then on, unless the transaction in which it was written is
undone; whatever a reader takes for a document is nested no deeper than that. -/
theorem results_kept (connection : Connection) (hnumbered : connection.store.JobsNumbered)
    (actor : Actor) (document : Json) (hcanonical : document.Canonical)
    (hintegers : document.FloatFree) (hdepth : document.depth ≤ Json.maxDepth) :
    (∀ id job, get actor id connection.store = .ok job →
      (setResults actor id document connection).result =
          .ok { job with results := some document.compact } ∧
        KeepsResults (setResults actor id document connection).connection actor.userId id
          document) ∧
      (∀ now (job : NewJob), job.results = some document →
        connection.store.lastJobId < Decimal.maxId →
          ∃ stored, (create actor now job connection).result = .ok stored ∧
            KeepsResults (create actor now job connection).connection actor.userId stored.id
              document) ∧
      ∀ text read, Json.parse? text = some read → read.Canonical ∧ read.depth ≤ Json.maxDepth := by
  have hread := Json.parse?_compact hcanonical hintegers hdepth
  refine ⟨fun id job hget => keepsResults_setResults hnumbered hget hread,
    fun now job hresults hroom => keepsResults_create hnumbered hresults hroom hread,
    fun text read hparsed => (Json.of_parse? hparsed).2⟩

/-- A document with the least and the greatest integer, and with characters that are escaped in
keys and strings. -/
def trickyDocument : Json :=
  .obj [("", .null), ("\x01\"\\", .arr [.int Json.minInteger, .int Json.maxInteger, .arr []]),
    ("é", .str "\n😀\x7f")]

/-- An import of user 7. -/
def oneImport : Connection where
  store := { jobs := [{ ({} : NewJob).row ⟨7, false⟩ 10 with id := 1 }], lastJobId := 1 }

/-- The import goes on, somebody else tries to set its results, and makes a job without a
document. -/
def laterCalls : List StoreCall :=
  [.ledger (.updateStatus ⟨7, false⟩ 20 1 .analysis), .ledger (.setResults ⟨8, false⟩ 1 (.int 0)),
    .ledger (.create ⟨8, false⟩ 30 { results := some .null })]

/-- An import that shows `1`. -/
def reportedImport : Job :=
  { ({ results := some (.int 1) } : NewJob).row ⟨7, false⟩ 10 with id := 1 }

/-- A transaction in which a control was stored, where no number is left for an edge. -/
def reportOpened : Connection where
  store := { GraphCall.controlAdded.store with jobs := [reportedImport], lastJobId := 1 }
  frames := [⟨none, { GraphCall.numbersGone with jobs := [reportedImport], lastJobId := 1 }⟩]

/-- The first import shows the document after all of the calls, and a job that is made with `null`
shows `null`.  The second one is set to `null` in the transaction; then somebody else maps the
control, which undoes the transaction, and the import shows `1` again. -/
theorem document_kept_or_undone :
    oneImport.store.JobsNumbered ∧ trickyDocument.Canonical ∧ trickyDocument.FloatFree ∧
      trickyDocument.depth ≤ Json.maxDepth ∧
      (∃ job, get ⟨7, false⟩ 1 (StoreCall.run laterCalls
            (setResults ⟨7, false⟩ 1 trickyDocument oneImport).connection).store = .ok job ∧
        ∃ log, job.log = .ok log ∧ log.results = some trickyDocument) ∧
      (∃ stored, (create ⟨7, false⟩ 20 { results := some .null } oneImport).result = .ok stored ∧
        KeepsResults (create ⟨7, false⟩ 20 { results := some .null } oneImport).connection 7
          stored.id .null) ∧
      let written := (setResults ⟨7, false⟩ 1 .null reportOpened).connection
      let after := (StoreCall.run [.graph GraphCall.controlMapped] written).store
      (setResults ⟨7, false⟩ 1 .null reportOpened).result =
          .ok { reportedImport with results := some "null" } ∧
        get ⟨7, false⟩ 1 after = .ok reportedImport ∧ ¬ShowsResults after 7 1 .null ∧
        StoreCall.UndoTransaction [.graph GraphCall.controlMapped] written := by
  have hnumbered : oneImport.store.JobsNumbered := ⟨List.pairwise_singleton _ _, by decide⟩
  have hintegerRange : Json.IntegerInRange Json.minInteger ∧
      Json.IntegerInRange Json.maxInteger := by decide
  have hcanonical : trickyDocument.Canonical :=
    ⟨⟨trivial, ⟨hintegerRange.1, hintegerRange.2, trivial, trivial⟩, trivial, trivial⟩,
      by decide +kernel⟩
  have hintegers : trickyDocument.FloatFree :=
    ⟨trivial, ⟨trivial, trivial, trivial, trivial⟩, trivial, trivial⟩
  have hdepth : trickyDocument.depth ≤ Json.maxDepth := by decide
  refine ⟨hnumbered, hcanonical, hintegers, hdepth, ?_, ?_, ?_⟩
  · obtain ⟨hset, _, _⟩ := results_kept oneImport hnumbered ⟨7, false⟩ trickyDocument hcanonical
      hintegers hdepth
    obtain ⟨_, hkeeps⟩ := hset 1 _ rfl
    obtain ⟨hshows, hstays⟩ := (hkeeps laterCalls
      (by simp [laterCalls, StoreCall.SetsResults])).resolve_right fun hundone => hundone.1 rfl
    obtain ⟨job, hjob, hid⟩ := hstays (by simp [laterCalls, StoreCall.ClearsImports])
    obtain ⟨hget, hlog⟩ := hshows.got job hjob hid ⟨7, false⟩ rfl
    exact ⟨job, hget, hlog⟩
  · obtain ⟨_, hcreate, _⟩ := results_kept oneImport hnumbered ⟨7, false⟩ .null trivial trivial
      (Nat.zero_le _)
    exact hcreate 20 { results := some .null } rfl (by decide)
  · intro written after
    obtain ⟨hset, _, _⟩ := results_kept reportOpened ⟨List.pairwise_singleton _ _, by decide⟩
      ⟨7, false⟩ .null trivial trivial (Nat.zero_le _)
    obtain ⟨hwritten, hkeeps⟩ := hset 1 reportedImport rfl
    have hends : (StoreCall.graph GraphCall.controlMapped).EndsTransaction written :=
      ⟨List.cons_ne_nil _ _, ⟨_, rfl⟩, Int.le_refl _⟩
    have hundone : after = written.committed := congrArg Connection.store hends.perform_eq.2
    have hread : reportedImport.readResults = .ok (some (.int 1)) :=
      Job.readResults_of_compact rfl
        (Json.parse?_compact (by constructor <;> decide) trivial (Nat.zero_le _))
    have hhidden : ¬ShowsResults after 7 1 .null := by
      intro hshows
      rw [hundone] at hshows
      obtain ⟨_, log, hlog, hnull⟩ :=
        hshows.got reportedImport List.mem_cons_self rfl ⟨7, false⟩ rfl
      rw [(Job.results_of_log hlog).2, hnull] at hread
      cases hread
    have hquiet : ∀ call ∈ [StoreCall.graph GraphCall.controlMapped], ¬call.SetsResults 7 1 :=
      List.forall_mem_singleton.2 not_false
    refine ⟨hwritten, ?_, hhidden, ?_⟩
    · rw [hundone]
      rfl
    · exact (hkeeps _ hquiet).resolve_left fun hkept => hhidden hkept.1

end Ledger

end RecordGraph
