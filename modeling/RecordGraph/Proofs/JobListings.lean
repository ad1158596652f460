import Mathlib.Data.List.Forall2
import RecordGraph.Proofs.JobSeparation
import RecordGraph.Proofs.StoredResults

/-!
# Listing jobs against getting them

A user gets one job by its number, which is looked up first and then compared with the user, or a
list of jobs, which are selected by owner, kind and numbers at once.  Both ways take the same jobs
for the user's own.  A listing holds the log of each selected job, and fails only because the
results of a selected job cannot be read; the other jobs of the table change nothing.
-/

namespace RecordGraph

/-! ## Logs of several jobs -/

namespace Job

/-- The job holds a text of results that stands for no document. -/
def Unreadable (job : Job) : Prop :=
  ∃ text, job.results = some text ∧ text ≠ "" ∧ Json.parse? text = none

variable {job : Job} {jobs : List Job} {error : GraphError}

theorem readResults_eq_error_iff :
    job.readResults = .error error ↔ error = .json ∧ job.Unreadable := by
  rw [readResults, Unreadable]
  cases job.results with
  | none => simp
  | some text =>
    simp only [Option.some.injEq, exists_eq_left', String.isEmpty_iff]
    split
    · next hempty => simp [hempty]
    · next hempty =>
      cases hparse : Json.parse? text with
      | none => simp [hempty, eq_comm]
      | some document => simp

theorem log_eq_error_iff : job.log = .error error ↔ error = .json ∧ job.Unreadable := by
  rw [← readResults_eq_error_iff, log]
  cases job.readResults with
  | error found => simp
  | ok results => simp

theorem log_ok_iff_readable : (∃ log, job.log = .ok log) ↔ ¬job.Unreadable := by
  rcases job.log_cases with hfailed | ⟨log, hlog⟩
  · have hunreadable := (log_eq_error_iff.1 hfailed).2
    exact iff_of_false (by simp [hfailed]) (not_not_intro hunreadable)
  · refine iff_of_true ⟨log, hlog⟩ fun hunreadable => ?_
    rw [log_eq_error_iff.2 ⟨rfl, hunreadable⟩] at hlog
    cases hlog

/-- The logs of several jobs are one log for each, in their order. -/
theorem logs_eq_ok_iff {logs : List JobLog} :
    Job.logs jobs = .ok logs ↔ List.Forall₂ (fun job log => job.log = .ok log) jobs logs := by
  induction jobs generalizing logs with
  | nil => simp [Job.logs, eq_comm]
  | cons job rest ih =>
    rw [Job.logs, List.forall₂_cons_left_iff]
    simp only [← ih]
    cases job.log with
    | error error => simp
    | ok log =>
      cases Job.logs rest with
      | error error => simp
      | ok others => simp [eq_comm]

theorem logs_eq_error_iff :
    Job.logs jobs = .error error ↔ error = .json ∧ ∃ job ∈ jobs, job.Unreadable := by
  have hreadable : (∃ logs, Job.logs jobs = .ok logs) ↔ ¬∃ job ∈ jobs, job.Unreadable := by
    simp only [logs_ok_iff, log_ok_iff_readable, not_exists, not_and]
  rcases logs_cases jobs with hfailed | ⟨logs, hlogs⟩
  · have hsome : ∃ job ∈ jobs, job.Unreadable := by
      by_contra hnone
      obtain ⟨logs, hlogs⟩ := hreadable.2 hnone
      rw [hfailed] at hlogs
      cases hlogs
    simp [hfailed, hsome, eq_comm]
  · simp [hlogs, hreadable.1 ⟨logs, hlogs⟩]

end Job

namespace Ledger

/-! ## The selection -/

/-- The numbers that a listing is asked for let a job in.  Absent numbers and none at all restrict
nothing. -/
def Admits (ids : Option (List Int)) (id : Int) : Prop :=
  ids = none ∨ ids = some [] ∨ ∃ given, ids = some given ∧ id ∈ given

variable {store other : Store} {actor : Actor} {kind : JobKind}
variable {ids : Option (List Int)} {job : Job}

theorem idSelected_iff {id : Int} : idSelected ids id = true ↔ Admits ids id := by
  cases ids with
  | none => simp [idSelected, Admits]
  | some given => simp [idSelected, Admits]

theorem mem_selected_iff :
    job ∈ selected actor kind ids store ↔
      job ∈ store.jobs ∧ job.ownerId = actor.userId ∧ job.kind = kind ∧ Admits ids job.id := by
  simp [selected, idSelected_iff, and_assoc]

/-- The actor gets by its number just the jobs of its own. -/
theorem get_id_eq_ok_iff (hordered : store.JobsOrdered) :
    get actor job.id store = .ok job ↔ job ∈ store.jobs ∧ job.ownerId = actor.userId := by
  rw [get_eq_ok_iff, hordered.job?_eq_some_iff, and_iff_left rfl]

/-- Tables in order that hold the same jobs of the actor, of the kind and under the numbers give the
same selection. -/
theorem selected_congr (hordered : store.JobsOrdered) (hother : other.JobsOrdered)
    (hsame : ∀ job : Job, job.ownerId = actor.userId → job.kind = kind → Admits ids job.id →
      (job ∈ other.jobs ↔ job ∈ store.jobs)) :
    selected actor kind ids other = selected actor kind ids store := by
  refine hother.filter_eq hordered fun job => ?_
  change job ∈ selected actor kind ids other ↔ job ∈ selected actor kind ids store
  rw [mem_selected_iff, mem_selected_iff]
  refine and_congr_left fun hwanted => ?_
  obtain ⟨howner, hkind, hadmits⟩ := hwanted
  exact hsame job howner hkind hadmits

/-! ## The listing -/

/-- What a listing is made of, and how it agrees with getting the jobs one by one. -/
structure ListingAgrees (store : Store) (actor : Actor) (kind : JobKind)
    (ids : Option (List Int)) : Prop where
  /-- Selected is what the actor gets by its number, is of the kind and is asked for. -/
  taken : ∀ job, job ∈ selected actor kind ids store ↔
    get actor job.id store = .ok job ∧ job.kind = kind ∧ Admits ids job.id
  /-- Each selected job is selected once, in the order of the numbers. -/
  ordered : (selected actor kind ids store).Pairwise fun left right => left.id < right.id
  /-- The listing succeeds where the log of every selected job does. -/
  granted : (∃ logs, list actor kind ids store = .ok logs) ↔
    ∀ job ∈ selected actor kind ids store, ∃ log, job.log = .ok log
  /-- It then holds these logs, one for each selected job and in the same order. -/
  logs : ∀ logs, list actor kind ids store = .ok logs ↔
    List.Forall₂ (fun job log => job.log = .ok log) (selected actor kind ids store) logs
  /-- It fails where the results of a selected job cannot be read, and for no other reason. -/
  refused : ∀ error, list actor kind ids store = .error error ↔
    error = .json ∧ ∃ job ∈ selected actor kind ids store, job.Unreadable
  /-- A table that differs in other jobs only gives the same listing. -/
  unaffected : ∀ other : Store, other.JobsOrdered →
    (∀ job : Job, job.ownerId = actor.userId → job.kind = kind → Admits ids job.id →
      (job ∈ other.jobs ↔ job ∈ store.jobs)) →
    list actor kind ids other = list actor kind ids store

/-- Whatever jobs there are, and whoever asks for jobs of whatever kind and numbers, the listing is
made of the jobs that the actor gets by their numbers, and of these alone. -/
theorem list_agrees_with_get (store : Store) (hordered : store.JobsOrdered) (actor : Actor)
    (kind : JobKind) (ids : Option (List Int)) : ListingAgrees store actor kind ids where
  taken job := by rw [mem_selected_iff, get_id_eq_ok_iff hordered, and_assoc]
  ordered := hordered.filter _
  granted := Job.logs_ok_iff
  logs _ := Job.logs_eq_ok_iff
  refused _ := Job.logs_eq_error_iff
  unaffected _ hother hsame := congrArg Job.logs (selected_congr hordered hother hsame)

/-- A job with results that cannot be read. -/
def brokenJob (actor : Actor) (kind : JobKind) (id : Int) : Job :=
  { ({ kind } : NewJob).row actor 10 with id, results := some "(" }

/-- An import of user 7 without results. -/
def plainImport : Job := { ({} : NewJob).row ⟨7, false⟩ 10 with id := 1 }

/-- Beside the plain import there are results that cannot be read: in an import of another user, in
an export and in a second import. -/
def mixedJobs : Store where
  jobs := [plainImport, brokenJob ⟨8, false⟩ .importing 2, brokenJob ⟨7, false⟩ .exporting 3,
    brokenJob ⟨7, false⟩ .importing 5]
  lastJobId := 5

/-- Numbers of other users, unknown ones and repeated ones leave a listing of the plain import; no
numbers at all select the second import as well. -/
theorem plain_import_listed :
    mixedJobs.JobsOrdered ∧
      (∃ log, plainImport.log = .ok log ∧
        list ⟨7, false⟩ .importing (some [9, 2, 1, 3, 1]) mixedJobs = .ok [log]) ∧
      list ⟨7, false⟩ .importing (some []) mixedJobs = .error .json := by
  have hordered : mixedJobs.JobsOrdered := by
    rw [Store.JobsOrdered]
    decide
  have hsome := list_agrees_with_get mixedJobs hordered ⟨7, false⟩ .importing (some [9, 2, 1, 3, 1])
  have hnone := list_agrees_with_get mixedJobs hordered ⟨7, false⟩ .importing (some [])
  have hplain : selected ⟨7, false⟩ .importing (some [9, 2, 1, 3, 1]) mixedJobs =
      [plainImport] := by decide
  have hbroken : brokenJob ⟨7, false⟩ .importing 5 ∈
      selected ⟨7, false⟩ .importing (some []) mixedJobs := by decide
  refine ⟨hordered, ⟨_, rfl, (hsome.logs _).2 ?_⟩, (hnone.refused _).2 ⟨rfl, _, hbroken, ?_⟩⟩
  · rw [hplain]
    exact .cons rfl .nil
  · exact ⟨"(", rfl, by decide, rfl⟩

end Ledger

end RecordGraph
