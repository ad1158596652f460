import Mathlib.Data.List.Nodup
import RecordGraph.Proofs.LedgerTransitions
import RecordGraph.Proofs.Rows

/-!
# Runs of calls on the jobs

A run makes any calls one after the other, by any actors and whether they succeed or not.  Every
job keeps a number of its own: a new job gets a number greater than all that were ever given out.
The moves of a job in a run are the changes of its stage that succeeded.
-/

namespace RecordGraph

/-- A move of a job: when it was made, and the stage that it led to. -/
structure JobMove where
  time : Int
  target : JobStatus
deriving DecidableEq, Repr

namespace LedgerCall

/-- The connection after some calls, made one after the other whether they succeed or not. -/
def run (calls : List LedgerCall) (connection : Connection) : Connection :=
  calls.foldl (fun connection call => (call.perform connection).connection) connection

/-- The move that a call with this result made the job of a number do, if it did. -/
def moveOf (id : Int) : LedgerCall → Except GraphError Unit → List JobMove
  | updateStatus _ now moved target, .ok () => if moved = id then [⟨now, target⟩] else []
  | _, _ => []

/-- The moves of the job of a number in a run; refused calls move nothing. -/
def movesOf (id : Int) : List LedgerCall → Connection → List JobMove
  | [], _ => []
  | call :: rest, connection =>
    moveOf id call (call.perform connection).result ++
      movesOf id rest (call.perform connection).connection

theorem run_append (calls later : List LedgerCall) (connection : Connection) :
    run (calls ++ later) connection = run later (run calls connection) :=
  List.foldl_append

theorem movesOf_append (id : Int) (calls later : List LedgerCall) (connection : Connection) :
    movesOf id (calls ++ later) connection =
      movesOf id calls connection ++ movesOf id later (run calls connection) := by
  induction calls generalizing connection with
  | nil => rfl
  | cons call rest ih =>
    simp only [List.cons_append, movesOf, ih, List.append_assoc]
    rfl

/-- What each transition keeps is kept by every run. -/
theorem run_keeps {property : Store → Prop}
    (hstep : ∀ (call : LedgerCall) (store after : Store), property store →
      call.transition store = .ok ((), after) → property after)
    (calls : List LedgerCall) {connection : Connection} (hclosed : connection.frames = [])
    (hstart : property connection.store) :
    (run calls connection).frames = [] ∧ property (run calls connection).store :=
  Call.Realizes.foldl_keeps realizes_perform
    (fun call _ store _ after => hstep call store after) hclosed hstart

/-- A call that does nothing moves nothing. -/
theorem moveOf_error (id : Int) (call : LedgerCall) (error : GraphError) :
    moveOf id call (.error error) = [] := by
  cases call <;> rfl

/-! ## What a call does to a job -/

/-- The call puts a job in the place of one of its number. -/
def Replaces (old job : Job) : LedgerCall → Prop
  | updateStatus actor now id target =>
    old.id = id ∧ old.ownerId = actor.userId ∧ old.status.checkTransition target = .ok () ∧
      job = Ledger.moved now target old
  | setResults actor id document =>
    old.id = id ∧ old.ownerId = actor.userId ∧ job = { old with results := some document.compact }
  | create .. | deletePreviousImports _ => False

variable {call : LedgerCall} {store after : Store} {job : Job}

/-- A job that is there after a call was there before it, took the place of one of its number, or
has a new number. -/
theorem job_after_cases (hcall : call.transition store = .ok ((), after))
    (hjob : job ∈ after.jobs) :
    job ∈ store.jobs ∨ (∃ old ∈ store.jobs, old.id = job.id ∧ call.Replaces old job) ∨
      store.lastJobId < job.id := by
  cases call with
  | create actor now row =>
    obtain ⟨stored, hcreated⟩ := Transition.void_eq_ok_iff.1 hcall
    obtain ⟨id, hid, hrow, rfl⟩ :=
      Store.insertJob_eq_ok_iff.1 (Transition.createJob_eq_ok_iff.1 hcreated)
    rcases Ordered.mem_of_mem_insert hjob with rfl | hold
    · obtain ⟨_, hnext⟩ := Store.freshId?_eq_some_iff.1 hid
      have hnumber : job.id = id := by rw [hrow]
      exact .inr (.inr (by omega))
    · exact .inl hold
  | updateStatus actor now id target =>
    obtain ⟨_, hmoved⟩ := Transition.void_eq_ok_iff.1 hcall
    obtain ⟨found, hget, hfollows, rfl, rfl⟩ := Transition.updateStatus_eq_ok_iff.1 hmoved
    obtain ⟨hlookup, howner⟩ := Ledger.get_eq_ok_iff.1 hget
    obtain ⟨hfound, hid⟩ := Store.job?_eq_some hlookup
    rcases Store.mem_updateJob_iff.1 hjob with ⟨hold, _⟩ | ⟨rfl, _⟩
    · exact .inl hold
    · exact .inr (.inl ⟨found, hfound, rfl, hid, howner, hfollows, rfl⟩)
  | setResults actor id document =>
    obtain ⟨_, hset⟩ := Transition.void_eq_ok_iff.1 hcall
    obtain ⟨found, hget, rfl, rfl⟩ := Transition.setResults_eq_ok_iff.1 hset
    obtain ⟨hlookup, howner⟩ := Ledger.get_eq_ok_iff.1 hget
    obtain ⟨hfound, hid⟩ := Store.job?_eq_some hlookup
    rcases Store.mem_updateJob_iff.1 hjob with ⟨hold, _⟩ | ⟨rfl, _⟩
    · exact .inl hold
    · exact .inr (.inl ⟨found, hfound, rfl, hid, howner, rfl⟩)
  | deletePreviousImports actor =>
    obtain ⟨_, hcleared⟩ := Transition.void_eq_ok_iff.1 hcall
    obtain ⟨_, _, rfl⟩ := Transition.deletePreviousImports_eq_ok_iff.1 hcleared
    exact .inl (List.mem_of_mem_filter hjob)

/-- The last number never goes back. -/
theorem lastJobId_le (hcall : call.transition store = .ok ((), after)) :
    store.lastJobId ≤ after.lastJobId := by
  cases call with
  | create actor now row =>
    obtain ⟨_, hcreated⟩ := Transition.void_eq_ok_iff.1 hcall
    obtain ⟨_, _, _, rfl⟩ :=
      Store.insertJob_eq_ok_iff.1 (Transition.createJob_eq_ok_iff.1 hcreated)
    exact Int.le_max_left _ _
  | updateStatus actor now id target =>
    obtain ⟨_, hmoved⟩ := Transition.void_eq_ok_iff.1 hcall
    obtain ⟨_, _, _, _, rfl⟩ := Transition.updateStatus_eq_ok_iff.1 hmoved
    exact Int.le_refl _
  | setResults actor id document =>
    obtain ⟨_, hset⟩ := Transition.void_eq_ok_iff.1 hcall
    obtain ⟨_, _, _, rfl⟩ := Transition.setResults_eq_ok_iff.1 hset
    exact Int.le_refl _
  | deletePreviousImports actor =>
    obtain ⟨_, hcleared⟩ := Transition.void_eq_ok_iff.1 hcall
    obtain ⟨_, _, rfl⟩ := Transition.deletePreviousImports_eq_ok_iff.1 hcleared
    exact Int.le_refl _

/-- The number of a job stays in use, unless its owner clears waiting imports. -/
theorem job_stays (hcall : call.transition store = .ok ((), after)) (hjob : job ∈ store.jobs) :
    (∃ other ∈ after.jobs, other.id = job.id) ∨
      ∃ actor, call = .deletePreviousImports actor ∧ job.ownerId = actor.userId := by
  have hmapped : ∀ changed : Job, ∃ other ∈ (store.updateJob changed).jobs, other.id = job.id :=
    fun changed => List.mem_map.1 (store.map_id_updateJob changed ▸ List.mem_map_of_mem hjob)
  cases call with
  | create actor now row =>
    obtain ⟨_, hcreated⟩ := Transition.void_eq_ok_iff.1 hcall
    obtain ⟨_, _, _, rfl⟩ :=
      Store.insertJob_eq_ok_iff.1 (Transition.createJob_eq_ok_iff.1 hcreated)
    exact .inl ⟨job, Ordered.mem_insert_of_mem hjob, rfl⟩
  | updateStatus actor now id target =>
    obtain ⟨changed, hmoved⟩ := Transition.void_eq_ok_iff.1 hcall
    obtain ⟨_, _, _, _, rfl⟩ := Transition.updateStatus_eq_ok_iff.1 hmoved
    exact .inl (hmapped changed)
  | setResults actor id document =>
    obtain ⟨changed, hset⟩ := Transition.void_eq_ok_iff.1 hcall
    obtain ⟨_, _, _, rfl⟩ := Transition.setResults_eq_ok_iff.1 hset
    exact .inl (hmapped changed)
  | deletePreviousImports actor =>
    obtain ⟨_, hcleared⟩ := Transition.void_eq_ok_iff.1 hcall
    obtain ⟨_, _, rfl⟩ := Transition.deletePreviousImports_eq_ok_iff.1 hcleared
    by_cases hpending : Ledger.isPendingImport actor job = true
    · exact .inr ⟨actor, rfl, Ledger.owner_of_isPendingImport hpending⟩
    · refine .inl ⟨job, List.mem_filter.2 ⟨hjob, ?_⟩, rfl⟩
      rw [Bool.eq_false_iff.2 hpending]
      rfl

end LedgerCall

/-! ## Numbers of jobs -/

/-- Jobs have numbers of their own, none greater than the last that was given out. -/
structure Store.JobsNumbered (store : Store) : Prop where
  distinct : store.jobs.Pairwise fun left right => left.id ≠ right.id
  bounded : ∀ job ∈ store.jobs, job.id ≤ store.lastJobId

namespace Store.JobsNumbered

variable {store after : Store}

theorem empty : JobsNumbered Store.empty where
  distinct := List.Pairwise.nil
  bounded := by simp [Store.empty]

/-- A number names one job. -/
theorem eq_of_id_eq (hnumbered : store.JobsNumbered) {job other : Job} (hjob : job ∈ store.jobs)
    (hother : other ∈ store.jobs) (hid : other.id = job.id) : other = job := by
  have hnodup : (store.jobs.map Job.id).Nodup := List.pairwise_map.2 hnumbered.distinct
  exact List.inj_on_of_nodup_map hnodup hother hjob hid

theorem job?_eq_some_iff (hnumbered : store.JobsNumbered) {id : Int} {job : Job} :
    store.job? id = some job ↔ job ∈ store.jobs ∧ job.id = id :=
  find?_key_eq_some_iff (List.pairwise_map.2 hnumbered.distinct)

/-- The next number is new to all jobs. -/
theorem fresh (hnumbered : store.JobsNumbered) {id : Int}
    (hid : freshId? store.lastJobId = some id) : ∀ job ∈ store.jobs, job.id < id := by
  intro job hjob
  obtain ⟨_, rfl⟩ := freshId?_eq_some_iff.1 hid
  have hbound := hnumbered.bounded job hjob
  omega

/-- A job with a new number joins the jobs. -/
theorem jobs_insert_perm {job : Job} (hnew : ∀ other ∈ store.jobs, other.id < job.id) :
    (Ordered.insert Job.before job store.jobs).Perm (job :: store.jobs) := by
  apply Ordered.insert_perm
  intro other hother
  rw [Job.before, Job.before, decide_eq_true_eq, decide_eq_true_eq]
  exact .inr (hnew other hother)

theorem mem_insertJob {job stored : Job} (hnumbered : store.JobsNumbered)
    (hstored : store.insertJob job = .ok (stored, after)) : stored ∈ after.jobs := by
  obtain ⟨id, hid, rfl, rfl⟩ := insertJob_eq_ok_iff.1 hstored
  exact (jobs_insert_perm (hnumbered.fresh hid)).mem_iff.2 List.mem_cons_self

theorem insertJob {job stored : Job} (hnumbered : store.JobsNumbered)
    (hstored : store.insertJob job = .ok (stored, after)) : after.JobsNumbered := by
  obtain ⟨id, hid, rfl, rfl⟩ := insertJob_eq_ok_iff.1 hstored
  have hnew := hnumbered.fresh hid
  constructor
  · apply pairwise_of_perm_cons (jobs_insert_perm hnew) Ne.symm _ hnumbered.distinct
    intro other hother
    exact (Int.ne_of_lt (hnew other hother)).symm
  · intro other hother
    rcases Ordered.mem_of_mem_insert hother with rfl | hold
    · exact Int.le_max_right _ _
    · exact Int.le_trans (hnumbered.bounded other hold) (Int.le_max_left _ _)

theorem updateJob (hnumbered : store.JobsNumbered) (job : Job) :
    (store.updateJob job).JobsNumbered := by
  have hids := store.map_id_updateJob job
  constructor
  · have hdistinct : (store.jobs.map Job.id).Pairwise (· ≠ ·) :=
      List.pairwise_map.2 hnumbered.distinct
    rw [← hids] at hdistinct
    exact List.pairwise_map.1 hdistinct
  · intro other hother
    have hid : other.id ∈ (store.updateJob job).jobs.map Job.id := List.mem_map_of_mem hother
    rw [hids] at hid
    obtain ⟨old, hold, hsame⟩ := List.mem_map.1 hid
    rw [← hsame]
    exact hnumbered.bounded old hold

theorem transition (call : LedgerCall) (store after : Store) (hnumbered : store.JobsNumbered)
    (hcall : call.transition store = .ok ((), after)) : after.JobsNumbered := by
  cases call with
  | create actor now job =>
    obtain ⟨_, hcreated⟩ := Transition.void_eq_ok_iff.1 hcall
    exact hnumbered.insertJob (Transition.createJob_eq_ok_iff.1 hcreated)
  | updateStatus actor now id target =>
    obtain ⟨_, hmoved⟩ := Transition.void_eq_ok_iff.1 hcall
    obtain ⟨_, _, _, _, rfl⟩ := Transition.updateStatus_eq_ok_iff.1 hmoved
    exact hnumbered.updateJob _
  | setResults actor id document =>
    obtain ⟨_, hset⟩ := Transition.void_eq_ok_iff.1 hcall
    obtain ⟨_, _, _, rfl⟩ := Transition.setResults_eq_ok_iff.1 hset
    exact hnumbered.updateJob _
  | deletePreviousImports actor =>
    obtain ⟨_, hcleared⟩ := Transition.void_eq_ok_iff.1 hcall
    obtain ⟨_, _, rfl⟩ := Transition.deletePreviousImports_eq_ok_iff.1 hcleared
    constructor
    · exact hnumbered.distinct.filter _
    · intro job hjob
      exact hnumbered.bounded job (List.mem_filter.1 hjob).1

/-- After any run on a fresh store. -/
theorem run_empty (calls : List LedgerCall) :
    (LedgerCall.run calls {}).frames = [] ∧ (LedgerCall.run calls {}).store.JobsNumbered :=
  LedgerCall.run_keeps transition calls rfl empty

end Store.JobsNumbered

end RecordGraph
