import RecordGraph.Job.Ledger
import RecordGraph.Proofs.Transition

/-!
# What the operations on jobs do to a store

Making a job, moving it, setting its results and clearing waiting imports are transitions of the
store like those on the graph: a question whether the actor may, then one change of the jobs.
-/

namespace RecordGraph

/-! ## The transitions -/

namespace Transition

open Ledger

def createJob (actor : Actor) (now : Int) (job : NewJob) : Transition Job := fun store =>
  (store.insertJob (job.row actor now)).mapError explainJob

def updateStatus (actor : Actor) (now : Int) (id : Int) (target : JobStatus) : Transition Job :=
  fun store => do
    let job ← Ledger.get actor id store
    job.status.checkTransition target
    return (moved now target job, store.updateJob (moved now target job))

def setResults (actor : Actor) (id : Int) (document : Json) : Transition Job := fun store => do
  let job ← Ledger.get actor id store
  let after := { job with results := some document.compact }
  return (after, store.updateJob after)

def deletePreviousImports (actor : Actor) : Transition Nat := fun store =>
  if store.jobs.any (isActiveImport actor) then .error (.badRequest "Import in progress")
  else
    .ok (store.jobs.countP (isPendingImport actor),
      { store with jobs := store.jobs.filter (fun job => !isPendingImport actor job) })

end Transition

namespace Ledger

/-! ## Checks -/

theorem get_ne_full (actor : Actor) (id : Int) (store : Store) :
    get actor id store ≠ .error (.storage .full) := by
  rw [get]
  cases store.job? id with
  | none => simp
  | some job =>
    by_cases howner : job.ownerId = actor.userId
    · simp [howner]
    · simp [howner]

theorem checkTransition_ne_full (current target : JobStatus) :
    current.checkTransition target ≠ .error (.storage .full) := by
  rw [JobStatus.checkTransition]
  split
  · simp
  · simp

theorem explainJob_eq_full_iff {failure : RowFailure} :
    explainJob failure = .storage .full ↔ failure = .full := by
  cases failure <;> simp [explainJob]

theorem get_eq_ok_iff {actor : Actor} {id : Int} {store : Store} {job : Job} :
    get actor id store = .ok job ↔ store.job? id = some job ∧ job.ownerId = actor.userId := by
  rw [get]
  cases store.job? id with
  | none => simp
  | some found =>
    by_cases howner : found.ownerId = actor.userId
    · simp only [howner, if_true, Except.ok.injEq, Option.some.injEq]
      constructor
      · intro hsame
        subst hsame
        exact ⟨rfl, howner⟩
      · exact And.left
    · simp only [howner, if_false, reduceCtorEq, Option.some.injEq, false_iff, not_and]
      intro hsame
      subst hsame
      exact howner

theorem owner_of_isActiveImport {actor : Actor} {job : Job}
    (hactive : isActiveImport actor job = true) : job.ownerId = actor.userId := by
  simp only [isActiveImport, Bool.and_eq_true, beq_iff_eq] at hactive
  exact hactive.1.1

theorem owner_of_isPendingImport {actor : Actor} {job : Job}
    (hpending : isPendingImport actor job = true) : job.ownerId = actor.userId := by
  simp only [isPendingImport, Bool.and_eq_true, beq_iff_eq] at hpending
  exact hpending.1.1

theorem checkTransition_eq_ok_iff {current target : JobStatus} :
    current.checkTransition target = .ok () ↔ target ∈ current.successors := by
  rw [JobStatus.checkTransition]
  split
  · next hfollows => simp [hfollows]
  · next hother => simp [hother]

end Ledger

/-! ## Rows -/

namespace Store

theorem job?_eq_some {store : Store} {id : Int} {job : Job} (hfound : store.job? id = some job) :
    job ∈ store.jobs ∧ job.id = id :=
  ⟨List.mem_of_find?_eq_some hfound, by simpa using List.find?_some hfound⟩

theorem insertJob_eq_ok_iff {store after : Store} {job stored : Job} :
    store.insertJob job = .ok (stored, after) ↔
      ∃ id, freshId? store.lastJobId = some id ∧ stored = { job with id } ∧
        after = { store with
          jobs := Ordered.insert Job.before stored store.jobs
          lastJobId := max store.lastJobId id } := by
  rw [insertJob]
  cases freshId? store.lastJobId with
  | none => simp
  | some id =>
    simp only [Except.ok.injEq, Prod.mk.injEq, Option.some.injEq]
    constructor
    · intro hstored
      obtain ⟨rfl, rfl⟩ := hstored
      exact ⟨id, rfl, rfl, rfl⟩
    · intro hrow
      obtain ⟨_, rfl, rfl, rfl⟩ := hrow
      exact ⟨rfl, rfl⟩

/-- Putting a job in its place changes no number. -/
theorem map_id_updateJob (store : Store) (job : Job) :
    (store.updateJob job).jobs.map Job.id = store.jobs.map Job.id := by
  rw [updateJob, List.map_map]
  refine List.map_congr_left fun old _ => ?_
  rw [Function.comp_apply]
  split
  · next hsame => exact (beq_iff_eq.1 hsame).symm
  · rfl

/-- Putting a job in its place leaves the jobs of other numbers. -/
theorem mem_updateJob_iff {store : Store} {job other : Job} :
    other ∈ (store.updateJob job).jobs ↔
      (other ∈ store.jobs ∧ other.id ≠ job.id) ∨
        (other = job ∧ ∃ old ∈ store.jobs, old.id = job.id) := by
  simp only [updateJob, List.mem_map, beq_iff_eq]
  constructor
  · intro hmapped
    obtain ⟨old, hold, hother⟩ := hmapped
    by_cases hid : old.id = job.id
    · rw [if_pos hid] at hother
      exact .inr ⟨hother.symm, old, hold, hid⟩
    · rw [if_neg hid] at hother
      rw [← hother]
      exact .inl ⟨hold, hid⟩
  · intro hcases
    rcases hcases with ⟨hstored, hid⟩ | ⟨rfl, old, hold, hid⟩
    · exact ⟨other, hstored, if_neg hid⟩
    · exact ⟨old, hold, if_pos hid⟩

end Store

/-! ## Success -/

namespace Transition

open Ledger

theorem createJob_eq_ok_iff {actor : Actor} {now : Int} {job : NewJob} {store after : Store}
    {stored : Job} :
    createJob actor now job store = .ok (stored, after) ↔
      store.insertJob (job.row actor now) = .ok (stored, after) :=
  mapError_eq_ok_iff

theorem updateStatus_eq_ok_iff {actor : Actor} {now id : Int} {target : JobStatus}
    {store after : Store} {result : Job} :
    updateStatus actor now id target store = .ok (result, after) ↔
      ∃ job, Ledger.get actor id store = .ok job ∧ job.status.checkTransition target = .ok () ∧
        result = moved now target job ∧ after = store.updateJob result := by
  simp only [updateStatus, bind_eq_ok_iff, pure, Except.pure, Except.ok.injEq, Prod.mk.injEq]
  constructor
  · intro hmoved
    obtain ⟨job, hjob, _, hfollows, rfl, rfl⟩ := hmoved
    exact ⟨job, hjob, hfollows, rfl, rfl⟩
  · intro hparts
    obtain ⟨job, hjob, hfollows, rfl, rfl⟩ := hparts
    exact ⟨job, hjob, (), hfollows, rfl, rfl⟩

theorem setResults_eq_ok_iff {actor : Actor} {id : Int} {document : Json} {store after : Store}
    {result : Job} :
    setResults actor id document store = .ok (result, after) ↔
      ∃ job, Ledger.get actor id store = .ok job ∧
        result = { job with results := some document.compact } ∧
        after = store.updateJob result := by
  simp only [setResults, bind_eq_ok_iff, pure, Except.pure, Except.ok.injEq, Prod.mk.injEq]
  constructor
  · intro hset
    obtain ⟨job, hjob, rfl, rfl⟩ := hset
    exact ⟨job, hjob, rfl, rfl⟩
  · intro hparts
    obtain ⟨job, hjob, rfl, rfl⟩ := hparts
    exact ⟨job, hjob, rfl, rfl⟩

theorem deletePreviousImports_eq_ok_iff {actor : Actor} {store after : Store} {count : Nat} :
    deletePreviousImports actor store = .ok (count, after) ↔
      store.jobs.any (isActiveImport actor) = false ∧
        count = store.jobs.countP (isPendingImport actor) ∧
        after = { store with
          jobs := store.jobs.filter (fun job => !isPendingImport actor job) } := by
  rw [deletePreviousImports]
  cases store.jobs.any (isActiveImport actor) with
  | true => simp
  | false => simp [eq_comm]

end Transition

namespace Ledger

/-! ## The operations realize their transitions -/

theorem realizes_create (actor : Actor) (now : Int) (job : NewJob) :
    (create actor now job).Realizes (Transition.createJob actor now job) :=
  Call.realizes_insertRow (fun store => store.insertJob (job.row actor now)) explainJob
    fun _ => explainJob_eq_full_iff

theorem realizes_updateStatus (actor : Actor) (now : Int) (id : Int) (target : JobStatus) :
    (updateStatus actor now id target).Realizes
      (Transition.updateStatus actor now id target) := by
  have hget := (Call.realizes_check (get actor id) (get_ne_full actor id)).follows
  have hsteps := hget.andThen fun job =>
    (Call.realizes_check (fun _ => job.status.checkTransition target)
      (fun _ => checkTransition_ne_full job.status target)).follows.andThen fun _ =>
        (Call.realizes_change (fun store => store.updateJob (moved now target job))).follows.andThen
          fun _ => (Call.realizes_succeed (moved now target job)).follows
  refine (hsteps.inSavepoint "job_status").congr fun store => ?_
  simp only [Transition.andThen, Transition.read, Transition.change, Transition.updateStatus]
  cases get actor id store with
  | error error => rfl
  | ok job =>
    simp only [Except.map, bind, Except.bind]
    cases job.status.checkTransition target with
    | error error => rfl
    | ok _ => rfl

theorem realizes_setResults (actor : Actor) (id : Int) (document : Json) :
    (setResults actor id document).Realizes (Transition.setResults actor id document) := by
  have hget := (Call.realizes_check (get actor id) (get_ne_full actor id)).follows
  have hsteps := hget.andThen fun job =>
    (Call.realizes_change (fun store =>
      store.updateJob { job with results := some document.compact })).follows.andThen
        fun _ => (Call.realizes_succeed { job with results := some document.compact }).follows
  refine (hsteps.inSavepoint "job_results").congr fun store => ?_
  simp only [Transition.andThen, Transition.read, Transition.change, Transition.setResults]
  cases get actor id store with
  | error error => rfl
  | ok job => rfl

theorem realizes_deletePreviousImports (actor : Actor) :
    (deletePreviousImports actor).Realizes (Transition.deletePreviousImports actor) := by
  let count : Store → Except GraphError Nat := fun store =>
    if store.jobs.any (isActiveImport actor) then .error (.badRequest "Import in progress")
    else .ok (store.jobs.countP (isPendingImport actor))
  have hcount : ∀ store, count store ≠ .error (.storage .full) := by
    intro store
    simp only [count]
    split <;> simp
  let clear : Store → Store := fun store =>
    { store with jobs := store.jobs.filter (fun job => !isPendingImport actor job) }
  have hsteps := (Call.realizes_check count hcount).follows.andThen fun number =>
    (Call.realizes_change clear).follows.andThen fun _ => (Call.realizes_succeed number).follows
  refine (hsteps.inSavepoint "delete_previous_imports").congr fun store => ?_
  simp only [Transition.andThen, Transition.read, Transition.change,
    Transition.deletePreviousImports, count, clear]
  cases store.jobs.any (isActiveImport actor) with
  | true => rfl
  | false => rfl

end Ledger

/-! ## Calls -/

/-- One call that changes the jobs. -/
inductive LedgerCall where
  | create (actor : Actor) (now : Int) (job : Ledger.NewJob)
  | updateStatus (actor : Actor) (now : Int) (id : Int) (target : JobStatus)
  | setResults (actor : Actor) (id : Int) (document : Json)
  | deletePreviousImports (actor : Actor)

namespace LedgerCall

/-- Make the call; of its value nothing is kept. -/
def perform : LedgerCall → Call Unit
  | create actor now job => (Ledger.create actor now job).void
  | updateStatus actor now id target => (Ledger.updateStatus actor now id target).void
  | setResults actor id document => (Ledger.setResults actor id document).void
  | deletePreviousImports actor => (Ledger.deletePreviousImports actor).void

def transition : LedgerCall → Transition Unit
  | create actor now job => (Transition.createJob actor now job).void
  | updateStatus actor now id target => (Transition.updateStatus actor now id target).void
  | setResults actor id document => (Transition.setResults actor id document).void
  | deletePreviousImports actor => (Transition.deletePreviousImports actor).void

theorem realizes_perform (call : LedgerCall) : call.perform.Realizes call.transition := by
  cases call with
  | create actor now job => exact (Ledger.realizes_create actor now job).void
  | updateStatus actor now id target =>
    exact (Ledger.realizes_updateStatus actor now id target).void
  | setResults actor id document => exact (Ledger.realizes_setResults actor id document).void
  | deletePreviousImports actor => exact (Ledger.realizes_deletePreviousImports actor).void

/-- A call on the jobs changes nothing but the jobs and their last number. -/
theorem eq_withJobs_of_transition {call : LedgerCall} {store after : Store}
    (hcall : call.transition store = .ok ((), after)) :
    ∃ jobs last, after = { store with jobs, lastJobId := last } := by
  cases call with
  | create actor now job =>
    obtain ⟨_, hcreated⟩ := Transition.void_eq_ok_iff.1 hcall
    obtain ⟨_, _, _, rfl⟩ :=
      Store.insertJob_eq_ok_iff.1 (Transition.createJob_eq_ok_iff.1 hcreated)
    exact ⟨_, _, rfl⟩
  | updateStatus actor now id target =>
    obtain ⟨_, hmoved⟩ := Transition.void_eq_ok_iff.1 hcall
    obtain ⟨_, _, _, _, rfl⟩ := Transition.updateStatus_eq_ok_iff.1 hmoved
    exact ⟨_, _, rfl⟩
  | setResults actor id document =>
    obtain ⟨_, hset⟩ := Transition.void_eq_ok_iff.1 hcall
    obtain ⟨_, _, _, rfl⟩ := Transition.setResults_eq_ok_iff.1 hset
    exact ⟨_, _, rfl⟩
  | deletePreviousImports actor =>
    obtain ⟨_, hcleared⟩ := Transition.void_eq_ok_iff.1 hcall
    obtain ⟨_, _, rfl⟩ := Transition.deletePreviousImports_eq_ok_iff.1 hcleared
    exact ⟨_, _, rfl⟩

end LedgerCall

end RecordGraph
