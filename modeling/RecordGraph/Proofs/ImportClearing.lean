import RecordGraph.Proofs.FailureAtomicity

/-!
# Clearing the waiting imports of a user

Clearing works with two lists of stages: those in which an import is under way, which stop it, and
those in which an import waits, which it removes.  Together with the terminal stages the two lists
name every stage.  So the imports that a user has left after clearing have all ended, and nothing
is left to clear.
-/

namespace RecordGraph

/-! ## Stages -/

namespace JobStatus

/-- Stages in which a job is being worked on. -/
def UnderWay (status : JobStatus) : Prop := status = .analysis ∨ status = .inProgress

/-- Stages in which a job waits for its user. -/
def Waits (status : JobStatus) : Prop := status = .notStarted ∨ status = .blocked

instance (status : JobStatus) : Decidable status.UnderWay :=
  inferInstanceAs (Decidable (_ ∨ _))

instance (status : JobStatus) : Decidable status.Waits :=
  inferInstanceAs (Decidable (_ ∨ _))

/-- No stage is left out: a job that is not under way and does not wait has ended. -/
theorem isTerminal_iff {status : JobStatus} :
    status.isTerminal = true ↔ ¬status.UnderWay ∧ ¬status.Waits := by
  cases status <;> simp [isTerminal, UnderWay, Waits]

end JobStatus

namespace Job

variable {actor : Actor} {job : Job}

/-- The job is an import of the actor. -/
def ImportOf (actor : Actor) (job : Job) : Prop :=
  job.ownerId = actor.userId ∧ job.kind = .importing

def RunningImportOf (actor : Actor) (job : Job) : Prop :=
  job.ImportOf actor ∧ job.status.UnderWay

def WaitingImportOf (actor : Actor) (job : Job) : Prop :=
  job.ImportOf actor ∧ job.status.Waits

instance (actor : Actor) : DecidablePred (WaitingImportOf actor) := fun _ =>
  inferInstanceAs (Decidable ((_ ∧ _) ∧ _))

theorem isActiveImport_iff :
    Ledger.isActiveImport actor job = true ↔ job.RunningImportOf actor := by
  simp [Ledger.isActiveImport, RunningImportOf, ImportOf, JobStatus.UnderWay]

theorem isPendingImport_iff :
    Ledger.isPendingImport actor job = true ↔ job.WaitingImportOf actor := by
  simp [Ledger.isPendingImport, WaitingImportOf, ImportOf, JobStatus.Waits]

end Job

/-! ## Clearing -/

namespace Store

variable {actor : Actor} {store : Store} {job : Job}

def HasRunningImport (actor : Actor) (store : Store) : Prop :=
  ∃ job ∈ store.jobs, job.RunningImportOf actor

/-- The store without the actor's waiting imports. -/
def withoutWaitingImports (actor : Actor) (store : Store) : Store :=
  { store with jobs := store.jobs.filter fun job => ¬job.WaitingImportOf actor }

theorem mem_withoutWaitingImports_iff :
    job ∈ (store.withoutWaitingImports actor).jobs ↔
      job ∈ store.jobs ∧ ¬job.WaitingImportOf actor := by
  rw [withoutWaitingImports, List.mem_filter, decide_eq_true_eq]

theorem not_hasRunningImport_cleared (hnone : ¬store.HasRunningImport actor) :
    ¬(store.withoutWaitingImports actor).HasRunningImport actor := by
  rintro ⟨job, hkept, hrunning⟩
  exact hnone ⟨job, (mem_withoutWaitingImports_iff.1 hkept).1, hrunning⟩

/-- What is left of a user's imports neither waits nor is under way. -/
theorem isTerminal_of_cleared (hnone : ¬store.HasRunningImport actor)
    (hkept : job ∈ (store.withoutWaitingImports actor).jobs) (himport : job.ImportOf actor) :
    job.status.isTerminal = true := by
  obtain ⟨hstored, hstays⟩ := mem_withoutWaitingImports_iff.1 hkept
  rw [JobStatus.isTerminal_iff]
  constructor
  · intro hunderWay
    exact hnone ⟨job, hstored, himport, hunderWay⟩
  · intro hwaits
    exact hstays ⟨himport, hwaits⟩

theorem countP_waiting_cleared :
    (store.withoutWaitingImports actor).jobs.countP (fun job => job.WaitingImportOf actor) = 0 := by
  rw [List.countP_eq_zero]
  intro job hkept hwaiting
  exact (mem_withoutWaitingImports_iff.1 hkept).2 (of_decide_eq_true hwaiting)

theorem withoutWaitingImports_cleared :
    (store.withoutWaitingImports actor).withoutWaitingImports actor =
      store.withoutWaitingImports actor := by
  simp only [withoutWaitingImports, List.filter_filter, Bool.and_self]

end Store

namespace Transition

open Ledger

variable {actor : Actor} {store : Store}

theorem deletePreviousImports_of_running (hrunning : store.HasRunningImport actor) :
    deletePreviousImports actor store = .error (.badRequest "Import in progress") := by
  obtain ⟨job, hstored, hjob⟩ := hrunning
  rw [deletePreviousImports,
    if_pos (List.any_eq_true.2 ⟨job, hstored, Job.isActiveImport_iff.2 hjob⟩)]

theorem deletePreviousImports_of_not_running (hnone : ¬store.HasRunningImport actor) :
    deletePreviousImports actor store =
      .ok (store.jobs.countP fun job => job.WaitingImportOf actor,
        store.withoutWaitingImports actor) := by
  have hactive : ¬store.jobs.any (isActiveImport actor) = true := by
    rw [List.any_eq_true]
    rintro ⟨job, hstored, hjob⟩
    exact hnone ⟨job, hstored, Job.isActiveImport_iff.1 hjob⟩
  have hpending : isPendingImport actor = fun job => decide (job.WaitingImportOf actor) :=
    funext fun _ => Bool.eq_iff_iff.2 (Job.isPendingImport_iff.trans decide_eq_true_iff.symm)
  rw [deletePreviousImports, if_neg hactive, hpending]
  simp only [Store.withoutWaitingImports, decide_not]

/-- Clearing again finds nothing. -/
theorem deletePreviousImports_cleared (hnone : ¬store.HasRunningImport actor) :
    deletePreviousImports actor (store.withoutWaitingImports actor) =
      .ok (0, store.withoutWaitingImports actor) := by
  rw [deletePreviousImports_of_not_running (Store.not_hasRunningImport_cleared hnone),
    Store.countP_waiting_cleared, Store.withoutWaitingImports_cleared]

end Transition

namespace Ledger

/-- A user who has an import under way cannot clear, and the attempt changes nothing.  Otherwise
just the user's waiting imports go and are counted, the imports that the user has left have ended,
and clearing again removes none. -/
theorem clearing_leaves_ended_imports (actor : Actor) (connection : Connection) :
    let store := connection.store
    let cleared := { connection with store := store.withoutWaitingImports actor }
    (store.HasRunningImport actor ∧
        (deletePreviousImports actor connection).result =
          .error (.badRequest "Import in progress") ∧
        (deletePreviousImports actor connection).connection = connection) ∨
      (¬store.HasRunningImport actor ∧
        (deletePreviousImports actor connection).result =
          .ok (store.jobs.countP fun job => job.WaitingImportOf actor) ∧
        (deletePreviousImports actor connection).connection = cleared ∧
        (∀ job ∈ cleared.store.jobs, job.ImportOf actor → job.status.isTerminal = true) ∧
        (deletePreviousImports actor cleared).result = .ok 0 ∧
        (deletePreviousImports actor cleared).connection = cleared) := by
  intro store cleared
  have hrealizes := realizes_deletePreviousImports actor
  by_cases hrunning : store.HasRunningImport actor
  · have hrefused := hrealizes.result_eq_error_iff.2
      (Transition.deletePreviousImports_of_running hrunning)
    exact .inl ⟨hrunning, hrefused, hrealizes.connection_eq_of_refused
      (Transition.deletePreviousImports_ne_full actor store) hrefused⟩
  · have hclears := Transition.deletePreviousImports_of_not_running hrunning
    have hagain : Transition.deletePreviousImports actor cleared.store = .ok (0, cleared.store) :=
      Transition.deletePreviousImports_cleared hrunning
    refine .inr ⟨hrunning, hrealizes.result_eq_ok_iff.2 ⟨_, hclears⟩,
      hrealizes.connection_of_ok hclears, ?_, hrealizes.result_eq_ok_iff.2 ⟨_, hagain⟩,
      hrealizes.connection_of_ok hagain⟩
    intro job hkept himport
    exact Store.isTerminal_of_cleared hrunning hkept himport

end Ledger

end RecordGraph
