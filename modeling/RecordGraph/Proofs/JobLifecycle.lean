import Mathlib.Data.List.Induction
import RecordGraph.Proofs.LedgerRuns

/-!
# The life of a job

A job is made by one call and moved by others.  What has become of it at any time is told by its
first row and its moves since: every move goes on to a stage that may follow, so there are at most
four of them; the start is the time of the first move to `In Progress`, and the end that of the
move to a terminal stage, after which nothing moves the job any more.  All else about the job, but
its results, stays as it was first stored.
-/

namespace RecordGraph

namespace JobStatus

/-- Each of the stages may follow the one before it, from `first` to `last`. -/
def Leads : JobStatus → List JobStatus → JobStatus → Prop
  | first, [], last => first = last
  | first, target :: rest, last => first.checkTransition target = .ok () ∧ Leads target rest last

/-- The greatest number of moves that a job in this stage has before it. -/
def movesLeft : JobStatus → Nat
  | .notStarted => 4
  | .analysis => 3
  | .blocked => 2
  | .inProgress => 1
  | .analysisFailed | .stopped | .failed | .finished => 0

variable {first last target : JobStatus} {stages : List JobStatus}

theorem movesLeft_lt_of_follows (hfollows : first.checkTransition target = .ok ()) :
    target.movesLeft < first.movesLeft := by
  have hmem := Ledger.checkTransition_eq_ok_iff.1 hfollows
  cases first <;> simp only [successors, List.mem_cons, List.not_mem_nil, or_false] at hmem
  case notStarted => rcases hmem with rfl | rfl | rfl | rfl <;> decide
  case analysis => rcases hmem with rfl | rfl | rfl | rfl <;> decide
  case inProgress => rcases hmem with rfl | rfl | rfl <;> decide
  case blocked => rcases hmem with rfl | rfl <;> decide

theorem movesLeft_le (status : JobStatus) : status.movesLeft ≤ 4 := by
  cases status <;> decide

theorem isTerminal_eq_false_of_follows (hfollows : first.checkTransition target = .ok ()) :
    first.isTerminal = false := by
  have hless := movesLeft_lt_of_follows hfollows
  cases first <;> simp_all [movesLeft, isTerminal]

namespace Leads

theorem concat (hleads : Leads first stages last)
    (hfollows : last.checkTransition target = .ok ()) : Leads first (stages ++ [target]) target := by
  induction stages generalizing first with
  | nil =>
    cases hleads
    exact ⟨hfollows, rfl⟩
  | cons stage rest ih => exact ⟨hleads.1, ih hleads.2⟩

theorem length_le (hleads : Leads first stages last) : stages.length ≤ first.movesLeft := by
  induction stages generalizing first with
  | nil => exact Nat.zero_le _
  | cons stage rest ih =>
    have hrest := ih hleads.2
    have hless := movesLeft_lt_of_follows hleads.1
    rw [List.length_cons]
    omega

/-- What leads on to a stage that is not terminal has passed through no terminal stage. -/
theorem not_terminal (hleads : Leads first stages last) (hlast : last.isTerminal = false) :
    first.isTerminal = false ∧ ∀ stage ∈ stages, stage.isTerminal = false := by
  induction stages generalizing first with
  | nil =>
    cases hleads
    exact ⟨hlast, by simp⟩
  | cons stage rest ih =>
    obtain ⟨hstage, hrest⟩ := ih hleads.2
    refine ⟨isTerminal_eq_false_of_follows hleads.1, ?_⟩
    intro other hother
    rcases List.mem_cons.1 hother with rfl | hlater
    · exact hstage
    · exact hrest other hlater

end Leads

end JobStatus

/-! ## What becomes of a job -/

namespace Job

/-- How a job came from its first row by some moves. -/
structure Course (first : Job) (moves : List JobMove) (job : Job) : Prop where
  /-- Each move went on to a stage that may follow the one before. -/
  stages : first.status.Leads (moves.map JobMove.target) job.status
  /-- The start is the time of the first move to `In Progress`, if there was one. -/
  start : job.startAt =
    (moves.find? (fun move => move.target == .inProgress)).map JobMove.time
  /-- The end is the time of the move to a terminal stage, if there was one. -/
  finish : job.endAt = (moves.find? (fun move => move.target.isTerminal)).map JobMove.time
  /-- Nothing else has changed, apart from the results. -/
  rest : job = { first with
    status := job.status, startAt := job.startAt, endAt := job.endAt, results := job.results }

namespace Course

variable {first job : Job} {moves : List JobMove}

theorem refl (hstart : job.startAt = none) (hend : job.endAt = none) : Course job [] job :=
  ⟨rfl, hstart, hend, rfl⟩

theorem withResults (hcourse : Course first moves job) (results : Option String) :
    Course first moves { job with results } := by
  refine ⟨hcourse.stages, hcourse.start, hcourse.finish, ?_⟩
  rw [hcourse.rest]

theorem moved {now : Int} {target : JobStatus} (hcourse : Course first moves job)
    (hfollows : job.status.checkTransition target = .ok ()) :
    Course first (moves ++ [⟨now, target⟩]) (Ledger.moved now target job) := by
  have hopen : job.status.isTerminal = false := JobStatus.isTerminal_eq_false_of_follows hfollows
  refine ⟨?_, ?_, ?_, ?_⟩
  · rw [List.map_append]
    exact hcourse.stages.concat hfollows
  · simp only [Ledger.moved, List.find?_append, hcourse.start]
    cases moves.find? (fun move => move.target == .inProgress) with
    | some earlier => simp
    | none =>
      by_cases htarget : target = .inProgress
      · simp [htarget]
      · simp [htarget]
  · -- No move before this one led to a terminal stage.
    have hnone : moves.find? (fun move => move.target.isTerminal) = none := by
      rw [List.find?_eq_none]
      intro move hmove hterminal
      have hstage := (hcourse.stages.not_terminal hopen).2 move.target (List.mem_map_of_mem hmove)
      rw [hstage] at hterminal
      cases hterminal
    have hend : job.endAt = none := by rw [hcourse.finish, hnone, Option.map_none]
    simp only [Ledger.moved, List.find?_append, hnone, hend, Option.none_or]
    cases hterminal : target.isTerminal with
    | true => simp [hterminal]
    | false => simp [hterminal]
  · rw [hcourse.rest]
    rfl

end Course

end Job

/-! ## Runs -/

namespace LedgerCall

/-- A call of the run made the job, with `first` for its row and a number that no job had. -/
def Made (calls : List LedgerCall) (first : Job) : Prop :=
  ∃ earlier actor now new later, calls = earlier ++ create actor now new :: later ∧
    first = { new.row actor now with id := first.id } ∧
    (∀ job ∈ (run earlier {}).store.jobs, job.id ≠ first.id) ∧
    first ∈ (run (earlier ++ [create actor now new]) {}).store.jobs

theorem Made.append {calls : List LedgerCall} {first : Job} (hmade : Made calls first)
    (more : List LedgerCall) : Made (calls ++ more) first := by
  obtain ⟨earlier, actor, now, new, later, rfl, hrow, hfresh, hstored⟩ := hmade
  refine ⟨earlier, actor, now, new, later ++ more, ?_, hrow, hfresh, hstored⟩
  rw [List.append_assoc, List.cons_append]

/-- What is known of the jobs after a run on a fresh store. -/
structure Chronicle (calls : List LedgerCall) : Prop where
  /-- No call has moved a job of a number that was not given out yet. -/
  unmoved : ∀ id, (run calls {}).store.lastJobId < id → movesOf id calls {} = []
  courses : ∀ job ∈ (run calls {}).store.jobs, ∃ first,
    Made calls first ∧ first.Course (movesOf job.id calls {}) job

theorem run_concat (calls : List LedgerCall) (call : LedgerCall) :
    run (calls ++ [call]) {} = (call.perform (run calls {})).connection :=
  run_append calls [call] {}

theorem movesOf_concat (id : Int) (calls : List LedgerCall) (call : LedgerCall) :
    movesOf id (calls ++ [call]) {} =
      movesOf id calls {} ++ moveOf id call (call.perform (run calls {})).result := by
  simp [movesOf_append, movesOf]

namespace Chronicle

theorem nil : Chronicle [] where
  unmoved _ _ := rfl
  courses := by simp [run]

variable {calls : List LedgerCall} {call : LedgerCall} {after : Store}

/-- A call that moves no job extends the chronicle when each job after it was there before, up to
its results, or is new. -/
theorem concat_of_still (hchronicle : Chronicle calls)
    (hstill : ∀ id, moveOf id call (call.perform (run calls {})).result = [])
    (hlast : (run calls {}).store.lastJobId ≤ (run (calls ++ [call]) {}).store.lastJobId)
    (hjobs : ∀ job ∈ (run (calls ++ [call]) {}).store.jobs,
      (∃ old ∈ (run calls {}).store.jobs, ∃ results, job = { old with results }) ∨
        (Made (calls ++ [call]) job ∧ (run calls {}).store.lastJobId < job.id ∧
          job.startAt = none ∧ job.endAt = none)) :
    Chronicle (calls ++ [call]) := by
  have hmoves : ∀ id, movesOf id (calls ++ [call]) {} = movesOf id calls {} := by
    intro id
    rw [movesOf_concat, hstill, List.append_nil]
  constructor
  · intro id hid
    rw [hmoves]
    exact hchronicle.unmoved id (by omega)
  · intro job hjob
    rw [hmoves]
    rcases hjobs job hjob with ⟨old, hold, results, rfl⟩ | ⟨hmade, hnew, hstart, hend⟩
    · obtain ⟨first, hmade, hcourse⟩ := hchronicle.courses old hold
      exact ⟨first, hmade.append [call], hcourse.withResults results⟩
    · rw [hchronicle.unmoved job.id hnew]
      exact ⟨job, hmade, .refl hstart hend⟩

theorem concat_create (hchronicle : Chronicle calls) {actor : Actor} {now : Int}
    {new : Ledger.NewJob} (hcall : (create actor now new).transition (run calls {}).store =
      .ok ((), after))
    (hafter : (run (calls ++ [create actor now new]) {}).store = after) :
    Chronicle (calls ++ [create actor now new]) := by
  have hnumbered := (Store.JobsNumbered.run_empty calls).2
  obtain ⟨stored, hcreated⟩ := Transition.void_eq_ok_iff.1 hcall
  obtain ⟨id, hid, hrow, rfl⟩ :=
    Store.insertJob_eq_ok_iff.1 (Transition.createJob_eq_ok_iff.1 hcreated)
  have hlast := (Store.freshId?_eq_some_iff.1 hid).2
  have hnumber : stored.id = id := by rw [hrow]
  apply hchronicle.concat_of_still
  · intro other
    rfl
  · rw [hafter]
    simp only
    omega
  · rw [hafter]
    intro job hjob
    rcases Ordered.mem_of_mem_insert hjob with rfl | hold
    · refine .inr ⟨⟨calls, actor, now, new, [], rfl, ?_, ?_, ?_⟩, ?_, ?_, ?_⟩
      · rw [hnumber, hrow]
      · intro other hother
        have hbefore := hnumbered.fresh hid other hother
        omega
      · rw [hafter]
        exact hjob
      · omega
      · rw [hrow]
        rfl
      · rw [hrow]
        rfl
    · exact .inl ⟨job, hold, job.results, rfl⟩

theorem concat_updateStatus (hchronicle : Chronicle calls) {actor : Actor} {now id : Int}
    {target : JobStatus}
    (hcall : (updateStatus actor now id target).transition (run calls {}).store = .ok ((), after))
    (hresult : ((updateStatus actor now id target).perform (run calls {})).result = .ok ())
    (hafter : (run (calls ++ [updateStatus actor now id target]) {}).store = after) :
    Chronicle (calls ++ [updateStatus actor now id target]) := by
  have hnumbered := (Store.JobsNumbered.run_empty calls).2
  obtain ⟨_, hmoved⟩ := Transition.void_eq_ok_iff.1 hcall
  obtain ⟨job, hget, hfollows, rfl, rfl⟩ := Transition.updateStatus_eq_ok_iff.1 hmoved
  obtain ⟨hjob, hid⟩ := Store.job?_eq_some (Ledger.get_eq_ok_iff.1 hget).1
  have hmoves : ∀ other, movesOf other (calls ++ [updateStatus actor now id target]) {} =
      movesOf other calls {} ++ if id = other then [⟨now, target⟩] else [] := by
    intro other
    rw [movesOf_concat, hresult]
    rfl
  constructor
  · intro other hother
    have hbound := hnumbered.bounded job hjob
    rw [hafter] at hother
    change (run calls {}).store.lastJobId < other at hother
    have hne : id ≠ other := by omega
    rw [hmoves, hchronicle.unmoved other hother, if_neg hne, List.nil_append]
  · rw [hafter]
    intro other hother
    rw [hmoves]
    rcases Store.mem_updateJob_iff.1 hother with ⟨hold, hne⟩ | ⟨rfl, _⟩
    · have hother : id ≠ other.id := by
        rw [← hid]
        exact hne.symm
      obtain ⟨first, hmade, hcourse⟩ := hchronicle.courses other hold
      rw [if_neg hother, List.append_nil]
      exact ⟨first, hmade.append _, hcourse⟩
    · obtain ⟨first, hmade, hcourse⟩ := hchronicle.courses job hjob
      have hsame : (Ledger.moved now target job).id = job.id := rfl
      rw [hsame, if_pos hid.symm]
      exact ⟨first, hmade.append _, hcourse.moved hfollows⟩

/-- Every call extends the chronicle, whether it succeeds or not. -/
theorem concat (hchronicle : Chronicle calls) (call : LedgerCall) :
    Chronicle (calls ++ [call]) := by
  obtain ⟨hclosed, _⟩ := Store.JobsNumbered.run_empty calls
  rcases (realizes_perform call).of_closed hclosed with
    ⟨error, hresult, hsame⟩ | ⟨_, after, hcall, hresult, hconnection⟩
  · rw [← run_concat] at hsame
    apply hchronicle.concat_of_still
    · intro id
      rw [hresult, moveOf_error]
    · exact Int.le_of_eq (by rw [hsame])
    · rw [hsame]
      intro job hjob
      exact .inl ⟨job, hjob, job.results, rfl⟩
  · have hafter : (run (calls ++ [call]) {}).store = after := by
      rw [run_concat, hconnection]
    cases call with
    | create actor now new => exact hchronicle.concat_create hcall hafter
    | updateStatus actor now id target =>
      exact hchronicle.concat_updateStatus hcall hresult hafter
    | setResults actor id document =>
      obtain ⟨_, hset⟩ := Transition.void_eq_ok_iff.1 hcall
      obtain ⟨job, hget, rfl, rfl⟩ := Transition.setResults_eq_ok_iff.1 hset
      obtain ⟨hjob, _⟩ := Store.job?_eq_some (Ledger.get_eq_ok_iff.1 hget).1
      apply hchronicle.concat_of_still
      · intro other
        rfl
      · rw [hafter]
        exact Int.le_refl _
      · rw [hafter]
        intro other hother
        rcases Store.mem_updateJob_iff.1 hother with ⟨hold, _⟩ | ⟨rfl, _⟩
        · exact .inl ⟨other, hold, other.results, rfl⟩
        · exact .inl ⟨job, hjob, _, rfl⟩
    | deletePreviousImports actor =>
      obtain ⟨_, hcleared⟩ := Transition.void_eq_ok_iff.1 hcall
      obtain ⟨_, _, rfl⟩ := Transition.deletePreviousImports_eq_ok_iff.1 hcleared
      apply hchronicle.concat_of_still
      · intro other
        rfl
      · exact Int.le_of_eq (by rw [hafter])
      · rw [hafter]
        intro other hother
        exact .inl ⟨other, (List.mem_filter.1 hother).1, other.results, rfl⟩

theorem of_run (calls : List LedgerCall) : Chronicle calls := by
  induction calls using List.reverseRecOn with
  | nil => exact nil
  | append_singleton calls call ih => exact ih.concat call

end Chronicle

end LedgerCall

/-! ## Terminal stages -/

/-- Whatever the store holds under the number of a job is in its stage and has its times, and the
number is not given out again. -/
structure Store.Settles (store : Store) (job : Job) : Prop where
  given : job.id ≤ store.lastJobId
  same : ∀ other ∈ store.jobs, other.id = job.id →
    other.status = job.status ∧ other.startAt = job.startAt ∧ other.endAt = job.endAt

theorem Store.JobsNumbered.settles {store : Store} (hnumbered : store.JobsNumbered) {job : Job}
    (hjob : job ∈ store.jobs) : store.Settles job where
  given := hnumbered.bounded job hjob
  same other hother hid := by
    rw [hnumbered.eq_of_id_eq hjob hother hid]
    exact ⟨rfl, rfl, rfl⟩

/-- No call takes a job out of a terminal stage or changes its times there. -/
theorem Store.Settles.transition {job : Job} (hterminal : job.status.isTerminal = true)
    (call : LedgerCall) (store after : Store) (hsettles : store.Settles job)
    (hcall : call.transition store = .ok ((), after)) : after.Settles job where
  given := Int.le_trans hsettles.given (LedgerCall.lastJobId_le hcall)
  same other hother hid := by
    rcases LedgerCall.job_after_cases hcall hother with
      hold | ⟨old, hold, hnumber, hreplaces⟩ | hnew
    · exact hsettles.same other hold hid
    · have hsame := hsettles.same old hold (hnumber.trans hid)
      cases call with
      | updateStatus actor now moved target =>
        -- The job itself cannot have been moved.
        obtain ⟨_, _, hfollows, _⟩ := hreplaces
        have hopen := JobStatus.isTerminal_eq_false_of_follows hfollows
        rw [hsame.1, hterminal] at hopen
        cases hopen
      | setResults actor given document =>
        obtain ⟨_, _, rfl⟩ := hreplaces
        exact hsame
      | create => exact hreplaces.elim
      | deletePreviousImports => exact hreplaces.elim
    · have hgiven := hsettles.given
      omega

namespace LedgerCall

/-- After any calls on a fresh store, made by anybody and whether they succeed or not, each job is
where its moves have brought it since a call made it; they are four at most.  Once it is in a
terminal stage, later calls leave its stage and its times as they are for as long as it is
stored. -/
theorem course_run (calls : List LedgerCall) {job : Job}
    (hjob : job ∈ (run calls {}).store.jobs) :
    (∃ first, Made calls first ∧ first.Course (movesOf job.id calls {}) job ∧
        (movesOf job.id calls {}).length ≤ 4) ∧
      (job.status.isTerminal = true → ∀ later, ∀ other ∈ (run (calls ++ later) {}).store.jobs,
        other.id = job.id →
          other.status = job.status ∧ other.startAt = job.startAt ∧ other.endAt = job.endAt) := by
  obtain ⟨hclosed, hnumbered⟩ := Store.JobsNumbered.run_empty calls
  constructor
  · obtain ⟨first, hmade, hcourse⟩ := (Chronicle.of_run calls).courses job hjob
    refine ⟨first, hmade, hcourse, ?_⟩
    calc (movesOf job.id calls {}).length
        = ((movesOf job.id calls {}).map JobMove.target).length := by rw [List.length_map]
      _ ≤ first.status.movesLeft := hcourse.stages.length_le
      _ ≤ 4 := first.status.movesLeft_le
  · intro hterminal later
    rw [run_append]
    have hsettles := (run_keeps (Store.Settles.transition hterminal) later hclosed
      (hnumbered.settles hjob)).2
    exact hsettles.same

/-- An import that goes through as many stages as there can be. -/
def longestImport : List LedgerCall :=
  [.create ⟨7, false⟩ 10 {}, .updateStatus ⟨7, false⟩ 20 1 .analysis,
    .updateStatus ⟨7, false⟩ 30 1 .blocked, .updateStatus ⟨7, false⟩ 40 1 .inProgress,
    .updateStatus ⟨7, false⟩ 50 1 .finished]

/-- The job that is left after it. -/
def finishedImport : Job :=
  { id := 1, kind := .importing, status := .finished, description := none, createdAt := 10
    startAt := some 40, endAt := some 50, ownerId := 7, results := none, title := none
    content := none, driveMetadata := none }

/-- It makes four moves, and whatever is done afterwards, it stays finished. -/
theorem longest_import_stays_finished :
    finishedImport ∈ (run longestImport {}).store.jobs ∧
      (movesOf finishedImport.id longestImport {}).length = 4 ∧
      ∀ later, ∀ other ∈ (run (longestImport ++ later) {}).store.jobs, other.id = 1 →
        other.status = .finished ∧ other.startAt = some 40 ∧ other.endAt = some 50 := by
  have hstored : finishedImport ∈ (run longestImport {}).store.jobs := by decide
  exact ⟨hstored, rfl, (course_run longestImport hstored).2 rfl⟩

end LedgerCall

end RecordGraph
