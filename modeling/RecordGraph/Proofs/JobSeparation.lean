import Mathlib.Data.List.Sort
import RecordGraph.Proofs.FailureAtomicity
import RecordGraph.Proofs.LedgerRuns

/-!
# Jobs of different users

The users of a store share its table of jobs, and each of them sees and changes its own jobs only.
What a user asks about jobs of its own is answered from these jobs alone: in two stores that hold
the same jobs of the user, and anything else, the answer is the same, and the same jobs of the user
are left.  In a run of many users' requests a user who asks about jobs of its own is therefore
answered as if the others had asked nothing.

By its own steps a request leaves the jobs of all other users as they are.  They are not safe from
a transaction that is lost: a new job for which no number is left takes along what was done to them
since the transaction was opened.
-/

namespace RecordGraph

/-! ## The jobs of one user -/

namespace Store

/-- Jobs are in the order of their numbers, and each has a number of its own. -/
def JobsOrdered (store : Store) : Prop :=
  store.jobs.Pairwise fun left right => left.id < right.id

/-- Two stores hold the same jobs of a user. -/
def SameJobs (left right : Store) (user : Int) : Prop :=
  ∀ job : Job, job.ownerId = user → (job ∈ left.jobs ↔ job ∈ right.jobs)

/-- The user owns the job of a number. -/
def OwnsJob (store : Store) (user id : Int) : Prop :=
  ∃ job ∈ store.jobs, job.id = id ∧ job.ownerId = user

variable {store after left right : Store} {user : Int}

namespace JobsOrdered

theorem empty : JobsOrdered Store.empty := List.Pairwise.nil

theorem nodup (hordered : store.JobsOrdered) : (store.jobs.map Job.id).Nodup :=
  List.pairwise_map.2 (hordered.imp fun hless => Int.ne_of_lt hless)

/-- A number names one job. -/
theorem eq_of_id_eq (hordered : store.JobsOrdered) {job other : Job} (hjob : job ∈ store.jobs)
    (hother : other ∈ store.jobs) (hid : other.id = job.id) : other = job :=
  List.inj_on_of_nodup_map hordered.nodup hother hjob hid

theorem job?_eq_some_iff (hordered : store.JobsOrdered) {id : Int} {job : Job} :
    store.job? id = some job ↔ job ∈ store.jobs ∧ job.id = id :=
  find?_key_eq_some_iff hordered.nodup

/-- Selections from jobs in order that take the same jobs are the same. -/
theorem filter_eq (hleft : left.JobsOrdered) (hright : right.JobsOrdered)
    {wanted other : Job → Bool}
    (hmem : ∀ job, job ∈ left.jobs.filter wanted ↔ job ∈ right.jobs.filter other) :
    left.jobs.filter wanted = right.jobs.filter other := by
  have hnodup : ∀ {store : Store} {wanted : Job → Bool}, store.JobsOrdered →
      (store.jobs.filter wanted).Nodup :=
    fun hordered => (List.Nodup.of_map _ hordered.nodup).filter _
  have hperm := (List.perm_ext_iff_of_nodup (hnodup hleft) (hnodup hright)).2 hmem
  refine hperm.eq_of_pairwise ?_ (hleft.filter _) (hright.filter _)
  intro first second _ _ hless hmore
  exact absurd hmore (Int.lt_asymm hless)

theorem insertJob {job stored : Job} (hordered : store.JobsOrdered)
    (hstored : store.insertJob job = .ok (stored, after)) : after.JobsOrdered := by
  obtain ⟨_, _, _, rfl⟩ := insertJob_eq_ok_iff.1 hstored
  have hbefore : ∀ {first second : Job}, first.before second = true ↔ first.id < second.id :=
    fun {_ _} => decide_eq_true_iff
  have htrans : ∀ {first second third : Job}, first.before second = true →
      second.before third = true → first.before third = true := by
    intro first second third hfirst hsecond
    rw [hbefore] at hfirst hsecond ⊢
    exact Int.lt_trans hfirst hsecond
  have hrows : store.jobs.Pairwise fun left right => left.before right = true :=
    hordered.imp hbefore.2
  have hinserted : (Ordered.insert Job.before stored store.jobs).Pairwise
      fun left right => left.before right = true := Ordered.pairwise_insert htrans hrows
  exact hinserted.imp hbefore.1

theorem updateJob (hordered : store.JobsOrdered) (job : Job) :
    (store.updateJob job).JobsOrdered := by
  have hids : (store.jobs.map Job.id).Pairwise (· < ·) := List.pairwise_map.2 hordered
  rw [← store.map_id_updateJob job] at hids
  exact List.pairwise_map.1 hids

end JobsOrdered

namespace SameJobs

theorem refl (store : Store) (user : Int) : store.SameJobs store user := fun _ _ => Iff.rfl

theorem symm (hsame : left.SameJobs right user) : right.SameJobs left user :=
  fun job howner => (hsame job howner).symm

theorem trans {middle : Store} (hleft : left.SameJobs middle user)
    (hright : middle.SameJobs right user) : left.SameJobs right user :=
  fun job howner => (hleft job howner).trans (hright job howner)

/-- A selection that takes only jobs of the user takes the same from both stores, in the same
order. -/
theorem filter_eq (hsame : left.SameJobs right user) (hleft : left.JobsOrdered)
    (hright : right.JobsOrdered) {wanted : Job → Bool}
    (howned : ∀ job, wanted job = true → job.ownerId = user) :
    left.jobs.filter wanted = right.jobs.filter wanted := by
  refine hleft.filter_eq hright fun job => ?_
  simp only [List.mem_filter]
  exact and_congr_left fun hwanted => hsame job (howned job hwanted)

theorem any_eq (hsame : left.SameJobs right user) {wanted : Job → Bool}
    (howned : ∀ job, wanted job = true → job.ownerId = user) :
    left.jobs.any wanted = right.jobs.any wanted := by
  rw [Bool.eq_iff_iff, List.any_eq_true, List.any_eq_true]
  exact exists_congr fun job => and_congr_left fun hwanted => hsame job (howned job hwanted)

/-- Putting a job in its place leaves the jobs of users who do not own it. -/
theorem updateJob_other (hordered : store.JobsOrdered) {old job : Job} (hold : old ∈ store.jobs)
    (hid : job.id = old.id) (howner : job.ownerId = old.ownerId) (hother : user ≠ old.ownerId) :
    store.SameJobs (store.updateJob job) user := by
  intro other hforeign
  rw [mem_updateJob_iff, hid]
  constructor
  · intro hmem
    refine .inl ⟨hmem, ?_⟩
    intro hnumber
    rw [hordered.eq_of_id_eq hold hmem hnumber] at hforeign
    exact hother hforeign.symm
  · intro hupdated
    rcases hupdated with ⟨hmem, _⟩ | ⟨rfl, _⟩
    · exact hmem
    · exact absurd (hforeign.symm.trans howner) hother

/-- Putting a job in its place in both stores leaves the same jobs of its owner. -/
theorem updateJob (hsame : left.SameJobs right user) {old job : Job} (hold : old ∈ left.jobs)
    (howner : old.ownerId = user) (hid : job.id = old.id) :
    (left.updateJob job).SameJobs (right.updateJob job) user := by
  have hfound : old ∈ right.jobs := (hsame old howner).1 hold
  intro other hown
  rw [mem_updateJob_iff, mem_updateJob_iff, hsame other hown]
  have hplaces : (∃ place ∈ left.jobs, place.id = job.id) ↔
      ∃ place ∈ right.jobs, place.id = job.id :=
    iff_of_true ⟨old, hold, hid.symm⟩ ⟨old, hfound, hid.symm⟩
  rw [hplaces]

end SameJobs

end Store

namespace Job

theorem log_ne_full (job : Job) : job.log ≠ .error (.storage .full) := by
  have hread : job.readResults ≠ .error (.storage .full) := by
    rw [readResults]
    split
    · simp
    · split
      · simp
      · split
        · simp
        · simp
  rw [log]
  cases hresults : job.readResults with
  | error error =>
    intro hfull
    cases hfull
    exact hread hresults
  | ok results => simp

theorem logs_ne_full (jobs : List Job) : logs jobs ≠ .error (.storage .full) := by
  induction jobs with
  | nil => simp [logs]
  | cons job rest ih =>
    rw [logs]
    split
    · next error _ hlog =>
      intro hfull
      cases hfull
      exact job.log_ne_full hlog
    · next error _ hrest =>
      intro hfull
      cases hfull
      exact ih hrest
    · simp

end Job

/-! ## Requests -/

/-- What can be asked of the jobs. -/
inductive JobRequest where
  | create (now : Int) (job : Ledger.NewJob)
  | list (kind : JobKind) (ids : Option (List Int))
  | get (id : Int)
  | updateStatus (now : Int) (id : Int) (target : JobStatus)
  | setResults (id : Int) (document : Json)
  | deletePreviousImports

inductive JobAnswer where
  | job (job : Job)
  | logs (logs : List JobLog)
  | count (number : Nat)

namespace JobRequest

def perform (actor : Actor) : JobRequest → Call JobAnswer
  | create now job => (Ledger.create actor now job).map .job
  | list kind ids => (Call.check (Ledger.list actor kind ids)).map .logs
  | get id => (Call.check (Ledger.get actor id)).map .job
  | updateStatus now id target => (Ledger.updateStatus actor now id target).map .job
  | setResults id document => (Ledger.setResults actor id document).map .job
  | deletePreviousImports => (Ledger.deletePreviousImports actor).map .count

def transition (actor : Actor) : JobRequest → Transition JobAnswer
  | create now job => (Transition.createJob actor now job).map .job
  | list kind ids => (Transition.read (Ledger.list actor kind ids)).map .logs
  | get id => (Transition.read (Ledger.get actor id)).map .job
  | updateStatus now id target => (Transition.updateStatus actor now id target).map .job
  | setResults id document => (Transition.setResults actor id document).map .job
  | deletePreviousImports => (Transition.deletePreviousImports actor).map .count

theorem realizes_perform (actor : Actor) (request : JobRequest) :
    (request.perform actor).Realizes (request.transition actor) := by
  cases request with
  | create now job => exact (Ledger.realizes_create actor now job).map JobAnswer.job
  | list kind ids =>
    exact (Call.realizes_check _ fun store =>
      Job.logs_ne_full (Ledger.selected actor kind ids store)).map JobAnswer.logs
  | get id => exact (Call.realizes_check _ (Ledger.get_ne_full actor id)).map JobAnswer.job
  | updateStatus now id target =>
    exact (Ledger.realizes_updateStatus actor now id target).map JobAnswer.job
  | setResults id document =>
    exact (Ledger.realizes_setResults actor id document).map JobAnswer.job
  | deletePreviousImports =>
    exact (Ledger.realizes_deletePreviousImports actor).map JobAnswer.count

/-- The request is to make a job, and no number is left for it. -/
def RunsOut (store : Store) : JobRequest → Prop
  | create _ _ => Decimal.maxId ≤ store.lastJobId
  | _ => False

/-- A transaction is open, and the request runs out of numbers in it. -/
def EndsTransaction (request : JobRequest) (connection : Connection) : Prop :=
  connection.frames ≠ [] ∧ request.RunsOut connection.store

/-- The request is about jobs that the user owns: all of them, or the job of a number.  One that
makes a job is not, because its number depends on all that were made before. -/
def ConcernsOwn (user : Int) (store : Store) : JobRequest → Prop
  | create _ _ => False
  | list _ _ => True
  | get id => store.OwnsJob user id
  | updateStatus _ id _ => store.OwnsJob user id
  | setResults id _ => store.OwnsJob user id
  | deletePreviousImports => True

variable {actor : Actor} {request : JobRequest} {store after left right : Store} {user : Int}
  {answer : JobAnswer}

/-! ## The jobs of others -/

/-- A job that the actor may change, put in its place, leaves the jobs in order and those of other
users as they are. -/
theorem keeps_others_of_get {id : Int} {job changed : Job} (hordered : store.JobsOrdered)
    (hget : Ledger.get actor id store = .ok job) (hid : changed.id = job.id)
    (howner : changed.ownerId = job.ownerId) :
    (store.updateJob changed).JobsOrdered ∧
      ∀ user, user ≠ actor.userId → store.SameJobs (store.updateJob changed) user := by
  obtain ⟨hfound, hown⟩ := Ledger.get_eq_ok_iff.1 hget
  obtain ⟨hjob, _⟩ := Store.job?_eq_some hfound
  refine ⟨hordered.updateJob changed, ?_⟩
  rw [← hown]
  exact fun user hother => .updateJob_other hordered hjob hid howner hother

/-- A request that succeeds leaves the jobs in order and those of other users as they are. -/
theorem keeps_others (hordered : store.JobsOrdered)
    (hcall : request.transition actor store = .ok (answer, after)) :
    after.JobsOrdered ∧ ∀ user, user ≠ actor.userId → store.SameJobs after user := by
  cases request with
  | create now new =>
    obtain ⟨_, hcreated, _⟩ := Transition.map_eq_ok_iff.1 hcall
    have hstored := Transition.createJob_eq_ok_iff.1 hcreated
    refine ⟨hordered.insertJob hstored, ?_⟩
    obtain ⟨_, _, rfl, rfl⟩ := Store.insertJob_eq_ok_iff.1 hstored
    intro user hother job howner
    constructor
    · exact Ordered.mem_insert_of_mem
    · intro hmem
      rcases Ordered.mem_of_mem_insert hmem with rfl | hold
      · exact absurd howner.symm hother
      · exact hold
  | list kind ids =>
    obtain ⟨_, hlisted, _⟩ := Transition.map_eq_ok_iff.1 hcall
    obtain ⟨_, rfl⟩ := Transition.read_eq_ok_iff.1 hlisted
    exact ⟨hordered, fun user _ => .refl _ user⟩
  | get id =>
    obtain ⟨_, hget, _⟩ := Transition.map_eq_ok_iff.1 hcall
    obtain ⟨_, rfl⟩ := Transition.read_eq_ok_iff.1 hget
    exact ⟨hordered, fun user _ => .refl _ user⟩
  | updateStatus now id target =>
    obtain ⟨_, hmoved, _⟩ := Transition.map_eq_ok_iff.1 hcall
    obtain ⟨job, hget, _, rfl, rfl⟩ := Transition.updateStatus_eq_ok_iff.1 hmoved
    exact keeps_others_of_get hordered hget rfl rfl
  | setResults id document =>
    obtain ⟨_, hset, _⟩ := Transition.map_eq_ok_iff.1 hcall
    obtain ⟨job, hget, rfl, rfl⟩ := Transition.setResults_eq_ok_iff.1 hset
    exact keeps_others_of_get hordered hget rfl rfl
  | deletePreviousImports =>
    obtain ⟨_, hcleared, _⟩ := Transition.map_eq_ok_iff.1 hcall
    obtain ⟨_, _, rfl⟩ := Transition.deletePreviousImports_eq_ok_iff.1 hcleared
    refine ⟨hordered.filter _, ?_⟩
    intro user hother job howner
    have hforeign : Ledger.isPendingImport actor job ≠ true := fun hpending =>
      hother (howner.symm.trans (Ledger.owner_of_isPendingImport hpending))
    simp [List.mem_filter, hforeign]

/-! ## The user's own jobs -/

/-- Outcomes in two stores are alike to a user: both are the same refusal, or the same answer with
the same jobs of the user left. -/
inductive Alike (user : Int) {α : Type} :
    Except GraphError (α × Store) → Except GraphError (α × Store) → Prop
  | refused (error : GraphError) : Alike user (.error error) (.error error)
  | answered (answer : α) {left right : Store} (same : left.SameJobs right user) :
      Alike user (.ok (answer, left)) (.ok (answer, right))

namespace Alike

variable {α β : Type}

theorem map {transition : Transition α} (transform : α → β)
    (halike : Alike user (transition left) (transition right)) :
    Alike user (transition.map transform left) (transition.map transform right) := by
  simp only [Transition.map, Transition.andThen]
  generalize transition left = first at halike ⊢
  generalize transition right = second at halike ⊢
  cases halike with
  | refused error => exact .refused error
  | answered answer same => exact .answered (transform answer) same

theorem read {question : Store → Except GraphError α} (hsame : left.SameJobs right user)
    (hquestion : question left = question right) :
    Alike user (Transition.read question left) (Transition.read question right) := by
  rw [Transition.read, Transition.read, hquestion]
  cases question right with
  | error error => exact .refused error
  | ok answer => exact .answered answer hsame

/-- Outcomes that are alike leave the connections alike, if they are not for want of a number. -/
theorem settle {first second : Connection} {outcome other : Except GraphError (α × Store)}
    (halike : Alike user outcome other) (hsame : first.store.SameJobs second.store user)
    (hnumber : outcome ≠ .error (.storage .full)) :
    outcome.map Prod.fst = other.map Prod.fst ∧
      (first.settle outcome).store.SameJobs (second.settle other).store user := by
  cases halike with
  | refused error =>
    have hfull : error ≠ .storage .full := fun hfull => hnumber (congrArg Except.error hfull)
    rw [Connection.settle, Connection.settle, if_neg hfull, if_neg hfull]
    exact ⟨rfl, hsame⟩
  | answered answer same => exact ⟨rfl, same⟩

end Alike

/-- The job that the user owns is found in both stores. -/
theorem get_of_ownsJob (hsame : left.SameJobs right actor.userId) (hleft : left.JobsOrdered)
    (hright : right.JobsOrdered) {id : Int} (howns : left.OwnsJob actor.userId id) :
    ∃ job ∈ left.jobs, job.ownerId = actor.userId ∧
      Ledger.get actor id left = .ok job ∧ Ledger.get actor id right = .ok job := by
  obtain ⟨job, hjob, hid, howner⟩ := howns
  refine ⟨job, hjob, howner, ?_, ?_⟩
  · exact Ledger.get_eq_ok_iff.2 ⟨hleft.job?_eq_some_iff.2 ⟨hjob, hid⟩, howner⟩
  · have hfound : job ∈ right.jobs := (hsame job howner).1 hjob
    exact Ledger.get_eq_ok_iff.2 ⟨hright.job?_eq_some_iff.2 ⟨hfound, hid⟩, howner⟩

/-- A request about jobs of the user has outcomes that are alike in stores with the same jobs of
the user. -/
theorem alike_of_concernsOwn (hsame : left.SameJobs right actor.userId)
    (hleft : left.JobsOrdered) (hright : right.JobsOrdered)
    (hown : request.ConcernsOwn actor.userId left) :
    Alike actor.userId (request.transition actor left) (request.transition actor right) := by
  cases request with
  | create now job => exact hown.elim
  | list kind ids =>
    have hselected : Ledger.selected actor kind ids left = Ledger.selected actor kind ids right :=
      hsame.filter_eq hleft hright fun job hwanted => by
        simp only [Bool.and_eq_true, beq_iff_eq] at hwanted
        exact hwanted.1.1
    exact (Alike.read hsame (congrArg Job.logs hselected)).map JobAnswer.logs
  | get id =>
    obtain ⟨_, _, _, hfirst, hsecond⟩ := get_of_ownsJob hsame hleft hright hown
    exact (Alike.read hsame (hfirst.trans hsecond.symm)).map JobAnswer.job
  | updateStatus now id target =>
    obtain ⟨job, hjob, howner, hfirst, hsecond⟩ := get_of_ownsJob hsame hleft hright hown
    refine Alike.map JobAnswer.job ?_
    simp only [Transition.updateStatus, hfirst, hsecond, bind, Except.bind]
    cases job.status.checkTransition target with
    | error error => exact .refused error
    | ok _ => exact .answered _ (hsame.updateJob hjob howner rfl)
  | setResults id document =>
    obtain ⟨job, hjob, howner, hfirst, hsecond⟩ := get_of_ownsJob hsame hleft hright hown
    refine Alike.map JobAnswer.job ?_
    simp only [Transition.setResults, hfirst, hsecond, bind, Except.bind]
    exact .answered _ (hsame.updateJob hjob howner rfl)
  | deletePreviousImports =>
    have hactive : left.jobs.any (Ledger.isActiveImport actor) =
        right.jobs.any (Ledger.isActiveImport actor) :=
      hsame.any_eq fun _ => Ledger.owner_of_isActiveImport
    have hpending : left.jobs.countP (Ledger.isPendingImport actor) =
        right.jobs.countP (Ledger.isPendingImport actor) := by
      rw [List.countP_eq_length_filter, List.countP_eq_length_filter,
        hsame.filter_eq hleft hright fun _ => Ledger.owner_of_isPendingImport]
    refine Alike.map JobAnswer.count ?_
    rw [Transition.deletePreviousImports, Transition.deletePreviousImports, hactive, hpending]
    split
    · exact .refused _
    · refine .answered _ ?_
      intro job howner
      simp only [List.mem_filter, hsame job howner]

/-! ## Calls -/

theorem transition_eq_full_iff :
    request.transition actor store = .error (.storage .full) ↔ request.RunsOut store := by
  cases request with
  | create now job =>
    rw [transition, Transition.map_eq_error_iff, Transition.createJob,
      mapError_eq_full_iff fun _ => Ledger.explainJob_eq_full_iff]
    exact Store.insertJob_eq_full_iff
  | list kind ids =>
    rw [transition, Transition.map_eq_error_iff, Transition.read_eq_error_iff]
    exact iff_false_intro (Job.logs_ne_full _)
  | get id =>
    rw [transition, Transition.map_eq_error_iff, Transition.read_eq_error_iff]
    exact iff_false_intro (Ledger.get_ne_full actor id store)
  | updateStatus now id target =>
    rw [transition, Transition.map_eq_error_iff]
    exact iff_false_intro (Transition.updateStatus_ne_full actor now id target store)
  | setResults id document =>
    rw [transition, Transition.map_eq_error_iff]
    exact iff_false_intro (Transition.setResults_ne_full actor id document store)
  | deletePreviousImports =>
    rw [transition, Transition.map_eq_error_iff]
    exact iff_false_intro (Transition.deletePreviousImports_ne_full actor store)

theorem ConcernsOwn.not_runsOut (hown : request.ConcernsOwn user store) :
    ¬request.RunsOut store := by
  cases request with
  | create now job => exact hown.elim
  | _ => exact not_false

/-- In stores with the same jobs of the user, a request about these jobs is answered alike. -/
theorem answered_alike {first second : Connection} (hfirst : first.store.JobsOrdered)
    (hsecond : second.store.JobsOrdered)
    (hsame : first.store.SameJobs second.store actor.userId)
    (hown : request.ConcernsOwn actor.userId first.store) :
    (request.perform actor first).result = (request.perform actor second).result ∧
      (request.perform actor first).connection.store.SameJobs
        (request.perform actor second).connection.store actor.userId := by
  obtain ⟨hanswer, hafter⟩ := request.realizes_perform actor first
  obtain ⟨hother, hlater⟩ := request.realizes_perform actor second
  rw [hanswer, hafter, hother, hlater]
  exact (alike_of_concernsOwn hsame hfirst hsecond hown).settle hsame
    (mt transition_eq_full_iff.1 hown.not_runsOut)

theorem EndsTransaction.perform_eq {connection : Connection}
    (hends : request.EndsTransaction connection) :
    (request.perform actor connection).result = .error (.storage .full) ∧
      (request.perform actor connection).connection = connection.abort :=
  (request.realizes_perform actor).of_full (transition_eq_full_iff.2 hends.2)

/-- A request, granted or refused, that keeps the transaction leaves the jobs of all other users as
they are.  A request that ends the transaction is refused and goes back to the store before the
transaction, so that it leaves them as they are just if nothing was done to them since.  And a
request about the user's own jobs is answered from these jobs: in any two stores that hold the same
jobs of the user, and whatever else they hold and whatever is open, the answers are the same, and so
are the jobs of the user afterwards. -/
theorem jobs_do_not_interfere (actor : Actor) (request : JobRequest) :
    (∀ connection : Connection, connection.store.JobsOrdered →
      ((∀ user, user ≠ actor.userId → connection.store.SameJobs
          (request.perform actor connection).connection.store user) ↔
        (request.EndsTransaction connection → ∀ user, user ≠ actor.userId →
          connection.store.SameJobs connection.committed user)) ∧
      (request.EndsTransaction connection →
        (request.perform actor connection).result = .error (.storage .full) ∧
          (request.perform actor connection).connection = connection.abort)) ∧
    ∀ first second : Connection, first.store.JobsOrdered → second.store.JobsOrdered →
      first.store.SameJobs second.store actor.userId →
      request.ConcernsOwn actor.userId first.store →
        (request.perform actor first).result = (request.perform actor second).result ∧
          (request.perform actor first).connection.store.SameJobs
            (request.perform actor second).connection.store actor.userId := by
  refine ⟨fun connection hordered => ⟨?_, EndsTransaction.perform_eq⟩,
    fun first second hfirst hsecond hsame hown => answered_alike hfirst hsecond hsame hown⟩
  have hothers : ∀ answer after, request.transition actor connection.store = .ok (answer, after) →
      ∀ user, user ≠ actor.userId → connection.store.SameJobs after user :=
    fun _ _ hcall => (keeps_others hordered hcall).2
  have hstore := (request.realizes_perform actor).store_iff (fun user _ => .refl _ user) hothers
  rw [hstore, EndsTransaction, and_imp, transition_eq_full_iff]

/-- An import of a user that waits, and one of another user that is under way and has results that
cannot be read. -/
def waitingImport : Job := { ({} : Ledger.NewJob).row ⟨7, false⟩ 10 with id := 1 }

def runningImport : Job :=
  { ({ status := .inProgress } : Ledger.NewJob).row ⟨8, false⟩ 20 with
    id := 2, results := some "(" }

/-- A store with both jobs, and one with the first alone. -/
def sharedJobs : Connection where
  store := { jobs := [waitingImport, runningImport], lastJobId := 2 }

def ownJobs : Connection where
  store := { jobs := [waitingImport], lastJobId := 1 }

/-- An import that the other user has just made. -/
def otherImport : Job := { ({} : Ledger.NewJob).row ⟨8, false⟩ 20 with id := 2 }

/-- A transaction in which the other user made its import, and the greatest number was given out
for a job of the first. -/
def otherImportMade : Connection where
  store :=
    { jobs := [waitingImport, otherImport, { waitingImport with id := Decimal.maxId }]
      lastJobId := Decimal.maxId }
  frames := [⟨none, ownJobs.store⟩]

/-- The running import of the other user neither keeps the first user from clearing the waiting one
nor changes the answer.  But when the first user asks for one more job in the transaction, what the
other user has just made is gone. -/
theorem other_import_undone :
    sharedJobs.store.JobsOrdered ∧ ownJobs.store.JobsOrdered ∧
      sharedJobs.store.SameJobs ownJobs.store 7 ∧
      (deletePreviousImports.perform ⟨7, false⟩ sharedJobs).result = .ok (.count 1) ∧
      (deletePreviousImports.perform ⟨7, false⟩ sharedJobs).result =
        (deletePreviousImports.perform ⟨7, false⟩ ownJobs).result ∧
      otherImportMade.store.JobsOrdered ∧ (create 30 {}).EndsTransaction otherImportMade ∧
      otherImport ∈ otherImportMade.store.jobs ∧
      otherImport ∉ ((create 30 {}).perform ⟨7, false⟩ otherImportMade).connection.store.jobs ∧
      ¬∀ user, user ≠ 7 → otherImportMade.store.SameJobs
        ((create 30 {}).perform ⟨7, false⟩ otherImportMade).connection.store user := by
  have hshared : sharedJobs.store.JobsOrdered := by
    rw [Store.JobsOrdered]
    decide
  have hown : ownJobs.store.JobsOrdered := List.pairwise_singleton _ _
  have hsame : sharedJobs.store.SameJobs ownJobs.store 7 := by
    intro job howner
    have hforeign : job ≠ runningImport := by
      rintro rfl
      cases howner
    simp [sharedJobs, ownJobs, hforeign]
  have hmade : otherImportMade.store.JobsOrdered := by
    rw [Store.JobsOrdered]
    decide
  have hends : (create 30 {}).EndsTransaction otherImportMade :=
    ⟨List.cons_ne_nil _ _, Int.le_refl _⟩
  have hstored : otherImport ∈ otherImportMade.store.jobs := by decide
  have hundone : otherImport ∉ otherImportMade.committed.jobs := by decide
  obtain ⟨_, halike⟩ := jobs_do_not_interfere ⟨7, false⟩ deletePreviousImports
  obtain ⟨hothers, _⟩ := jobs_do_not_interfere ⟨7, false⟩ (create 30 {})
  obtain ⟨hkept, hlost⟩ := hothers otherImportMade hmade
  refine ⟨hshared, hown, hsame, rfl, (halike _ _ hshared hown hsame trivial).1, hmade, hends,
    hstored, ?_, fun hall => ?_⟩
  · rw [(hlost hends).2]
    exact hundone
  · exact hundone ((hkept.1 hall hends 8 (by decide) otherImport rfl).1 hstored)

end JobRequest

/-! ## Runs -/

/-- A request and who makes it. -/
structure JobTurn where
  actor : Actor
  request : JobRequest

namespace JobTurn

def perform (turn : JobTurn) : Call JobAnswer := turn.request.perform turn.actor

/-- The connection after some turns, taken one after the other whether they succeed or not. -/
def run (turns : List JobTurn) (connection : Connection) : Connection :=
  turns.foldl (fun connection turn => (turn.perform connection).connection) connection

/-- What a user is answered in a run. -/
def answersTo (user : Int) :
    List JobTurn → Connection → List (Except GraphError JobAnswer)
  | [], _ => []
  | turn :: rest, connection =>
    if turn.actor.userId = user then
      (turn.perform connection).result :: answersTo user rest (turn.perform connection).connection
    else answersTo user rest (turn.perform connection).connection

/-- Whatever a user asks in a run is about jobs that it owns at that time. -/
def AsksForOwn (user : Int) : List JobTurn → Connection → Prop
  | [], _ => True
  | turn :: rest, connection =>
    (turn.actor.userId = user → turn.request.ConcernsOwn user connection.store) ∧
      AsksForOwn user rest (turn.perform connection).connection

/-- The turns that a user takes. -/
def ownTurns (user : Int) (turns : List JobTurn) : List JobTurn :=
  turns.filter (fun turn => turn.actor.userId == user)

/-- Where nothing is open, a turn opens nothing and leaves the jobs in order and those of other
users as they are. -/
theorem keeps_others (turn : JobTurn) {connection : Connection}
    (hclosed : connection.frames = []) (hordered : connection.store.JobsOrdered) :
    (turn.perform connection).connection.frames = [] ∧
      (turn.perform connection).connection.store.JobsOrdered ∧
      ∀ user, user ≠ turn.actor.userId →
        connection.store.SameJobs (turn.perform connection).connection.store user := by
  have hrealizes : turn.perform.Realizes (turn.request.transition turn.actor) :=
    turn.request.realizes_perform turn.actor
  rcases hrealizes.of_closed hclosed with ⟨_, _, hsame⟩ | ⟨_, after, hcall, _, hafter⟩
  · rw [hsame]
    exact ⟨hclosed, hordered, fun user _ => .refl _ user⟩
  · rw [hafter]
    exact ⟨hclosed, JobRequest.keeps_others hordered hcall⟩

/-- After any run on a fresh store the jobs are in order. -/
theorem ordered_run (turns : List JobTurn) :
    (run turns {}).frames = [] ∧ (run turns {}).store.JobsOrdered :=
  Call.Realizes.foldl_keeps (fun turn : JobTurn => turn.request.realizes_perform turn.actor)
    (fun _ _ _ _ _ hordered hcall => (JobRequest.keeps_others hordered hcall).1) rfl .empty

/-- A user who asks about own jobs only is answered in a run of everybody's turns as in the run of
its own turns, and is left with the same jobs. -/
theorem answered_as_alone {user : Int} (turns : List JobTurn) {first second : Connection}
    (hfirst : first.frames = [] ∧ first.store.JobsOrdered)
    (hsecond : second.frames = [] ∧ second.store.JobsOrdered)
    (hsame : first.store.SameJobs second.store user) (hown : AsksForOwn user turns first) :
    answersTo user turns first = answersTo user (ownTurns user turns) second ∧
      (run turns first).store.SameJobs (run (ownTurns user turns) second).store user := by
  induction turns generalizing first second with
  | nil => exact ⟨rfl, hsame⟩
  | cons turn rest ih =>
    obtain ⟨hasked, hrest⟩ := hown
    obtain ⟨hclosed, hordered, hothers⟩ := turn.keeps_others hfirst.1 hfirst.2
    by_cases huser : turn.actor.userId = user
    · subst huser
      obtain ⟨hanswer, hafter⟩ :=
        JobRequest.answered_alike hfirst.2 hsecond.2 hsame (hasked rfl)
      obtain ⟨hlater, hsorted, _⟩ := turn.keeps_others hsecond.1 hsecond.2
      have hturns : ownTurns turn.actor.userId (turn :: rest) =
          turn :: ownTurns turn.actor.userId rest := by simp [ownTurns]
      obtain ⟨hanswers, hjobs⟩ := ih ⟨hclosed, hordered⟩ ⟨hlater, hsorted⟩ hafter hrest
      rw [hturns, answersTo, answersTo, if_pos rfl, if_pos rfl]
      exact ⟨congrArg₂ List.cons hanswer hanswers, hjobs⟩
    · have hturns : ownTurns user (turn :: rest) = ownTurns user rest := by
        simp [ownTurns, huser]
      have hafter : (turn.perform first).connection.store.SameJobs second.store user :=
        (hothers user (Ne.symm huser)).symm.trans hsame
      rw [hturns, answersTo, if_neg huser]
      exact ih ⟨hclosed, hordered⟩ hsecond hafter hrest

end JobTurn

end RecordGraph
