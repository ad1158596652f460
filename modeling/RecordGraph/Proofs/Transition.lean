import RecordGraph.Store.Connection

/-!
# Calls as transitions of the store

A call works on a connection, with savepoints that are opened, released and rolled back.  What it
comes to can be read off the store alone: it is refused, or it gives a value and a new store.
This module proves that a savepoint turns a sequence of steps into such a transition.  After a
success the connection sees the new store; after a refusal it is as it was before.  The exception
is a call that finds no number left for a row: it undoes everything that is open around it.
-/

namespace RecordGraph

/-! ## Refusals -/

section

variable {ε α β : Type}

theorem bind_eq_ok_iff {first : Except ε α} {next : α → Except ε β} {result : β} :
    (first >>= next) = .ok result ↔ ∃ value, first = .ok value ∧ next value = .ok result := by
  cases first with
  | error error => simp [bind, Except.bind]
  | ok value => simp [bind, Except.bind]

theorem bind_eq_error_iff {error : ε} {first : Except ε α} {next : α → Except ε β} :
    (first >>= next) = .error error ↔
      first = .error error ∨ ∃ value, first = .ok value ∧ next value = .error error := by
  cases first with
  | error other => simp [bind, Except.bind]
  | ok value => simp [bind, Except.bind]

theorem bind_ne_error {error : ε} {first : Except ε α} {next : α → Except ε β}
    (hfirst : first ≠ .error error)
    (hnext : ∀ value, first = .ok value → next value ≠ .error error) :
    (first >>= next) ≠ .error error := by
  intro hfailed
  rcases bind_eq_error_iff.1 hfailed with herror | ⟨value, hvalue, herror⟩
  · exact hfirst herror
  · exact hnext value hvalue herror

@[simp]
theorem mapError_error {φ : Type} {explain : φ → ε} (failure : φ) :
    (Except.error failure : Except φ α).mapError explain = .error (explain failure) := rfl

@[simp]
theorem mapError_ok {φ : Type} {explain : φ → ε} (value : α) :
    (Except.ok value : Except φ α).mapError explain = .ok value := rfl

theorem mapError_eq_ok_iff {φ : Type} {explain : φ → ε} {outcome : Except φ α} {result : α} :
    outcome.mapError explain = .ok result ↔ outcome = .ok result := by
  cases outcome with
  | error failure => simp
  | ok value => simp

theorem mapError_eq_full_iff {explain : RowFailure → GraphError}
    (hexplain : ∀ failure, explain failure = .storage .full ↔ failure = .full)
    {outcome : Except RowFailure α} :
    outcome.mapError explain = .error (.storage .full) ↔ outcome = .error .full := by
  cases outcome with
  | error failure => simp [hexplain]
  | ok value => simp

/-- An insertion that finds a number is not reported to have found none. -/
theorem mapError_ne_full {explain : RowFailure → GraphError}
    (hexplain : ∀ failure, explain failure = .storage .full ↔ failure = .full)
    {outcome : Except RowFailure α} (hnumber : outcome ≠ .error .full) :
    outcome.mapError explain ≠ .error (.storage .full) :=
  mt (mapError_eq_full_iff hexplain).1 hnumber

end

/-! ## Transitions -/

/-- What a call makes of a store, or the reason why it makes nothing of it. -/
abbrev Transition (α : Type) : Type := Store → Except GraphError (α × Store)

namespace Transition

variable {α β : Type}

/-- A question to the store, which leaves it alone. -/
def read (question : Store → Except GraphError α) : Transition α := fun store =>
  (question store).map (fun value => (value, store))

def change (update : Store → Store) : Transition Unit := fun store => .ok ((), update store)

def insertRow (insert : Store → Except RowFailure (α × Store))
    (explain : RowFailure → GraphError) : Transition α := fun store =>
  (insert store).mapError explain

def andThen (first : Transition α) (next : α → Transition β) : Transition β := fun store =>
  match first store with
  | .error error => .error error
  | .ok (value, after) => next value after

/-- The transition with something else made of its value. -/
def map (transform : α → β) (transition : Transition α) : Transition β :=
  transition.andThen (fun value => read (fun _ => .ok (transform value)))

/-- The transition without its value. -/
def void (transition : Transition α) : Transition Unit :=
  transition.andThen (fun _ => read (fun _ => .ok ()))

theorem read_eq_ok_iff {question : Store → Except GraphError α} {store after : Store}
    {value : α} :
    read question store = .ok (value, after) ↔ question store = .ok value ∧ after = store := by
  rw [read]
  cases question store with
  | error error => simp [Except.map]
  | ok answer => simp [Except.map, eq_comm]

theorem read_eq_error_iff {question : Store → Except GraphError α} {store : Store}
    {error : GraphError} :
    read question store = .error error ↔ question store = .error error := by
  rw [read]
  cases question store with
  | error found => simp [Except.map]
  | ok answer => simp [Except.map]

theorem map_eq_ok_iff {transform : α → β} {transition : Transition α} {store after : Store}
    {result : β} :
    transition.map transform store = .ok (result, after) ↔
      ∃ value, transition store = .ok (value, after) ∧ transform value = result := by
  rw [map, andThen]
  cases transition store with
  | error error => simp
  | ok outcome =>
    obtain ⟨value, next⟩ := outcome
    simp only [read, Except.map, Except.ok.injEq, Prod.mk.injEq]
    constructor
    · intro hmapped
      exact ⟨value, ⟨rfl, hmapped.2⟩, hmapped.1⟩
    · intro hparts
      obtain ⟨_, ⟨rfl, hafter⟩, hresult⟩ := hparts
      exact ⟨hresult, hafter⟩

theorem map_eq_error_iff {transform : α → β} {transition : Transition α} {store : Store}
    {error : GraphError} :
    transition.map transform store = .error error ↔ transition store = .error error := by
  rw [map, andThen]
  cases transition store with
  | error found => simp
  | ok outcome => simp [read, Except.map]

theorem void_eq_ok_iff {transition : Transition α} {store after : Store} :
    transition.void store = .ok ((), after) ↔ ∃ value, transition store = .ok (value, after) := by
  have hmap : transition.void = transition.map (fun _ => ()) := rfl
  rw [hmap, map_eq_ok_iff]
  simp only [and_true]

theorem void_eq_error_iff {transition : Transition α} {store : Store} {error : GraphError} :
    transition.void store = .error error ↔ transition store = .error error :=
  map_eq_error_iff

end Transition

/-- The connection after a transition of its store. -/
def Connection.settle {α : Type} (connection : Connection) :
    Except GraphError (α × Store) → Connection
  | .ok (_, store) => { connection with store }
  | .error error => if error = .storage .full then connection.abort else connection

/-- Where nothing is open, a refusal leaves nothing to undo. -/
theorem Connection.settle_error_of_closed {α : Type} {connection : Connection}
    (hclosed : connection.frames = []) (error : GraphError) :
    connection.settle (.error error : Except GraphError (α × Store)) = connection := by
  have habort : connection.abort = connection := by
    obtain ⟨store, frames⟩ := connection
    cases hclosed
    rfl
  rw [Connection.settle, habort, ite_self]

/-- Where the steps of a transition may leave a connection.  A refused change may be half done, but
what is open stays open, unless no number was left. -/
def Connection.Passes {α : Type} (connection : Connection) :
    Except GraphError (α × Store) → Connection → Prop
  | .ok (_, store), after => after = { connection with store }
  | .error error, after =>
    if error = .storage .full then connection.frames ≠ [] → after = connection.abort
    else after.frames = connection.frames

namespace Call

variable {α β : Type}

/-- The call with something else made of its value. -/
def map (transform : α → β) (call : Call α) : Call β :=
  call.andThen (fun value => succeed (transform value))

/-- The call without its value. -/
def void (call : Call α) : Call Unit := call.andThen (fun _ => succeed ())

/-- A call realizes a transition when it answers as the transition does and leaves nothing else
behind. -/
def Realizes (call : Call α) (transition : Transition α) : Prop :=
  ∀ connection, (call connection).result = (transition connection.store).map Prod.fst ∧
    (call connection).connection = connection.settle (transition connection.store)

/-- A call follows a transition when it answers as the transition does and leaves the connection
where its steps may. -/
def Follows (call : Call α) (transition : Transition α) : Prop :=
  ∀ connection, (call connection).result = (transition connection.store).map Prod.fst ∧
    connection.Passes (transition connection.store) (call connection).connection

theorem Realizes.follows {call : Call α} {transition : Transition α}
    (hrealizes : call.Realizes transition) : call.Follows transition := by
  intro connection
  obtain ⟨hresult, hconnection⟩ := hrealizes connection
  refine ⟨hresult, ?_⟩
  rw [hconnection]
  cases transition connection.store with
  | ok outcome => rfl
  | error error =>
    by_cases hfull : error = .storage .full
    · simp [Connection.settle, Connection.Passes, hfull]
    · simp [Connection.settle, Connection.Passes, hfull]

theorem Realizes.congr {call : Call α} {transition other : Transition α}
    (hrealizes : call.Realizes transition) (hsame : ∀ store, transition store = other store) :
    call.Realizes other := by
  have heq : transition = other := funext hsame
  rwa [← heq]

theorem Follows.congr {call : Call α} {transition other : Transition α}
    (hfollows : call.Follows transition) (hsame : ∀ store, transition store = other store) :
    call.Follows other := by
  have heq : transition = other := funext hsame
  rwa [← heq]

theorem Realizes.result_eq_ok_iff {call : Call α} {transition : Transition α}
    (hrealizes : call.Realizes transition) {connection : Connection} {value : α} :
    (call connection).result = .ok value ↔
      ∃ after, transition connection.store = .ok (value, after) := by
  rw [(hrealizes connection).1]
  cases transition connection.store with
  | error error => simp [Except.map]
  | ok outcome => simp [Except.map, Prod.ext_iff]

theorem Realizes.result_eq_error_iff {call : Call α} {transition : Transition α}
    (hrealizes : call.Realizes transition) {connection : Connection} {error : GraphError} :
    (call connection).result = .error error ↔ transition connection.store = .error error := by
  rw [(hrealizes connection).1]
  cases transition connection.store with
  | error found => simp [Except.map]
  | ok outcome => simp [Except.map]

/-- A transition that succeeds leaves what is open on the connection as it is. -/
theorem Realizes.connection_of_ok {call : Call α} {transition : Transition α}
    (hrealizes : call.Realizes transition) {connection : Connection} {value : α} {after : Store}
    (hchanged : transition connection.store = .ok (value, after)) :
    (call connection).connection = { connection with store := after } := by
  rw [(hrealizes connection).2, hchanged]
  rfl

/-- Where nothing is open, a call is refused and leaves everything as it was, or it leaves the store
after its transition. -/
theorem Realizes.of_closed {call : Call α} {transition : Transition α}
    (hrealizes : call.Realizes transition) {connection : Connection}
    (hclosed : connection.frames = []) :
    (∃ error, (call connection).result = .error error ∧
        (call connection).connection = connection) ∨
      ∃ value after, transition connection.store = .ok (value, after) ∧
        (call connection).result = .ok value ∧
        (call connection).connection = { connection with store := after } := by
  obtain ⟨hresult, hconnection⟩ := hrealizes connection
  rw [hresult, hconnection]
  cases transition connection.store with
  | error error => exact .inl ⟨error, rfl, Connection.settle_error_of_closed hclosed error⟩
  | ok outcome => exact .inr ⟨outcome.1, outcome.2, rfl, rfl, rfl⟩

/-- A call that undoes nothing but what it did itself leaves the connection as it was, or the store
as its transition leaves it and what is open as it was. -/
theorem Realizes.connection_cases {call : Call α} {transition : Transition α}
    (hrealizes : call.Realizes transition) {connection : Connection}
    (hnumbers : connection.frames = [] ∨
      transition connection.store ≠ .error (.storage .full)) :
    (call connection).connection = connection ∨
      ∃ value after, transition connection.store = .ok (value, after) ∧
        (call connection).connection = { connection with store := after } := by
  rw [(hrealizes connection).2]
  cases hchanged : transition connection.store with
  | ok outcome => exact .inr ⟨outcome.1, outcome.2, rfl, rfl⟩
  | error error =>
    rcases hnumbers with hclosed | hother
    · exact .inl (Connection.settle_error_of_closed hclosed error)
    · have hfull : error ≠ .storage .full := by
        rintro rfl
        exact hother hchanged
      rw [Connection.settle, if_neg hfull]
      exact .inl rfl

/-- A call that finds no number undoes everything that is open, and closes it. -/
theorem Realizes.of_full {call : Call α} {transition : Transition α}
    (hrealizes : call.Realizes transition) {connection : Connection}
    (hfull : transition connection.store = .error (.storage .full)) :
    (call connection).result = .error (.storage .full) ∧
      (call connection).connection = connection.abort := by
  obtain ⟨hresult, hconnection⟩ := hrealizes connection
  rw [hresult, hconnection, hfull, Connection.settle, if_pos rfl]
  exact ⟨rfl, rfl⟩

/-- What holds of the store before a call and of every store that its transition leads to holds
after the call, unless the call ends an open transaction: then it holds after the call just if it
holds of what the transaction began with. -/
theorem Realizes.store_iff {call : Call α} {transition : Transition α}
    (hrealizes : call.Realizes transition) {connection : Connection} {property : Store → Prop}
    (hstart : property connection.store)
    (hstep : ∀ value after, transition connection.store = .ok (value, after) → property after) :
    property (call connection).connection.store ↔
      (connection.frames ≠ [] → transition connection.store = .error (.storage .full) →
        property connection.committed) := by
  by_cases hends : connection.frames ≠ [] ∧
      transition connection.store = .error (.storage .full)
  · obtain ⟨hopen, hfull⟩ := hends
    rw [(hrealizes.of_full hfull).2]
    exact ⟨fun hafter _ _ => hafter, fun hcommitted => hcommitted hopen hfull⟩
  · refine iff_of_true ?_ (fun hopen hfull => absurd ⟨hopen, hfull⟩ hends)
    have hnumbers : connection.frames = [] ∨
        transition connection.store ≠ .error (.storage .full) := by
      by_cases hclosed : connection.frames = []
      · exact .inl hclosed
      · exact .inr fun hfull => hends ⟨hclosed, hfull⟩
    rcases hrealizes.connection_cases hnumbers with hsame | ⟨value, after, hchanged, hafter⟩
    · rwa [hsame]
    · rw [hafter]
      exact hstep value after hchanged

/-- Where nothing is open, a call keeps what its transition keeps, and opens nothing. -/
theorem Realizes.keeps {call : Call α} {transition : Transition α}
    (hrealizes : call.Realizes transition) {property : Store → Prop} {connection : Connection}
    (hclosed : connection.frames = []) (hstart : property connection.store)
    (hstep : ∀ value after, transition connection.store = .ok (value, after) → property after) :
    (call connection).connection.frames = [] ∧ property (call connection).connection.store := by
  rcases hrealizes.of_closed hclosed with ⟨_, _, hsame⟩ | ⟨value, after, hchanged, _, hafter⟩
  · rw [hsame]
    exact ⟨hclosed, hstart⟩
  · rw [hafter]
    exact ⟨hclosed, hstep value after hchanged⟩

/-- Where nothing is open, what each of some calls keeps is kept by all of them, one after the
other. -/
theorem Realizes.foldl_keeps {ι : Type} {perform : ι → Call α} {transition : ι → Transition α}
    (hrealizes : ∀ item, (perform item).Realizes (transition item)) {property : Store → Prop}
    {items : List ι}
    (hstep : ∀ item ∈ items, ∀ store value after, property store →
      transition item store = .ok (value, after) → property after)
    {connection : Connection} (hclosed : connection.frames = [])
    (hstart : property connection.store) :
    (items.foldl (fun connection item => (perform item connection).connection)
        connection).frames = [] ∧
      property (items.foldl (fun connection item => (perform item connection).connection)
        connection).store := by
  induction items generalizing connection with
  | nil => exact ⟨hclosed, hstart⟩
  | cons item rest ih =>
    obtain ⟨hframes, hnext⟩ := (hrealizes item).keeps hclosed hstart
      fun value after hchanged => hstep item List.mem_cons_self connection.store value after hstart
        hchanged
    exact ih (fun other hother => hstep other (List.mem_cons_of_mem item hother)) hframes hnext

/-! ## Steps -/

theorem realizes_check (question : Store → Except GraphError α)
    (hquestion : ∀ store, question store ≠ .error (.storage .full)) :
    (check question).Realizes (Transition.read question) := by
  intro connection
  cases hanswer : question connection.store with
  | ok value => simp [check, Transition.read, hanswer, Except.map, Connection.settle]
  | error error =>
    have hfull : error ≠ .storage .full := by
      intro hfull
      subst hfull
      exact hquestion connection.store hanswer
    simp [check, Transition.read, hanswer, Except.map, Connection.settle, hfull]

theorem realizes_succeed (value : α) :
    (succeed value).Realizes (Transition.read (fun _ => .ok value)) := by
  intro connection
  exact ⟨rfl, rfl⟩

theorem realizes_ask (question : Store → α) :
    (ask question).Realizes (Transition.read (fun store => .ok (question store))) := by
  intro connection
  exact ⟨rfl, rfl⟩

theorem realizes_change (update : Store → Store) :
    (change update).Realizes (Transition.change update) := by
  intro connection
  exact ⟨rfl, rfl⟩

/-- Storing a row realizes the insertion when the running out of numbers, and nothing else, is
reported as such. -/
theorem realizes_insertRow (insert : Store → Except RowFailure (α × Store))
    (explain : RowFailure → GraphError)
    (hexplain : ∀ failure, explain failure = .storage .full ↔ failure = .full) :
    (insertRow insert explain).Realizes (Transition.insertRow insert explain) := by
  intro connection
  rw [insertRow, Transition.insertRow]
  cases insert connection.store with
  | ok stored => exact ⟨rfl, rfl⟩
  | error failure =>
    by_cases hfull : failure = .full
    · subst hfull
      have hreport : explain .full = .storage .full := (hexplain .full).2 rfl
      simp [Except.map, Connection.settle, hreport]
    · have hreport : explain failure ≠ .storage .full := mt (hexplain failure).1 hfull
      cases failure with
      | full => exact absurd rfl hfull
      | blankType => simp [Except.map, Connection.settle, hreport]
      | duplicate => simp [Except.map, Connection.settle, hreport]
      | foreignKey => simp [Except.map, Connection.settle, hreport]

/-! ## Sequences -/

/-- Where something is open, undoing it all does not depend on the changes made since. -/
theorem abort_withStore (connection : Connection) (store : Store)
    (hopen : connection.frames ≠ []) :
    ({ connection with store } : Connection).abort = connection.abort := by
  simp [Connection.abort, Connection.committed, List.getLast?_eq_some_getLast hopen]

theorem passes_of_withStore {connection after : Connection} {store : Store}
    {outcome : Except GraphError (α × Store)}
    (hpasses : ({ connection with store } : Connection).Passes outcome after) :
    connection.Passes outcome after := by
  cases outcome with
  | ok final => exact hpasses
  | error error =>
    by_cases hfull : error = .storage .full
    · simp only [Connection.Passes, hfull, if_true] at hpasses ⊢
      intro hopen
      rw [hpasses hopen, abort_withStore connection store hopen]
    · simpa only [Connection.Passes, hfull, if_false] using hpasses

theorem Follows.andThen {call : Call α} {next : α → Call β} {first : Transition α}
    {rest : α → Transition β} (hcall : call.Follows first)
    (hnext : ∀ value, (next value).Follows (rest value)) :
    (call.andThen next).Follows (first.andThen rest) := by
  intro connection
  obtain ⟨hresult, hpasses⟩ := hcall connection
  simp only [Call.andThen, Transition.andThen]
  cases hfirst : first connection.store with
  | error error =>
    rw [hfirst] at hresult hpasses
    have hrefused : (call connection).result = .error error := hresult
    rw [hrefused]
    exact ⟨rfl, hpasses⟩
  | ok outcome =>
    obtain ⟨value, store⟩ := outcome
    rw [hfirst] at hresult hpasses
    have hvalue : (call connection).result = .ok value := hresult
    have hconnection : (call connection).connection = { connection with store } := hpasses
    rw [hvalue, hconnection]
    obtain ⟨hanswer, hrest⟩ := hnext value { connection with store }
    exact ⟨hanswer, passes_of_withStore hrest⟩

/-- A question before a call that leaves nothing behind: neither does the whole. -/
theorem Realizes.check_andThen {call : α → Call β} {transition : α → Transition β}
    {question : Store → Except GraphError α}
    (hquestion : ∀ store, question store ≠ .error (.storage .full))
    (hcall : ∀ value, (call value).Realizes (transition value)) :
    ((check question).andThen call).Realizes
      ((Transition.read question).andThen transition) := by
  intro connection
  simp only [Call.andThen, check, Transition.andThen, Transition.read]
  cases hanswer : question connection.store with
  | ok value => exact hcall value connection
  | error error =>
    have hfull : error ≠ .storage .full := by
      intro hfull
      subst hfull
      exact hquestion connection.store hanswer
    simp [Except.map, Connection.settle, hfull]

theorem Realizes.map {call : Call α} {transition : Transition α} (transform : α → β)
    (hcall : call.Realizes transition) :
    (call.map transform).Realizes (transition.map transform) := by
  intro connection
  obtain ⟨hresult, hconnection⟩ := hcall connection
  simp only [Call.map, Call.andThen, Transition.map, Transition.andThen]
  cases htransition : transition connection.store with
  | ok outcome =>
    rw [htransition] at hresult hconnection
    have hvalue : (call connection).result = .ok outcome.1 := hresult
    rw [hvalue]
    exact ⟨rfl, hconnection⟩
  | error error =>
    rw [htransition] at hresult hconnection
    have hrefused : (call connection).result = .error error := hresult
    rw [hrefused]
    exact ⟨rfl, hconnection⟩

theorem Realizes.void {call : Call α} {transition : Transition α}
    (hcall : call.Realizes transition) : call.void.Realizes transition.void :=
  hcall.map fun _ => ()

/-- A call that succeeds has made its transition. -/
theorem Realizes.exists_of_ok {call : Call α} {transition : Transition α}
    (hcall : call.Realizes transition) {connection : Connection} {value : α}
    (hresult : (call connection).result = .ok value) :
    ∃ after, transition connection.store = .ok (value, after) ∧
      (call.void connection).connection = { connection with store := after } := by
  have hvoid := (hcall.void connection).2
  rw [(hcall connection).1] at hresult
  cases htransition : transition connection.store with
  | error error =>
    rw [htransition] at hresult
    cases hresult
  | ok outcome =>
    rw [htransition] at hresult
    cases hresult
    refine ⟨outcome.2, rfl, ?_⟩
    rw [hvoid, Transition.void_eq_ok_iff.2 ⟨outcome.1, htransition⟩]
    rfl

/-! ## Savepoints -/

theorem abort_openSavepoint (connection : Connection) (name : String) :
    (connection.openSavepoint name).abort = connection.abort := by
  simp only [Connection.abort, Connection.committed, Connection.openSavepoint,
    List.getLast?_cons]
  cases connection.frames.getLast? <;> rfl

theorem release_of_frames {connection : Connection} {name : String} {saved : Store}
    {outer : List Frame} (hframes : connection.frames = ⟨some name, saved⟩ :: outer) :
    connection.release name = .ok { connection with frames := outer } := by
  simp [Connection.release, Connection.findSavepoint, hframes]

theorem rollbackTo_of_frames {connection : Connection} {name : String} {saved : Store}
    {outer : List Frame} (hframes : connection.frames = ⟨some name, saved⟩ :: outer) :
    connection.rollbackTo name = .ok ⟨saved, outer⟩ := by
  simp [Connection.rollbackTo, Connection.findSavepoint, hframes]

/-- Inside a savepoint a sequence of steps leaves nothing behind but its transition. -/
theorem Follows.inSavepoint {body : Call α} {transition : Transition α} (name : String)
    (hbody : body.Follows transition) : (inSavepoint name body).Realizes transition := by
  intro connection
  obtain ⟨hresult, hpasses⟩ := hbody (connection.openSavepoint name)
  have hstore : (connection.openSavepoint name).store = connection.store := rfl
  rw [hstore] at hresult hpasses
  simp only [Call.inSavepoint]
  cases htransition : transition connection.store with
  | ok outcome =>
    rw [htransition] at hresult hpasses
    have hvalue : (body (connection.openSavepoint name)).result = .ok outcome.1 := hresult
    have hconnection : (body (connection.openSavepoint name)).connection =
        ⟨outcome.2, ⟨some name, connection.store⟩ :: connection.frames⟩ := hpasses
    have hreleased : (body (connection.openSavepoint name)).connection.release name =
        .ok { connection with store := outcome.2 } := by
      rw [hconnection]
      exact release_of_frames rfl
    simp [hvalue, hreleased, Except.map, Connection.settle]
  | error error =>
    rw [htransition] at hresult hpasses
    have hrefused : (body (connection.openSavepoint name)).result = .error error := hresult
    by_cases hfull : error = .storage .full
    · -- The transaction is gone, and the savepoint with it.
      simp only [Connection.Passes, hfull, if_true] at hpasses
      have hconnection : (body (connection.openSavepoint name)).connection =
          connection.abort := by
        rw [hpasses (List.cons_ne_nil _ _), abort_openSavepoint]
      simp [hrefused, hconnection, hfull, Connection.rollbackTo, Connection.findSavepoint,
        Connection.abort, Except.map, Connection.settle]
    · simp only [Connection.Passes, hfull, if_false] at hpasses
      have hframes : (body (connection.openSavepoint name)).connection.frames =
          ⟨some name, connection.store⟩ :: connection.frames := hpasses
      have hrestored : (body (connection.openSavepoint name)).connection.rollbackTo name =
          .ok connection := rollbackTo_of_frames hframes
      simp [hrefused, hrestored, Except.map, Connection.settle, hfull]

end Call

end RecordGraph
