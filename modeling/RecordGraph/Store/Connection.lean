import RecordGraph.Store.Rows

/-!
# Transactions

A connection sees the store with its own open changes.  Opening a transaction or a savepoint keeps
a copy of the store; going back restores that copy.  Savepoints nest.  One failure is worse than
the others: when no number is left for a row, the whole transaction is undone and closed, and the
savepoints inside it are gone.
-/

namespace RecordGraph

/-- An open transaction or savepoint, with the store as it was when it was opened. -/
structure Frame where
  /-- The name of a savepoint; a transaction has none. -/
  savepoint : Option String
  saved : Store
deriving Repr

/-- The store as the connection sees it, and what is open, innermost first. -/
structure Connection where
  store : Store := {}
  frames : List Frame := []
deriving Repr, Inhabited

/-- Why a transaction could not be opened or closed. -/
inductive TransactionFailure where
  | alreadyOpen
  | nothingToCommit
  | nothingToRollBack
deriving DecidableEq, Repr

def TransactionFailure.message : TransactionFailure → String
  | .alreadyOpen => "cannot start a transaction within a transaction"
  | .nothingToCommit => "cannot commit - no transaction is active"
  | .nothingToRollBack => "cannot rollback - no transaction is active"

namespace Connection

/-- The store as it was before anything now open was opened. -/
def committed (connection : Connection) : Store :=
  match connection.frames.getLast? with
  | some frame => frame.saved
  | none => connection.store

/-- Undo all open changes and close everything. -/
def abort (connection : Connection) : Connection := { store := connection.committed }

def begin? (connection : Connection) : Except TransactionFailure Connection :=
  match connection.frames with
  | [] => .ok { connection with frames := [⟨none, connection.store⟩] }
  | _ => .error .alreadyOpen

def commit? (connection : Connection) : Except TransactionFailure Connection :=
  match connection.frames with
  | [] => .error .nothingToCommit
  | _ => .ok { connection with frames := [] }

def rollback? (connection : Connection) : Except TransactionFailure Connection :=
  match connection.frames with
  | [] => .error .nothingToRollBack
  | _ => .ok connection.abort

def openSavepoint (connection : Connection) (name : String) : Connection :=
  { connection with frames := ⟨some name, connection.store⟩ :: connection.frames }

/-- The innermost savepoint of a name and what is open around it. -/
def findSavepoint (name : String) : List Frame → Option (Frame × List Frame)
  | [] => none
  | frame :: outer =>
    if frame.savepoint == some name then some (frame, outer) else findSavepoint name outer

/-- Keep the changes since a savepoint and close it with all inside it. -/
def release (connection : Connection) (name : String) : Except StorageFailure Connection :=
  match findSavepoint name connection.frames with
  | some (_, outer) => .ok { connection with frames := outer }
  | none => .error (.noSavepoint name)

/-- Undo the changes since a savepoint and close it with all inside it. -/
def rollbackTo (connection : Connection) (name : String) : Except StorageFailure Connection :=
  match findSavepoint name connection.frames with
  | some (frame, outer) => .ok { store := frame.saved, frames := outer }
  | none => .error (.noSavepoint name)

end Connection

/-- What a call leaves: its result, the connection after it and the warnings it gave. -/
structure Outcome (α : Type) where
  result : Except GraphError α
  connection : Connection
  warnings : List Warning := []

/-- A call on a connection. -/
def Call (α : Type) : Type := Connection → Outcome α

namespace Call

variable {α β : Type}

def succeed (value : α) : Call α := fun connection => ⟨.ok value, connection, []⟩

/-- Go on with the result of a call that succeeded. -/
def andThen (call : Call α) (next : α → Call β) : Call β := fun connection =>
  let first := call connection
  match first.result with
  | .error error => ⟨.error error, first.connection, first.warnings⟩
  | .ok value =>
    let second := next value first.connection
    ⟨second.result, second.connection, first.warnings ++ second.warnings⟩

instance : Monad Call where
  pure := succeed
  bind := andThen

/-- Ask the store. -/
def ask (question : Store → α) : Call α := fun connection =>
  ⟨.ok (question connection.store), connection, []⟩

/-- Ask the store, failing on a refusal. -/
def check (question : Store → Except GraphError α) : Call α := fun connection =>
  ⟨question connection.store, connection, []⟩

def change (update : Store → Store) : Call Unit := fun connection =>
  ⟨.ok (), { connection with store := update connection.store }, []⟩

/-- Store a row.  When the numbers have run out, the transaction is lost. -/
def insertRow (insert : Store → Except RowFailure (α × Store))
    (explain : RowFailure → GraphError) : Call α := fun connection =>
  match insert connection.store with
  | .ok (value, store) => ⟨.ok value, { connection with store }, []⟩
  | .error .full => ⟨.error (explain .full), connection.abort, []⟩
  | .error failure => ⟨.error (explain failure), connection, []⟩

/-- Run a call so that its failure leaves no trace.  Where the savepoint is gone by then, there is
nothing left to undo, and a warning says so. -/
def inSavepoint (name : String) (body : Call α) : Call α := fun connection =>
  let inner := body (connection.openSavepoint name)
  match inner.result with
  | .ok value =>
    match inner.connection.release name with
    | .ok released => ⟨.ok value, released, inner.warnings⟩
    | .error failure => ⟨.error (.storage failure), inner.connection, inner.warnings⟩
  | .error error =>
    match inner.connection.rollbackTo name with
    | .ok restored => ⟨.error error, restored, inner.warnings⟩
    | .error failure =>
      ⟨.error error, inner.connection, inner.warnings ++ [.rollbackFailed name failure]⟩

end Call

end RecordGraph
