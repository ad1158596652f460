import RecordGraph.Error
import RecordGraph.Text.Blank

/-!
# Kinds and stages of jobs

A bulk job imports or exports records.  It moves through its stages along fixed transitions until
it is in a terminal stage.  Words for kinds and stages are read leniently: blanks around them,
letter case, and underscores or hyphens for spaces make no difference.
-/

namespace RecordGraph

inductive JobKind where
  | importing
  | exporting
deriving DecidableEq, Repr, Inhabited

inductive JobStatus where
  | notStarted
  | analysis
  | inProgress
  | blocked
  | analysisFailed
  | stopped
  | failed
  | finished
deriving DecidableEq, Repr, Inhabited

/-- A word that names no kind, or no stage. -/
structure UnknownWord where
  expected : String
  got : String
deriving DecidableEq, Repr

def UnknownWord.message (word : UnknownWord) : String :=
  "invalid " ++ word.expected ++ ": '" ++ word.got ++ "'"

/-- A space for the characters that may stand for one; the ASCII letters in lower case. -/
def foldChar (c : Char) : Char :=
  if c == '_' || c == '-' then ' ' else c.toLower

/-- The form in which words are compared. -/
def foldWord (cs : List Char) : List Char := (Text.trim cs).map foldChar

namespace JobKind

def all : List JobKind := [.importing, .exporting]

/-- The stored name. -/
def name : JobKind → String
  | .importing => "Import"
  | .exporting => "Export"

/-- The kind of exactly this stored name. -/
def ofName? (text : String) : Option JobKind :=
  all.find? (fun kind => kind.name == text)

/-- Read a word leniently. -/
def ofChars? (cs : List Char) : Option JobKind :=
  all.find? (fun kind => kind.name.toList.map foldChar == foldWord cs)

def parse (text : String) : Except UnknownWord JobKind :=
  match ofChars? text.toList with
  | some kind => .ok kind
  | none => .error ⟨"job type", text⟩

end JobKind

namespace JobStatus

def all : List JobStatus :=
  [.notStarted, .analysis, .inProgress, .blocked, .analysisFailed, .stopped, .failed, .finished]

/-- The stored name. -/
def name : JobStatus → String
  | .notStarted => "Not Started"
  | .analysis => "Analysis"
  | .inProgress => "In Progress"
  | .blocked => "Blocked"
  | .analysisFailed => "Analysis Failed"
  | .stopped => "Stopped"
  | .failed => "Failed"
  | .finished => "Finished"

/-- The stage of exactly this stored name. -/
def ofName? (text : String) : Option JobStatus :=
  all.find? (fun status => status.name == text)

/-- Read a word leniently. -/
def ofChars? (cs : List Char) : Option JobStatus :=
  all.find? (fun status => status.name.toList.map foldChar == foldWord cs)

def parse (text : String) : Except UnknownWord JobStatus :=
  match ofChars? text.toList with
  | some status => .ok status
  | none => .error ⟨"job status", text⟩

/-- Whether a job in this stage can no longer change its stage. -/
def isTerminal : JobStatus → Bool
  | .analysisFailed | .stopped | .failed | .finished => true
  | .notStarted | .analysis | .inProgress | .blocked => false

/-- The stages that may follow. -/
def successors : JobStatus → List JobStatus
  | .notStarted => [.analysis, .inProgress, .stopped, .failed]
  | .analysis => [.blocked, .inProgress, .analysisFailed, .stopped]
  | .blocked => [.inProgress, .stopped]
  | .inProgress => [.finished, .failed, .stopped]
  | .analysisFailed | .stopped | .failed | .finished => []

/-- Refuse every move but one to a successor. -/
def checkTransition (current target : JobStatus) : Except GraphError Unit :=
  if target ∈ current.successors then .ok ()
  else .error (.invalidTransition current.name target.name)

end JobStatus

end RecordGraph
