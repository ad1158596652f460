import RecordGraph.Document.Write
import RecordGraph.Error
import RecordGraph.Output.Mode

/-!
# Reports of failed commands

A failed command tells what went wrong and, where that is known, the code of the failure and what
to do about it.
-/

namespace RecordGraph

structure Report where
  message : String
  suggestion : Option String := none
  code : Option String := none
deriving DecidableEq, Repr, Inhabited

/-- Why a command failed. -/
inductive CommandError where
  | graph (error : GraphError)
  /-- A failure that is reported as it stands. -/
  | reported (report : Report)
  /-- A failure of something else, with what was being done at the time, outermost first. -/
  | other (contexts : List String) (cause : String)
  /-- The program stops at once and reports nothing. -/
  | stopped (cause : String)
deriving Repr

namespace Report

def ofCode (code : ErrorCode) : Report :=
  { message := code.message, suggestion := code.hint, code := some code.code }

/-- The report of a command that needs a project before there is one. -/
def notInitialized : Report := ofCode .notInitialized

def ofGraphError (error : GraphError) : Report :=
  { message := error.message, suggestion := error.hint, code := some error.code.code }

def ofError : CommandError → Report
  | .graph error => ofGraphError error
  | .reported report => report
  | .other contexts cause => { message := ": ".intercalate (contexts ++ [cause]) }
  | .stopped cause => { message := cause }

def field (name : String) : Option String → List (String × Json)
  | some value => [(name, .str value)]
  | none => []

def toJson (report : Report) : Json :=
  .obj [("error", .obj (field "error_code" report.code ++ [("message", .str report.message)] ++
    field "suggestion" report.suggestion))]

def text (report : Report) : String :=
  (match report.code with
    | some code => "error[" ++ code ++ "]: "
    | none => "error: ") ++ report.message ++ "\n" ++
    (match report.suggestion with
      | some suggestion => "  suggestion: " ++ suggestion ++ "\n"
      | none => "")

def render (mode : OutputMode) (report : Report) : String :=
  match mode with
  | .json => report.toJson.pretty ++ "\n"
  | .pretty | .text => report.text

end Report

end RecordGraph
