/-!
# Output modes

Results are shown to people, as plain rows, or as documents.
-/

namespace RecordGraph

inductive OutputMode where
  | pretty
  | text
  | json
deriving DecidableEq, Repr, Inhabited

namespace OutputMode

def ofName? (name : String) : Option OutputMode :=
  if name = "pretty" then some .pretty
  else if name = "text" then some .text
  else if name = "json" then some .json
  else none

/-- The mode asked for on the command line, or else the configured one; rows where the configured
name is none of the three. -/
def resolve (flag : Option OutputMode) (configured : String) : OutputMode :=
  match flag with
  | some mode => mode
  | none => (ofName? configured).getD .text

def isJson : OutputMode → Bool
  | .json => true
  | _ => false

end OutputMode

end RecordGraph
