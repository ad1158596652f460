/-!
# Which types may be mapped

Edges between certain groups of types belong to external integrations: an internal actor may
neither make nor remove them.  Three rules are tried in order, each on the unordered pair of
types, and the first that matches is reported.
-/

namespace RecordGraph.Policy

/-- The rule that a pair of types broke. -/
inductive Violation where
  /-- A scoping object with a directive. -/
  | scopingToDirective
  /-- A control with a scoping object, a directive or a risk. -/
  | control
  /-- A risk with a scoping object, a directive or a control. -/
  | risk
deriving DecidableEq, Repr

def Violation.message : Violation → String
  | .scopingToDirective =>
    "You do not have the necessary permissions to map and unmap scoping objects to directives " ++
    "in this application. Please contact your administrator if you have any questions."
  | .control =>
    "You do not have the necessary permissions to map and unmap controls to scoping objects, " ++
    "standards and regulations in this application. Please contact your administrator if you " ++
    "have any questions."
  | .risk =>
    "You do not have the necessary permissions to map and unmap risks to scoping objects, " ++
    "controls, standards and regulations in this application. Please contact your administrator " ++
    "if you have any questions."

def isDirective (type : String) : Bool := type == "Regulation" || type == "Standard"

def isControl (type : String) : Bool := type == "Control"

def isRisk (type : String) : Bool := type == "Risk"

/-- One type is in the first group and the other in the second, in either order. -/
def joins (first second : String → Bool) (left right : String) : Bool :=
  (first left && second right) || (first right && second left)

/-- The rule that an internal actor breaks by mapping two types.  `scoping` holds the names of
the scoping types. -/
def restriction? (scoping : List String) (source destination : String) : Option Violation :=
  let isScoping := fun type => scoping.contains type
  let restricted := fun type => isScoping type || isDirective type
  if joins isScoping isDirective source destination then
    some .scopingToDirective
  else if joins (fun type => restricted type || isRisk type) isControl source destination then
    some .control
  else if joins (fun type => restricted type || isControl type) isRisk source destination then
    some .risk
  else none

/-- The rule that an actor breaks by mapping two types; external actors break none. -/
def violation? (scoping : List String) (external : Bool) (source destination : String) :
    Option Violation :=
  if external then none else restriction? scoping source destination

end RecordGraph.Policy
