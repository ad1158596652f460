/-!
# Arguments of a command line

The arguments of one command are options and operands in any order.  An option starts with two
hyphens; its value follows as the next argument or after an equals sign.  Two hyphens alone end the
options.  A line that breaks these rules is refused as a whole.
-/

namespace RecordGraph

/-- An option that a command knows. -/
structure OptionRule where
  /-- As it is written, with its hyphens. -/
  name : String
  takesValue : Bool
deriving DecidableEq, Repr

def OptionRule.flag (name : String) : OptionRule := ⟨name, false⟩

def OptionRule.valued (name : String) : OptionRule := ⟨name, true⟩

/-- The options that were given, each with its value, and what else was on the line. -/
structure Arguments where
  /-- In the order of the line; a flag has the empty text for its value. -/
  options : List (String × String)
  operands : List String
deriving DecidableEq, Repr, Inhabited

namespace Arguments

/-- Whether an argument stands in the place of an option.  A hyphen alone is an operand. -/
def looksLikeOption (argument : String) : Bool :=
  match argument.toList with
  | '-' :: _ :: _ => true
  | _ => false

/-- An option and the value attached to it by an equals sign. -/
def cutValue (argument : String) : String × Option String :=
  let cs := argument.toList
  match cs.dropWhile (· != '=') with
  | [] => (argument, none)
  | _ :: value => (String.ofList (cs.takeWhile (· != '=')), some (String.ofList value))

def withOption (name value : String) (arguments : Arguments) : Arguments :=
  { arguments with options := (name, value) :: arguments.options }

def withOperand (operand : String) (arguments : Arguments) : Arguments :=
  { arguments with operands := operand :: arguments.operands }

/-- Sort the arguments of a line.  With `leading`, the first operand ends the command's own part
of the line, and the operands are that one and all that follows it. -/
def read? (rules : List OptionRule) (leading : Bool) : List String → Option Arguments
  | [] => some ⟨[], []⟩
  | argument :: rest =>
    if argument = "--" then if leading then none else some ⟨[], rest⟩
    else if looksLikeOption argument then
      let (name, attached) := cutValue argument
      match rules.find? (fun rule => rule.name == name), attached with
      | none, _ => none
      | some ⟨_, false⟩, some _ => none
      | some ⟨_, false⟩, none => (read? rules leading rest).map (withOption name "")
      | some ⟨_, true⟩, some value => (read? rules leading rest).map (withOption name value)
      | some ⟨_, true⟩, none =>
        match rest with
        | [] => none
        | value :: rest =>
          if looksLikeOption value then none
          else (read? rules leading rest).map (withOption name value)
    else if leading then some ⟨[], argument :: rest⟩
    else (read? rules leading rest).map (withOperand argument)

/-- The values of an option, in order. -/
def given (arguments : Arguments) (name : String) : List String :=
  (arguments.options.filter (fun option => option.1 == name)).map Prod.snd

/-- Whether a flag is set; a flag that is set twice is refused. -/
def flag? (arguments : Arguments) (name : String) : Option Bool :=
  match arguments.given name with
  | [] => some false
  | [_] => some true
  | _ => none

/-- The value of an option that may be absent; given twice it is refused, as is a value that cannot
be read. -/
def value? (arguments : Arguments) (name : String) (read : String → Option α) :
    Option (Option α) :=
  match arguments.given name with
  | [] => some none
  | [text] => (read text).map some
  | _ => none

/-- The values of an option that may be repeated. -/
def values? (arguments : Arguments) (name : String) (read : String → Option α) :
    Option (List α) :=
  (arguments.given name).mapM read

end Arguments

end RecordGraph
