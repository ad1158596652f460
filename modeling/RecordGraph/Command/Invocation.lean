import RecordGraph.Command.Arguments
import RecordGraph.Graph.Query
import RecordGraph.Job.Status
import RecordGraph.Output.Mode
import RecordGraph.Stub

/-!
# Command lines

What a command line asks for.  Some options may stand before or after the name of a command; where
such an option is given in several places, the one nearest to the end of the line counts.
-/

namespace RecordGraph

/-- A command that works on the store of a project. -/
inductive StoreCommand where
  | addObject (type : String) (id : Int) (title : Option String) (origin : Option Stub)
  | showObject (stub : Stub)
  | listObjects (type : Option String)
  | removeObject (stub : Stub)
  /-- Make an edge, derived from the edge `parent` where that is given. -/
  | map (source destination : Stub) (external : Bool) (parent : Option Int)
  | unmap (id : Int)
  | edges (query : RelatedQuery)
  | related (stub : Stub) (types : List String)
  | neighbors (stubs : List Stub) (types : List String)
  /-- Record a job; with `replacing`, waiting imports are cleared first. -/
  | createJob (kind : JobKind) (title description : Option String) (replacing : Bool)
  | listJobs (kind : JobKind) (ids : List Int)
  | showJob (id : Int)
  | moveJob (id : Int) (status : JobStatus)
  | setResults (id : Int) (text : String)
  | clearJobs
deriving DecidableEq, Repr

inductive Command where
  /-- Make a project; with `force`, put the configuration back to the template. -/
  | init (force : Bool)
  /-- Ask the policy about two types. -/
  | check (source destination : String)
  | onStore (command : StoreCommand)
deriving DecidableEq, Repr

/-- The options that every command takes, in any place. -/
structure GlobalOptions where
  documents : Bool := false
  format : Option OutputMode := none
  user : Option Int := none
deriving DecidableEq, Repr, Inhabited

structure Invocation where
  options : GlobalOptions
  /-- Whether the actor is a trusted integration. -/
  external : Bool
  command : Command
deriving DecidableEq, Repr

namespace GlobalOptions

def rules : List OptionRule := [.flag "--json", .valued "--format", .valued "--user"]

def readId? (text : String) : Option Int := Decimal.read? text.toList

def ofArguments? (arguments : Arguments) : Option GlobalOptions := do
  let documents ← arguments.flag? "--json"
  let format ← arguments.value? "--format" OutputMode.ofName?
  let user ← arguments.value? "--user" readId?
  return { documents, format, user }

/-- The options of a part of the line together with those of the part after it. -/
def followedBy (first second : GlobalOptions) : GlobalOptions :=
  { documents := first.documents || second.documents
    format := second.format.or first.format
    user := second.user.or first.user }

end GlobalOptions

namespace Command

def readStub? (text : String) : Option Stub := Stub.ofChars? text.toList

def readId? (text : String) : Option Int := Decimal.read? text.toList

def readKind? (text : String) : Option JobKind := JobKind.ofChars? text.toList

def readStatus? (text : String) : Option JobStatus := JobStatus.ofChars? text.toList

/-- Read the arguments of one command, with its own options and the global ones. -/
def readWith (rules : List OptionRule) (build : Arguments → Option Command)
    (line : List String) : Option (GlobalOptions × Command) := do
  let arguments ← Arguments.read? (rules ++ GlobalOptions.rules) false line
  let options ← GlobalOptions.ofArguments? arguments
  let command ← build arguments
  return (options, command)

def readInit? : List String → Option (GlobalOptions × Command) :=
  readWith [.flag "--force"] fun arguments =>
    match arguments.operands with
    | [] => (arguments.flag? "--force").map init
    | _ => none

def readAddObject? : List String → Option (GlobalOptions × Command) :=
  readWith [.valued "--title", .valued "--child"] fun arguments =>
    match arguments.operands with
    | [type, id] => do
      let id ← readId? id
      let title ← arguments.value? "--title" some
      let origin ← arguments.value? "--child" readStub?
      return onStore (.addObject type id title origin)
    | _ => none

/-- Read a command whose only argument is a reference. -/
def readOnStub (build : Stub → StoreCommand) : List String → Option (GlobalOptions × Command) :=
  readWith [] fun arguments =>
    match arguments.operands with
    | [stub] => (readStub? stub).map (fun stub => onStore (build stub))
    | _ => none

/-- Read a command whose only argument is a number. -/
def readOnId (build : Int → StoreCommand) : List String → Option (GlobalOptions × Command) :=
  readWith [] fun arguments =>
    match arguments.operands with
    | [id] => (readId? id).map (fun id => onStore (build id))
    | _ => none

def readListObjects? : List String → Option (GlobalOptions × Command) :=
  readWith [.valued "--type"] fun arguments =>
    match arguments.operands with
    | [] => (arguments.value? "--type" some).map (fun type => onStore (.listObjects type))
    | _ => none

def readMap? : List String → Option (GlobalOptions × Command) :=
  readWith [.flag "--external", .valued "--derived-from"] fun arguments =>
    match arguments.operands with
    | [source, destination] => do
      let source ← readStub? source
      let destination ← readStub? destination
      let external ← arguments.flag? "--external"
      let parent ← arguments.value? "--derived-from" readId?
      return onStore (.map source destination external parent)
    | _ => none

def readEdges? : List String → Option (GlobalOptions × Command) :=
  readWith [.valued "--type1", .valued "--id1", .valued "--type2", .valued "--id2",
      .flag "--strict"] fun arguments =>
    match arguments.operands with
    | [] => do
      let type1 ← arguments.value? "--type1" some
      let id1 ← arguments.value? "--id1" readId?
      let type2 ← arguments.value? "--type2" some
      let id2 ← arguments.value? "--id2" readId?
      let strict ← arguments.flag? "--strict"
      return onStore (.edges (.ofParts type1 id1 type2 id2 strict))
    | _ => none

def readRelated? : List String → Option (GlobalOptions × Command) :=
  readWith [.valued "--type"] fun arguments =>
    match arguments.operands with
    | [stub] =>
      (readStub? stub).map (fun stub => onStore (.related stub (arguments.given "--type")))
    | _ => none

def readNeighbors? : List String → Option (GlobalOptions × Command) :=
  readWith [.valued "--type"] fun arguments =>
    match arguments.operands with
    | [] => none
    | stubs =>
      (stubs.mapM readStub?).map
        (fun stubs => onStore (.neighbors stubs (arguments.given "--type")))

def readCheck? : List String → Option (GlobalOptions × Command) :=
  readWith [] fun arguments =>
    match arguments.operands with
    | [source, destination] => some (check source destination)
    | _ => none

/-- Jobs are imports unless another kind is asked for. -/
def kind? (arguments : Arguments) : Option JobKind :=
  (arguments.value? "--type" readKind?).map (fun kind => kind.getD .importing)

def readCreateJob? : List String → Option (GlobalOptions × Command) :=
  readWith [.valued "--type", .valued "--title", .valued "--description", .flag "--replace"]
    fun arguments =>
    match arguments.operands with
    | [] => do
      let kind ← kind? arguments
      let title ← arguments.value? "--title" some
      let description ← arguments.value? "--description" some
      let replacing ← arguments.flag? "--replace"
      return onStore (.createJob kind title description replacing)
    | _ => none

def readListJobs? : List String → Option (GlobalOptions × Command) :=
  readWith [.valued "--type", .valued "--id"] fun arguments =>
    match arguments.operands with
    | [] => do
      let kind ← kind? arguments
      let ids ← arguments.values? "--id" readId?
      return onStore (.listJobs kind ids)
    | _ => none

def readMoveJob? : List String → Option (GlobalOptions × Command) :=
  readWith [] fun arguments =>
    match arguments.operands with
    | [id, status] => do
      let id ← readId? id
      let status ← readStatus? status
      return onStore (.moveJob id status)
    | _ => none

def readSetResults? : List String → Option (GlobalOptions × Command) :=
  readWith [] fun arguments =>
    match arguments.operands with
    | [id, text] => (readId? id).map (fun id => onStore (.setResults id text))
    | _ => none

def readClearJobs? : List String → Option (GlobalOptions × Command) :=
  readWith [] fun arguments =>
    match arguments.operands with
    | [] => some (onStore .clearJobs)
    | _ => none

/-- The commands on records, by the word that follows `object`. -/
def objectReaders : List (String × (List String → Option (GlobalOptions × Command))) :=
  [("add", readAddObject?), ("show", readOnStub .showObject), ("list", readListObjects?),
    ("rm", readOnStub .removeObject)]

/-- The commands on jobs, by the word that follows `jobs`. -/
def jobReaders : List (String × (List String → Option (GlobalOptions × Command))) :=
  [("create", readCreateJob?), ("list", readListJobs?), ("show", readOnId .showJob),
    ("status", readMoveJob?), ("results", readSetResults?), ("clear", readClearJobs?)]

/-- Read options up to a word, and the rest of the line as that word says. -/
def readGroup (readers : List (String × (List String → Option (GlobalOptions × Command))))
    (line : List String) : Option (GlobalOptions × Command) := do
  let arguments ← Arguments.read? GlobalOptions.rules true line
  let outer ← GlobalOptions.ofArguments? arguments
  match arguments.operands with
  | [] => none
  | word :: rest =>
    let read ← readers.lookup word
    let (inner, command) ← read rest
    return (outer.followedBy inner, command)

/-- The commands by their first word. -/
def readers : List (String × (List String → Option (GlobalOptions × Command))) :=
  [("init", readInit?), ("object", readGroup objectReaders), ("map", readMap?),
    ("unmap", readOnId .unmap), ("edges", readEdges?), ("related", readRelated?),
    ("neighbors", readNeighbors?), ("check", readCheck?), ("jobs", readGroup jobReaders)]

end Command

namespace Invocation

/-- The options that stand before the first word of a command only. -/
def leadingRules : List OptionRule := [.flag "--external", .flag "--verbose", .flag "-v"]

/-- More log output changes no result; the two names of the flag are one flag. -/
def verbose? (arguments : Arguments) : Option Bool :=
  match arguments.given "--verbose" ++ arguments.given "-v" with
  | [] => some false
  | [_] => some true
  | _ => none

/-- Read a command line; one that asks for nothing known is refused. -/
def read? (line : List String) : Option Invocation := do
  let arguments ← Arguments.read? (leadingRules ++ GlobalOptions.rules) true line
  let outer ← GlobalOptions.ofArguments? arguments
  let external ← arguments.flag? "--external"
  let _ ← verbose? arguments
  match arguments.operands with
  | [] => none
  | word :: rest =>
    let read ← Command.readers.lookup word
    let (inner, command) ← read rest
    return { options := outer.followedBy inner, external, command }

end Invocation

end RecordGraph
