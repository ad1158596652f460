import RecordGraph.Graph.Mapping
import RecordGraph.Graph.Query

/-!
# Derived edges

A mapping rule derives an edge from another edge, its parent.  The run of the rule is recorded, and
the derived edge names both the run and the parent.
-/

namespace RecordGraph.Graph

/-- The failure to record a mapping run. -/
def explainRun : RowFailure → GraphError
  | .full => .storage .full
  | .blankType => .storage .blankType
  | .duplicate | .foreignKey => .storage .foreignKey

/-- The row of a run that `parent` sets off. -/
def runRow (actor : Actor) (now : Int) (parent : Relationship) : NewAutomapping :=
  { relationshipId := some parent.id, source := parent.source, destination := parent.destination
    modifiedBy := some actor.userId, createdAt := now }

/-- The edge that a run derives: external where its parent is. -/
def derivedRequest (parent : Relationship) (run : Automapping) (source destination : Object) :
    Request :=
  { source := some source, destination := some destination, external := parent.external
    parentId := some parent.id, automappingId := some run.id }

/-- Record a run that `parent` set off, then make the edge. -/
def createFromParent (registry : TypeRegistry) (actor : Actor) (now : Int) (parent : Relationship)
    (source destination : Object) : Call Relationship := do
  let run ← Call.insertRow (fun store => store.insertAutomapping (runRow actor now parent))
    explainRun
  create registry actor now (derivedRequest parent run source destination)

/-- Derive an edge between two records from `parent`.  Records that are related already, in either
direction, get no further edge. -/
def createDerived (registry : TypeRegistry) (actor : Actor) (now : Int) (parent : Relationship)
    (source destination : Object) : Call (Option Relationship) :=
  Call.inSavepoint "automapping_create" do
    let existing ← Call.ask (fun store => store.findRelated? source.stub destination.stub)
    match existing with
    | some _ => return none
    | none =>
      let edge ← createFromParent registry actor now parent source destination
      return some edge

end RecordGraph.Graph
