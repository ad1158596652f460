import RecordGraph.Graph.Condition

/-!
# Edges between two patterns

A query asks for the edges between records of two types, in either direction.  Each side may also
fix the number of the record.  What is asked of the table of edges is a condition with a comparison
for every part that is fixed.
-/

namespace RecordGraph

/-- The records of a type, or the one with a number. -/
structure EndPattern where
  type : String
  id : Option Int
deriving DecidableEq, Repr, Inhabited

inductive RelatedQuery where
  /-- No edge. -/
  | nothing
  /-- The edges that join the two patterns, either way round. -/
  | between (first second : EndPattern)
deriving DecidableEq, Repr

namespace RelatedQuery

/-- The query for two sides given in parts.  Without one of the types it asks for nothing; when
`strict`, also without one of the numbers. -/
def ofParts (type1 : Option String) (id1 : Option Int) (type2 : Option String) (id2 : Option Int)
    (strict : Bool) : RelatedQuery :=
  match type1, type2 with
  | some type1, some type2 =>
    if strict && (id1.isNone || id2.isNone) then .nothing
    else .between ⟨type1, id1⟩ ⟨type2, id2⟩
  | _, _ => .nothing

/-- The query for the edges between two records. -/
def ofStubs (first second : Stub) : RelatedQuery :=
  ofParts (some first.type) (some first.id) (some second.type) (some second.id) false

def isNothing : RelatedQuery → Bool
  | .nothing => true
  | .between _ _ => false

/-- The comparisons for one direction; their parameters come after those that are given. -/
def direction (parameters : List Parameter) (source destination : EndPattern) : Conjunction :=
  let unfixed : Conjunction := { parameters }
  let typed := (unfixed.compare (.type .source) (.text source.type)).compare
    (.type .destination) (.text destination.type)
  (typed.compareGiven (.id .source) (source.id.map .integer)).compareGiven
    (.id .destination) (destination.id.map .integer)

/-- The condition on the edges; nothing is asked of the table where no edge is wanted. -/
def condition? : RelatedQuery → Option Condition
  | .nothing => none
  | .between first second =>
    let forward := direction [] first second
    let reverse := direction forward.parameters second first
    some { forward := forward.comparisons, reverse := reverse.comparisons
           parameters := reverse.parameters }

/-- The edges asked for, oldest first, no more than a limit allows. -/
def fetch (query : RelatedQuery) (store : Store) (limit : Option Nat) : List Relationship :=
  match query.condition? with
  | none => []
  | some condition =>
    let edges := store.relationships.filter condition.holds
    match limit with
    | none => edges
    | some limit => edges.take limit

/-- The edges asked for, oldest first. -/
def all (query : RelatedQuery) (store : Store) : List Relationship := query.fetch store none

/-- The oldest edge asked for. -/
def first? (query : RelatedQuery) (store : Store) : Option Relationship :=
  (query.fetch store (some 1)).head?

def count (query : RelatedQuery) (store : Store) : Nat :=
  match query.condition? with
  | none => 0
  | some condition => store.relationships.countP condition.holds

end RelatedQuery

/-- The oldest edge between two records, in either direction. -/
def Store.findRelated? (store : Store) (first second : Stub) : Option Relationship :=
  (RelatedQuery.ofStubs first second).first? store

end RecordGraph
