import RecordGraph.Graph.Query
import RecordGraph.Proofs.GraphRuns

/-!
# What a query for related edges answers

A query is put to the table of edges as a condition whose parameters are numbered through both
directions.  A comparison finds the value that it was made for whatever is numbered after it, so the
condition holds of an edge exactly when the edge fits the two sides, one way round or the other.
Everything that is asked of a query is read off that: what it lists, counts and finds first, and
that exchanging its sides makes no difference.
-/

namespace RecordGraph

/-! ## Conditions -/

namespace Conjunction

variable {conjunction : Conjunction} {edge : Relationship} {more : List Parameter}
  {column : EndColumn}

/-- The comparisons hold of an edge when `more` parameters are numbered after theirs. -/
def Holds (conjunction : Conjunction) (more : List Parameter) (edge : Relationship) : Prop :=
  ∀ comparison ∈ conjunction.comparisons,
    comparison.holds (conjunction.parameters ++ more) edge = true

/-- A comparison finds the parameter that was numbered for it. -/
theorem holds_compare {value : Parameter} :
    (conjunction.compare column value).Holds more edge ↔
      conjunction.Holds (value :: more) edge ∧ edge.value column = value := by
  have hfound : Comparison.parameter? (conjunction.parameters ++ value :: more)
      (conjunction.parameters.length + 1) = some value := by
    simp [Comparison.parameter?]
  have hlast : Comparison.holds (conjunction.parameters ++ value :: more) edge
      ⟨column, conjunction.parameters.length + 1⟩ = true ↔ edge.value column = value := by
    rw [Comparison.holds, hfound, beq_iff_eq, Option.some.injEq, eq_comm]
  simp only [Holds, compare, List.append_assoc, List.singleton_append, List.mem_append,
    List.mem_singleton, or_imp, forall_and, forall_eq, hlast]

theorem holds_compareGiven {given : Option Parameter} :
    (conjunction.compareGiven column given).Holds more edge ↔
      conjunction.Holds (given.toList ++ more) edge ∧
        ∀ value, given = some value → edge.value column = value := by
  cases given with
  | none => simp [compareGiven]
  | some value => simp [compareGiven, holds_compare]

theorem parameters_compareGiven {given : Option Parameter} :
    (conjunction.compareGiven column given).parameters =
      conjunction.parameters ++ given.toList := by
  cases given with
  | none => simp [compareGiven]
  | some value => rfl

end Conjunction

/-- The record is of the type of a side, and the one with its number if it fixes one. -/
def EndPattern.Fits (pattern : EndPattern) (stub : Stub) : Prop :=
  stub.type = pattern.type ∧ ∀ id, pattern.id = some id → stub.id = id

/-- Where a number is fixed, a side fits one record only. -/
theorem EndPattern.fits_some_iff {record stub : Stub} :
    EndPattern.Fits ⟨record.type, some record.id⟩ stub ↔ stub = record := by
  obtain ⟨type, id⟩ := record
  obtain ⟨otherType, otherId⟩ := stub
  simp [Fits]

/-- The edge leads from one of two sides to the other, in either direction. -/
def Relationship.Relates (edge : Relationship) (first second : EndPattern) : Prop :=
  (first.Fits edge.source ∧ second.Fits edge.destination) ∨
    (second.Fits edge.source ∧ first.Fits edge.destination)

theorem Relationship.relates_comm {edge : Relationship} {first second : EndPattern} :
    edge.Relates first second ↔ edge.Relates second first :=
  or_comm

namespace RelatedQuery

variable {query : RelatedQuery} {first second : EndPattern} {edge : Relationship} {store : Store}
  {type1 type2 : Option String} {id1 id2 : Option Int} {strict : Bool}

/-- The comparisons for one direction hold of the edges that lead from the one side to the other,
whatever parameters there were before and come after. -/
theorem holds_direction (parameters more : List Parameter) (source destination : EndPattern)
    (edge : Relationship) :
    (direction parameters source destination).Holds more edge ↔
      source.Fits edge.source ∧ destination.Fits edge.destination := by
  have hnone : ∀ added, ({ parameters } : Conjunction).Holds added edge := by
    simp [Conjunction.Holds]
  simp only [direction, Conjunction.holds_compareGiven, Conjunction.holds_compare, hnone,
    Relationship.value, Relationship.endStub, Parameter.text.injEq, Option.map_eq_some_iff,
    forall_exists_index, and_imp, forall_apply_eq_imp_iff₂, Parameter.integer.injEq, true_and,
    EndPattern.Fits]
  exact ⟨fun ⟨⟨⟨hsource, hdestination⟩, hfrom⟩, hto⟩ => ⟨⟨hsource, hfrom⟩, hdestination, hto⟩,
    fun ⟨⟨hsource, hfrom⟩, hdestination, hto⟩ => ⟨⟨⟨hsource, hdestination⟩, hfrom⟩, hto⟩⟩

/-- A direction adds its parameters after those that were there. -/
theorem parameters_direction (parameters : List Parameter) (source destination : EndPattern) :
    ∃ added, (direction parameters source destination).parameters = parameters ++ added := by
  simp only [direction, Conjunction.parameters_compareGiven, Conjunction.compare,
    List.append_assoc]
  exact ⟨_, rfl⟩

/-- Whether the condition of a query holds of an edge. -/
def wants (query : RelatedQuery) (edge : Relationship) : Bool :=
  query.condition?.any (fun condition => condition.holds edge)

/-- The parameters of the one direction do not get in the way of the other. -/
theorem wants_between_iff :
    (between first second).wants edge = true ↔ edge.Relates first second := by
  obtain ⟨added, hadded⟩ := parameters_direction (direction [] first second).parameters second first
  have hforward := holds_direction [] added first second edge
  have hreverse := holds_direction (direction [] first second).parameters [] second first edge
  rw [Conjunction.Holds, ← hadded] at hforward
  rw [Conjunction.Holds, List.append_nil] at hreverse
  simp only [wants, condition?, Option.any_some, Condition.holds, Bool.or_eq_true,
    List.all_eq_true, hforward, hreverse, Relationship.Relates]

theorem wants_ofParts_iff :
    (ofParts type1 id1 type2 id2 strict).wants edge = true ↔
      (strict = true → id1.isSome = true ∧ id2.isSome = true) ∧
        ∃ first second, type1 = some first ∧ type2 = some second ∧
          edge.Relates ⟨first, id1⟩ ⟨second, id2⟩ := by
  have hnothing : nothing.wants edge = false := rfl
  cases type1 with
  | none => simp [ofParts, hnothing]
  | some first =>
    cases type2 with
    | none => simp [ofParts, hnothing]
    | some second =>
      cases strict with
      | false => simp [ofParts, wants_between_iff]
      | true => cases id1 <;> cases id2 <;> simp [ofParts, hnothing, wants_between_iff]

theorem wants_of_no_condition (hcondition : query.condition? = none) :
    query.wants = fun _ => false := by
  funext edge
  rw [wants, hcondition, Option.any_none]

theorem wants_of_condition {condition : Condition}
    (hcondition : query.condition? = some condition) : query.wants = condition.holds := by
  funext edge
  rw [wants, hcondition, Option.any_some]

theorem all_eq_filter : query.all store = store.relationships.filter query.wants := by
  rw [all, fetch]
  cases hcondition : query.condition? with
  | none => rw [wants_of_no_condition hcondition, List.filter_false]
  | some condition => rw [wants_of_condition hcondition]

theorem count_eq_length : query.count store = (query.all store).length := by
  rw [count, all, fetch]
  cases query.condition? with
  | none => rfl
  | some condition => exact List.countP_eq_length_filter

/-- To ask for one edge leaves out all but the oldest. -/
theorem first?_eq_head? : query.first? store = (query.all store).head? := by
  rw [first?, all, fetch, fetch]
  cases query.condition? with
  | none => rfl
  | some condition => rw [List.head?_take, if_neg Nat.one_ne_zero]

/-- Exchanging the sides makes no difference to what is wanted. -/
theorem wants_exchanged :
    (ofParts type2 id2 type1 id1 strict).wants = (ofParts type1 id1 type2 id2 strict).wants := by
  funext edge
  rw [Bool.eq_iff_iff, wants_ofParts_iff, wants_ofParts_iff, and_comm (a := id2.isSome = true)]
  refine and_congr_right fun _ => ?_
  constructor
  · rintro ⟨second, first, hsecond, hfirst, hrelates⟩
    exact ⟨first, second, hfirst, hsecond, Relationship.relates_comm.1 hrelates⟩
  · rintro ⟨first, second, hfirst, hsecond, hrelates⟩
    exact ⟨second, first, hsecond, hfirst, Relationship.relates_comm.1 hrelates⟩

theorem all_exchanged :
    (ofParts type2 id2 type1 id1 strict).all store =
      (ofParts type1 id1 type2 id2 strict).all store := by
  rw [all_eq_filter, all_eq_filter, wants_exchanged]

/-- The query for two records wants the edges that join them. -/
theorem wants_ofStubs_iff {left right : Stub} :
    (ofStubs left right).wants edge = true ↔ edge.Joins left right := by
  have hquery : ofStubs left right =
      between ⟨left.type, some left.id⟩ ⟨right.type, some right.id⟩ := rfl
  simp only [hquery, wants_between_iff, Relationship.Relates, EndPattern.fits_some_iff,
    Relationship.Joins]

end RelatedQuery

/-! ## Edges in order -/

/-- In the order of their numbers, the first of some rows is the one with the least number. -/
theorem head?_eq_some_iff_of_ordered {α : Type} {number : α → Int} {rows : List α}
    (hordered : rows.Pairwise fun left right => number left < number right) {row : α} :
    rows.head? = some row ↔ row ∈ rows ∧ ∀ other ∈ rows, number row ≤ number other := by
  cases rows with
  | nil => simp
  | cons head tail =>
    obtain ⟨hhead, _⟩ := List.pairwise_cons.1 hordered
    rw [List.head?_cons, Option.some.injEq]
    constructor
    · rintro rfl
      refine ⟨List.mem_cons_self, List.forall_mem_cons.2 ⟨Int.le_refl _, ?_⟩⟩
      exact fun other hother => Int.le_of_lt (hhead other hother)
    · rintro ⟨hrow, hleast⟩
      rcases List.mem_cons.1 hrow with rfl | hlater
      · rfl
      · exact absurd (hhead row hlater) (Int.not_lt.2 (hleast head List.mem_cons_self))

namespace Store

/-- Edges stand in the order of their numbers, and each has a number of its own. -/
def EdgesOrdered (store : Store) : Prop :=
  store.relationships.Pairwise fun left right => left.id < right.id

namespace EdgesOrdered

variable {store after : Store}

theorem empty : EdgesOrdered Store.empty := List.Pairwise.nil

theorem insertRelationship {row : NewEdge} {edge : Relationship} (hordered : store.EdgesOrdered)
    (hstored : store.insertRelationship row = .ok (edge, after)) : after.EdgesOrdered := by
  obtain ⟨_, _, _, _, _, _, _, rfl⟩ := insertRelationship_eq_ok_iff.1 hstored
  have hrows : store.relationships.Pairwise fun left right => left.before right = true :=
    hordered.imp decide_eq_true
  have hinserted : (Ordered.insert Relationship.before edge store.relationships).Pairwise
      fun left right => left.before right = true :=
    Ordered.pairwise_insert Relationship.before_trans hrows
  exact hinserted.imp of_decide_eq_true

theorem stable : Stable EdgesOrdered where
  record hordered _ hstored := by
    obtain ⟨_, _, rfl⟩ := insertObject_eq_ok_iff.1 hstored
    exact hordered
  run hordered hstored := by
    obtain ⟨_, _, _, _, rfl⟩ := insertAutomapping_eq_ok_iff.1 hstored
    exact hordered
  edge hordered _ hstored := hordered.insertRelationship hstored
  edgesGone _ _ hordered := List.pairwise_map.2 (hordered.filter _)
  recordGone _ _ hordered _ := hordered

/-- After any calls on a fresh store the edges are in order. -/
theorem run_empty (calls : List GraphCall) : (GraphCall.run calls {}).store.EdgesOrdered :=
  stable.run_empty empty calls

end EdgesOrdered

/-- The edge that is found between two records is the oldest of all that join them. -/
theorem EdgesOrdered.findRelated?_eq_some_iff {store : Store} (hordered : store.EdgesOrdered)
    {left right : Stub} {edge : Relationship} :
    store.findRelated? left right = some edge ↔
      edge ∈ store.relationships ∧ edge.Joins left right ∧
        ∀ other ∈ store.relationships, other.Joins left right → edge.id ≤ other.id := by
  rw [findRelated?, RelatedQuery.first?_eq_head?, RelatedQuery.all_eq_filter,
    head?_eq_some_iff_of_ordered (hordered.filter _)]
  simp only [List.mem_filter, RelatedQuery.wants_ofStubs_iff, and_imp, and_assoc]

end Store

namespace RelatedQuery

/-- Whatever edges are stored, and whichever parts of a query are given, the query lists in the
order of their numbers the edges that lead from the one side to the other or back, where a side
without number stands for all records of its type.  Without one of the types, and when it is strict
without one of the numbers, there are none.  It counts the edges that it lists, and finds the first
of them, and exchanging its two sides changes nothing.  So the edge between two records is the same
from both sides, and it is the oldest that joins them. -/
theorem answers_both_directions (store : Store) (hordered : store.EdgesOrdered)
    (type1 : Option String) (id1 : Option Int) (type2 : Option String) (id2 : Option Int)
    (strict : Bool) :
    let query := ofParts type1 id1 type2 id2 strict
    let exchanged := ofParts type2 id2 type1 id1 strict
    (∀ edge, edge ∈ query.all store ↔
        edge ∈ store.relationships ∧
          (strict = true → id1.isSome = true ∧ id2.isSome = true) ∧
          ∃ first second, type1 = some first ∧ type2 = some second ∧
            edge.Relates ⟨first, id1⟩ ⟨second, id2⟩) ∧
      ((query.all store).Pairwise fun left right => left.id < right.id) ∧
      query.count store = (query.all store).length ∧
      query.first? store = (query.all store).head? ∧
      exchanged.all store = query.all store ∧
      exchanged.count store = query.count store ∧
      exchanged.first? store = query.first? store ∧
      ∀ left right, store.findRelated? right left = store.findRelated? left right ∧
        ∀ edge, store.findRelated? left right = some edge ↔
          edge ∈ store.relationships ∧ edge.Joins left right ∧
            ∀ other ∈ store.relationships, other.Joins left right → edge.id ≤ other.id := by
  intro query exchanged
  refine ⟨fun edge => ?_, ?_, count_eq_length, first?_eq_head?, all_exchanged, ?_, ?_, ?_⟩
  · rw [all_eq_filter, List.mem_filter, wants_ofParts_iff]
  · rw [all_eq_filter]
    exact hordered.filter _
  · rw [count_eq_length, count_eq_length, all_exchanged]
  · rw [first?_eq_head?, first?_eq_head?, all_exchanged]
  · intro left right
    refine ⟨?_, fun edge => hordered.findRelated?_eq_some_iff⟩
    rw [Store.findRelated?, Store.findRelated?, first?_eq_head?, first?_eq_head?, ofStubs, ofStubs,
      all_exchanged]

/-- A control is joined with one objective in both directions, with another one from there, and with
itself. -/
def queriedEdges : Store where
  relationships :=
    [.bare 2 ⟨"Objective", 4⟩ ⟨"Control", 1⟩, .bare 3 ⟨"Control", 1⟩ ⟨"Objective", 3⟩,
      .bare 5 ⟨"Control", 1⟩ ⟨"Control", 1⟩, .bare 6 ⟨"Objective", 3⟩ ⟨"Control", 1⟩]

/-- The query for the objectives of the control lists three edges, whichever side comes first, and
a strict one lists none.  Between the control and the first objective the older edge is found from
both sides. -/
theorem objectives_of_control_queried :
    queriedEdges.EdgesOrdered ∧
      ((ofParts (some "Control") (some 1) (some "Objective") none false).all queriedEdges).map
        Relationship.id = [2, 3, 6] ∧
      (ofParts (some "Objective") none (some "Control") (some 1) false).all queriedEdges =
        (ofParts (some "Control") (some 1) (some "Objective") none false).all queriedEdges ∧
      .bare 2 ⟨"Objective", 4⟩ ⟨"Control", 1⟩ ∉
        (ofParts (some "Control") (some 1) (some "Objective") none true).all queriedEdges ∧
      queriedEdges.findRelated? ⟨"Objective", 3⟩ ⟨"Control", 1⟩ =
        some (.bare 3 ⟨"Control", 1⟩ ⟨"Objective", 3⟩) := by
  have hordered : queriedEdges.EdgesOrdered := by
    rw [Store.EdgesOrdered]
    decide
  obtain ⟨_, _, _, _, hexchanged, _⟩ := answers_both_directions queriedEdges hordered
    (some "Control") (some 1) (some "Objective") none false
  obtain ⟨hstrict, _, _, _, _, _, _, hfound⟩ := answers_both_directions queriedEdges hordered
    (some "Control") (some 1) (some "Objective") none true
  refine ⟨hordered, by decide, hexchanged, ?_, ?_⟩
  · rw [hstrict]
    simp
  · exact ((hfound ⟨"Objective", 3⟩ ⟨"Control", 1⟩).2 _).2 (by decide)

end RelatedQuery

end RecordGraph
