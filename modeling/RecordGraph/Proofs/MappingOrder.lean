import RecordGraph.Proofs.NextNumbers
import RecordGraph.Proofs.OpenTransactions

/-!
# Requests to map records, in any order

The checks of a request read the registry and the records, and a request to map two records changes
neither.  Requests meet only where they ask for the same pair of records: the first of them that
passes its checks makes the edge, and the others are refused.  So the pairs that are mapped in the
end are those of before and those of the requests that pass their checks, in whatever order the
requests come.
-/

namespace RecordGraph

/-- The records that the edge leads from and to. -/
def Relationship.pair (edge : Relationship) : Stub × Stub := (edge.source, edge.destination)

/-- The ordered pairs of records that are mapped. -/
def Store.pairs (store : Store) : List (Stub × Stub) := store.relationships.map Relationship.pair

theorem Store.hasPair_eq_true_iff {store : Store} {source destination : Stub} :
    store.hasPair source destination = true ↔ (source, destination) ∈ store.pairs := by
  simp [hasPair, pairs, Relationship.pair]

/-- What the checks of a request read are the records. -/
theorem Graph.checkRequest_congr {registry : TypeRegistry} {actor : Actor} {request : Request}
    {store other : Store} (hobjects : other.objects = store.objects) :
    checkRequest registry actor request other = checkRequest registry actor request store := by
  obtain ⟨objects⟩ := store
  obtain ⟨_⟩ := other
  cases hobjects
  rfl

/-- A new pair finds a place as long as there are numbers. -/
theorem Store.Numbered.exists_insertRelationship {store : Store} {row : NewEdge}
    (hnumbered : store.Numbered) (hid : row.id = none) (hparent : row.parentId = none)
    (hrun : row.automappingId = none) (hnumber : store.lastRelationshipId < Decimal.maxId)
    (hpair : store.hasPair row.source row.destination = false) :
    ∃ edge after, store.insertRelationship row = .ok (edge, after) := by
  have hrefers : store.RefersToStored row.parentId row.automappingId := by
    rw [hparent, hrun]
    exact ⟨nofun, nofun⟩
  rw [hnumbered.insertRelationship_next hnumber hid, hpair, if_neg Bool.false_ne_true,
    if_pos hrefers]
  exact ⟨_, _, rfl⟩

/-- A request to map two records: who makes it and when, the records as the caller holds them, and
whether the edge is to be external.  The edge is to have neither a parent nor a mapping run. -/
structure MappingRequest where
  actor : Actor
  now : Int
  source : Option Object
  destination : Option Object
  external : Bool

namespace MappingRequest

def request (mapping : MappingRequest) : Graph.Request :=
  { source := mapping.source, destination := mapping.destination, external := mapping.external }

def perform (registry : TypeRegistry) (mapping : MappingRequest) : Call Relationship :=
  Graph.create registry mapping.actor mapping.now mapping.request

/-- The request is for the pair, and it passes the checks of its ends, of the policy and of
snapshots. -/
def PassesFor (registry : TypeRegistry) (store : Store) (mapping : MappingRequest)
    (pair : Stub × Stub) : Prop :=
  ∃ source destination,
    Graph.checkRequest registry mapping.actor mapping.request store = .ok (source, destination) ∧
      (source.stub, destination.stub) = pair

/-- The connection after some requests, made one after the other whether they succeed or not. -/
def run (registry : TypeRegistry) (mappings : List MappingRequest) (connection : Connection) :
    Connection :=
  mappings.foldl (fun connection mapping => (mapping.perform registry connection).connection)
    connection

/-- None of the requests finds that the numbers have run out. -/
def FindNumbers (registry : TypeRegistry) : List MappingRequest → Connection → Prop
  | [], _ => True
  | mapping :: rest, connection =>
    (mapping.perform registry connection).result ≠ .error (.storage .full) ∧
      FindNumbers registry rest (mapping.perform registry connection).connection

variable {registry : TypeRegistry} {mapping : MappingRequest} {before middle after : Store}

theorem passesFor_congr {pair : Stub × Stub} (hobjects : after.objects = before.objects) :
    mapping.PassesFor registry after pair ↔ mapping.PassesFor registry before pair := by
  rw [PassesFor, PassesFor, Graph.checkRequest_congr hobjects]

/-- A request that passes its checks is for one pair. -/
theorem passesFor_iff {source destination : Object} {pair : Stub × Stub}
    (hcheck : Graph.checkRequest registry mapping.actor mapping.request before =
      .ok (source, destination)) :
    mapping.PassesFor registry before pair ↔ pair = (source.stub, destination.stub) := by
  constructor
  · intro hpasses
    obtain ⟨_, _, hends, rfl⟩ := hpasses
    rw [hcheck] at hends
    cases hends
    rfl
  · intro hpair
    exact ⟨source, destination, hcheck, hpair.symm⟩

/-! ## What requests do -/

/-- What some requests make of a store: the records are what they were, no more numbers are used
than there are requests, and the pairs are those of before and those of the requests that pass. -/
structure Maps (registry : TypeRegistry) (mappings : List MappingRequest) (before after : Store) :
    Prop where
  objects : after.objects = before.objects
  numbered : after.Numbered
  last : after.lastRelationshipId ≤ before.lastRelationshipId + mappings.length
  pairs : ∀ pair, pair ∈ after.pairs ↔
    pair ∈ before.pairs ∨ ∃ mapping ∈ mappings, mapping.PassesFor registry before pair

theorem Maps.nil (hnumbered : before.Numbered) : Maps registry [] before before where
  objects := rfl
  numbered := hnumbered
  last := by simp
  pairs := by simp

theorem Maps.trans {first second : List MappingRequest} (hfirst : Maps registry first before middle)
    (hsecond : Maps registry second middle after) :
    Maps registry (first ++ second) before after where
  objects := hsecond.objects.trans hfirst.objects
  numbered := hsecond.numbered
  last := by
    have hfirstLast := hfirst.last
    have hsecondLast := hsecond.last
    rw [List.length_append]
    omega
  pairs pair := by
    simp only [hsecond.pairs, hfirst.pairs, passesFor_congr hfirst.objects, or_assoc,
      List.mem_append, or_and_right, exists_or]

/-- A request that succeeds adds its pair. -/
theorem maps_of_created {edge : Relationship} (hnumbered : before.Numbered)
    (hcreated : Transition.create registry mapping.actor mapping.now mapping.request before =
      .ok (edge, after)) : Maps registry [mapping] before after := by
  obtain ⟨source, destination, hcheck, hrow⟩ := Transition.create_eq_ok_iff.1 hcreated
  have hperm := Store.relationships_insert_perm (Store.fresh_of_insertRelationship hrow)
  obtain ⟨hid, hlast⟩ := Store.number_of_insertRelationship hrow
  have hafter := hnumbered.insertRelationship hrow
  obtain ⟨_, _, _, _, _, _, hedge, rfl⟩ := Store.insertRelationship_eq_ok_iff.1 hrow
  have hpair : edge.pair = (source.stub, destination.stub) := by
    rw [hedge]
    rfl
  refine ⟨rfl, hafter, ?_, ?_⟩
  · rw [hlast, hid]
    simp
  · intro pair
    rw [Store.pairs, (hperm.map Relationship.pair).mem_iff, List.map_cons, List.mem_cons, hpair,
      or_comm]
    simp only [List.mem_singleton, exists_eq_left, passesFor_iff hcheck]
    rfl

/-- A request that passes its checks and is refused for another reason than the lack of numbers is
for a pair that is mapped already. -/
theorem pair_mem_of_refused {error : GraphError} {pair : Stub × Stub}
    (hnumbered : before.Numbered)
    (hrefused : Transition.create registry mapping.actor mapping.now mapping.request before =
      .error error) (hother : error ≠ .storage .full)
    (hpasses : mapping.PassesFor registry before pair) : pair ∈ before.pairs := by
  obtain ⟨source, destination, hcheck, rfl⟩ := hpasses
  have hnumber : before.lastRelationshipId < Decimal.maxId := by
    by_contra hgone
    have hfull : Transition.create registry mapping.actor mapping.now mapping.request before =
        .error (.storage .full) :=
      Transition.create_eq_full_iff.2 ⟨⟨_, hcheck⟩, Int.not_lt.1 hgone⟩
    rw [hrefused] at hfull
    exact hother (Except.error.inj hfull)
  by_contra hnew
  have hpair : before.hasPair source.stub destination.stub = false :=
    Bool.eq_false_iff.2 (mt Store.hasPair_eq_true_iff.1 hnew)
  have hplace : ∃ edge after, before.insertRelationship
      (mapping.request.row mapping.actor mapping.now source.stub destination.stub) =
        .ok (edge, after) :=
    hnumbered.exists_insertRelationship rfl rfl rfl hnumber hpair
  obtain ⟨edge, after, hrow⟩ := hplace
  have hcreated := Transition.create_eq_ok_iff.2 ⟨source, destination, hcheck, hrow⟩
  rw [hrefused] at hcreated
  cases hcreated

theorem maps_of_refused {error : GraphError} (hnumbered : before.Numbered)
    (hrefused : Transition.create registry mapping.actor mapping.now mapping.request before =
      .error error) (hother : error ≠ .storage .full) : Maps registry [mapping] before before where
  objects := rfl
  numbered := hnumbered
  last := by
    rw [List.length_singleton]
    omega
  pairs pair := by
    simp only [List.mem_singleton, exists_eq_left]
    exact (or_iff_left_of_imp (pair_mem_of_refused hnumbered hrefused hother)).symm

theorem maps_perform {connection : Connection} (hnumbered : connection.store.Numbered)
    (hnumber : (mapping.perform registry connection).result ≠ .error (.storage .full)) :
    Maps registry [mapping] connection.store
      (mapping.perform registry connection).connection.store := by
  obtain ⟨hresult, hconnection⟩ := Graph.realizes_create registry mapping.actor mapping.now
    mapping.request connection
  rw [perform, hresult] at hnumber
  rw [perform, hconnection]
  cases hcreate : Transition.create registry mapping.actor mapping.now mapping.request
      connection.store with
  | ok outcome => exact maps_of_created hnumbered hcreate
  | error error =>
    have hother : error ≠ .storage .full := by
      rintro rfl
      rw [hcreate] at hnumber
      exact hnumber rfl
    rw [Connection.settle, if_neg hother]
    exact maps_of_refused hnumbered hcreate hother

theorem maps_run (mappings : List MappingRequest) {connection : Connection}
    (hnumbered : connection.store.Numbered) (hnumbers : FindNumbers registry mappings connection) :
    Maps registry mappings connection.store (run registry mappings connection).store := by
  induction mappings generalizing connection with
  | nil => exact .nil hnumbered
  | cons mapping rest ih =>
    obtain ⟨hnumber, hrest⟩ := hnumbers
    have hfirst := maps_perform hnumbered hnumber
    exact hfirst.trans (ih hfirst.numbered hrest)

/-- Where there are as many numbers left as there are requests, none of them finds that they have
run out. -/
theorem findNumbers_of_room (mappings : List MappingRequest) {connection : Connection}
    (hnumbered : connection.store.Numbered)
    (hroom : connection.store.lastRelationshipId + mappings.length ≤ Decimal.maxId) :
    FindNumbers registry mappings connection := by
  induction mappings generalizing connection with
  | nil => trivial
  | cons mapping rest ih =>
    rw [List.length_cons] at hroom
    have hnumber : (mapping.perform registry connection).result ≠ .error (.storage .full) := by
      rw [perform, (Graph.realizes_create registry mapping.actor mapping.now mapping.request
        connection).1]
      intro hfull
      cases hcreate : Transition.create registry mapping.actor mapping.now mapping.request
          connection.store with
      | ok outcome =>
        rw [hcreate] at hfull
        cases hfull
      | error error =>
        rw [hcreate] at hfull
        cases hfull
        have hgone := (Transition.create_eq_full_iff.1 hcreate).2
        omega
    have hfirst := maps_perform hnumbered hnumber
    refine ⟨hnumber, ih hfirst.numbered ?_⟩
    have hlast := hfirst.last
    rw [List.length_singleton] at hlast
    omega

/-- As long as numbers are left, the pairs that are mapped after some requests are those of before
and those of the requests that pass their checks, and the same pairs are mapped when the requests
come in another order. -/
theorem pairs_in_any_order {mappings reordered : List MappingRequest}
    (hperm : mappings.Perm reordered) {connection : Connection}
    (hnumbered : connection.store.Numbered) (hnumbers : FindNumbers registry mappings connection)
    (hreordered : FindNumbers registry reordered connection) (pair : Stub × Stub) :
    (pair ∈ (run registry mappings connection).store.pairs ↔
        pair ∈ connection.store.pairs ∨
          ∃ mapping ∈ mappings, mapping.PassesFor registry connection.store pair) ∧
      (pair ∈ (run registry reordered connection).store.pairs ↔
        pair ∈ (run registry mappings connection).store.pairs) := by
  have hfirst := (maps_run mappings hnumbered hnumbers).pairs pair
  have hsecond := (maps_run reordered hnumbered hreordered).pairs pair
  refine ⟨hfirst, ?_⟩
  rw [hfirst, hsecond]
  simp only [hperm.mem_iff]

/-- A control, an issue and an objective, which is mapped to the issue. -/
def mappedObjective : Connection where
  store :=
    { objects := [Object.draft "Control" 1 "c", Object.draft "Issue" 4 "i",
        Object.draft "Objective" 3 "o"]
      relationships :=
        [{ id := 1, source := ⟨"Objective", 3⟩, destination := ⟨"Issue", 4⟩, parentId := none
           automappingId := none, external := false, modifiedBy := none, createdAt := 0
           updatedAt := 0 }]
      lastRelationshipId := 1 }

/-- Two users ask for one pair, one asks for a pair that is mapped, and one for a risk that is not
stored. -/
def competingRequests : List MappingRequest :=
  let control := Object.draft "Control" 1 "c"
  let issue := Object.draft "Issue" 4 "i"
  let objective := Object.draft "Objective" 3 "o"
  let risk := Object.draft "Risk" 9 "r"
  [⟨⟨1, false⟩, 0, some control, some objective, false⟩,
    ⟨⟨1, false⟩, 0, some objective, some issue, false⟩,
    ⟨⟨2, true⟩, 0, some issue, some risk, true⟩,
    ⟨⟨2, true⟩, 0, some control, some objective, true⟩]

/-- The last request comes first when the requests are reversed, and the pairs are the same. -/
theorem competing_requests_in_reverse :
    competingRequests.Perm competingRequests.reverse ∧ mappedObjective.store.Numbered ∧
      FindNumbers .builtin competingRequests mappedObjective ∧
      FindNumbers .builtin competingRequests.reverse mappedObjective ∧
      (run .builtin competingRequests mappedObjective).store.pairs =
        [(⟨"Objective", 3⟩, ⟨"Issue", 4⟩), (⟨"Control", 1⟩, ⟨"Objective", 3⟩)] ∧
      ∀ pair, pair ∈ (run .builtin competingRequests.reverse mappedObjective).store.pairs ↔
        pair ∈ (run .builtin competingRequests mappedObjective).store.pairs := by
  have hperm : competingRequests.Perm competingRequests.reverse :=
    (List.reverse_perm competingRequests).symm
  have hnumbered : mappedObjective.store.Numbered := ⟨by decide, by decide, by decide⟩
  have hnumbers : FindNumbers .builtin competingRequests mappedObjective :=
    findNumbers_of_room competingRequests hnumbered (by decide)
  have hreversed : FindNumbers .builtin competingRequests.reverse mappedObjective :=
    findNumbers_of_room competingRequests.reverse hnumbered (by decide)
  exact ⟨hperm, hnumbered, hnumbers, hreversed, by decide +kernel, fun pair =>
    (pairs_in_any_order hperm hnumbered hnumbers hreversed pair).2⟩

end MappingRequest

end RecordGraph
