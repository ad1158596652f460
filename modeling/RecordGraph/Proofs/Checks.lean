import RecordGraph.Graph.Derivation
import RecordGraph.Graph.Records
import RecordGraph.Proofs.Transition

/-!
# What the checks let through

An operation on the graph checks its request before it writes a row.  Here it is said of every
check what holds when it passes, and that no check reports that the numbers have run out, which
only a row that is to be stored can find out.
-/

namespace RecordGraph.Graph

/-! ## Passing -/

theorem checkOrigin_eq_ok_iff {store : Store} {object : Object} :
    checkOrigin store object = .ok () ↔
      (object.isSnapshot = false ∧ object.origin = none) ∨
        ∃ origin, object.isSnapshot = true ∧ object.origin = some origin ∧
          store.hasObject origin = true := by
  rw [checkOrigin]
  cases object.origin with
  | none => cases object.isSnapshot <;> simp
  | some origin => cases object.isSnapshot <;> simp

theorem checkRecord_eq_ok_iff {registry : TypeRegistry} {object : Object} {store : Store} :
    checkRecord registry object store = .ok () ↔
      (∃ nodeType, registry.get? object.type = some nodeType) ∧
        checkOrigin store object = .ok () := by
  rw [checkRecord]
  cases registry.get? object.type with
  | none => simp
  | some nodeType => simp

theorem checkEnd_eq_ok_iff {registry : TypeRegistry} {store : Store} {edgeEnd : EdgeEnd}
    {given : Option Object} {object : Object} :
    checkEnd registry store edgeEnd given = .ok object ↔
      given = some object ∧ registry.isRelatable object.type = true ∧
        store.hasObject object.stub = true := by
  cases given with
  | none => simp [checkEnd]
  | some other =>
    simp only [checkEnd]
    constructor
    · intro hpassed
      split at hpassed
      · next hrelatable =>
        split at hpassed
        · next hstored =>
          cases hpassed
          exact ⟨rfl, hrelatable, hstored⟩
        · cases hpassed
      · cases hpassed
    · intro hend
      obtain ⟨hgiven, hrelatable, hstored⟩ := hend
      cases hgiven
      simp [hrelatable, hstored]

theorem checkPair_eq_ok_iff {registry : TypeRegistry} {actor : Actor}
    {source destination : String} :
    checkPair registry actor source destination = .ok () ↔
      Policy.violation? registry.scopingNames actor.external source destination = none := by
  rw [checkPair]
  cases Policy.violation? registry.scopingNames actor.external source destination with
  | none => simp
  | some violation => simp

/-- A snapshot passes when its stored origin is another record than the one at the other end. -/
theorem checkSnapshot_eq_ok_iff {store : Store} {source destination object other : Object} :
    checkSnapshot store source destination object other = .ok () ↔
      (object.isSnapshot = true → ∃ origin,
        (store.object? object.stub).bind Object.origin = some origin ∧
          origin ≠ other.stub) := by
  rw [checkSnapshot]
  cases object.isSnapshot with
  | false => simp
  | true =>
    cases (store.object? object.stub).bind Object.origin with
    | none => simp
    | some origin =>
      by_cases hother : origin = other.stub
      · simp [hother]
      · simp [hother]

/-- What holds of the two records that a request joins, once it has passed. -/
structure Joinable (registry : TypeRegistry) (actor : Actor) (store : Store)
    (source destination : Object) : Prop where
  sourceRelatable : registry.isRelatable source.type = true
  sourceStored : store.hasObject source.stub = true
  destinationRelatable : registry.isRelatable destination.type = true
  destinationStored : store.hasObject destination.stub = true
  allowed : Policy.violation? registry.scopingNames actor.external source.type
    destination.type = none
  sourceApart : checkSnapshot store source destination source destination = .ok ()
  destinationApart : checkSnapshot store source destination destination source = .ok ()

theorem checkRequest_eq_ok_iff {registry : TypeRegistry} {actor : Actor} {request : Request}
    {store : Store} {source destination : Object} :
    checkRequest registry actor request store = .ok (source, destination) ↔
      request.source = some source ∧ request.destination = some destination ∧
        Joinable registry actor store source destination := by
  simp only [checkRequest, checkSnapshots, bind_eq_ok_iff, checkEnd_eq_ok_iff]
  constructor
  · intro hpassed
    obtain ⟨_, hsource, _, hdestination, _, hallowed, _, hsnapshots, hends⟩ := hpassed
    cases hends
    obtain ⟨hgivenSource, hsourceType, hsourceStored⟩ := hsource
    obtain ⟨hgivenDestination, hdestinationType, hdestinationStored⟩ := hdestination
    obtain ⟨_, hsourceApart, hdestinationApart⟩ := hsnapshots
    refine ⟨hgivenSource, hgivenDestination, ?_⟩
    exact {
      sourceRelatable := hsourceType
      sourceStored := hsourceStored
      destinationRelatable := hdestinationType
      destinationStored := hdestinationStored
      allowed := checkPair_eq_ok_iff.1 hallowed
      sourceApart := hsourceApart
      destinationApart := hdestinationApart }
  · intro hends
    obtain ⟨hsource, hdestination, hjoinable⟩ := hends
    have hallowed : checkPair registry actor source.type destination.type = .ok () :=
      checkPair_eq_ok_iff.2 hjoinable.allowed
    exact ⟨source, ⟨hsource, hjoinable.sourceRelatable, hjoinable.sourceStored⟩, destination,
      ⟨hdestination, hjoinable.destinationRelatable, hjoinable.destinationStored⟩, (), hallowed,
      (), ⟨(), hjoinable.sourceApart, hjoinable.destinationApart⟩, rfl⟩

theorem checkDelete_eq_ok_iff {registry : TypeRegistry} {actor : Actor} {edge : Relationship} :
    checkDelete registry actor edge = .ok () ↔
      Policy.violation? registry.scopingNames actor.external edge.source.type
          edge.destination.type = none ∧
        (actor.external = true → edge.external = true) := by
  have hguard : (if actor.external && !edge.external then
      (.error (.validation .notExternal) : Except GraphError Unit) else .ok ()) = .ok () ↔
        (actor.external = true → edge.external = true) := by
    cases actor.external <;> cases edge.external <;> simp
  rw [checkDelete, bind_eq_ok_iff, hguard]
  constructor
  · intro hpassed
    obtain ⟨_, hallowed, hexternal⟩ := hpassed
    exact ⟨checkPair_eq_ok_iff.1 hallowed, hexternal⟩
  · intro hparts
    obtain ⟨hallowed, hexternal⟩ := hparts
    exact ⟨(), checkPair_eq_ok_iff.2 hallowed, hexternal⟩

theorem checkDeletes_eq_ok_iff {registry : TypeRegistry} {actor : Actor}
    {edges : List Relationship} :
    checkDeletes registry actor edges = .ok () ↔
      ∀ edge ∈ edges, checkDelete registry actor edge = .ok () := by
  induction edges with
  | nil => simp [checkDeletes]
  | cons edge rest ih =>
    rw [checkDeletes, bind_eq_ok_iff, List.forall_mem_cons, ← ih]
    constructor
    · intro hpassed
      obtain ⟨_, hfirst, hrest⟩ := hpassed
      exact ⟨hfirst, hrest⟩
    · intro hboth
      exact ⟨(), hboth.1, hboth.2⟩

/-! ## Not passing -/

theorem checkOrigin_ne_full (store : Store) (object : Object) :
    checkOrigin store object ≠ .error (.storage .full) := by
  rw [checkOrigin]
  split
  · simp
  · simp
  · split
    · simp
    · simp
  · simp

theorem checkRecord_ne_full (registry : TypeRegistry) (object : Object) (store : Store) :
    checkRecord registry object store ≠ .error (.storage .full) := by
  rw [checkRecord]
  cases registry.get? object.type with
  | none => simp
  | some nodeType => exact checkOrigin_ne_full store object

theorem checkEnd_ne_full (registry : TypeRegistry) (store : Store) (edgeEnd : EdgeEnd)
    (given : Option Object) :
    checkEnd registry store edgeEnd given ≠ .error (.storage .full) := by
  cases given with
  | none => simp [checkEnd]
  | some object =>
    rw [checkEnd]
    split
    · split
      · simp
      · simp
    · simp

theorem checkPair_ne_full (registry : TypeRegistry) (actor : Actor)
    (source destination : String) :
    checkPair registry actor source destination ≠ .error (.storage .full) := by
  rw [checkPair]
  split <;> simp

theorem checkSnapshot_ne_full (store : Store) (source destination object other : Object) :
    checkSnapshot store source destination object other ≠ .error (.storage .full) := by
  rw [checkSnapshot]
  split
  · split
    · simp
    · split <;> simp
  · simp

theorem checkRequest_ne_full (registry : TypeRegistry) (actor : Actor) (request : Request)
    (store : Store) : checkRequest registry actor request store ≠ .error (.storage .full) := by
  rw [checkRequest]
  apply bind_ne_error (checkEnd_ne_full registry store .source request.source)
  intro source _
  apply bind_ne_error (checkEnd_ne_full registry store .destination request.destination)
  intro destination _
  apply bind_ne_error (checkPair_ne_full registry actor source.type destination.type)
  intro _ _
  have hsnapshots : checkSnapshots store source destination ≠ .error (.storage .full) :=
    bind_ne_error (checkSnapshot_ne_full store source destination source destination)
      fun _ _ => checkSnapshot_ne_full store source destination destination source
  apply bind_ne_error hsnapshots
  intro _ _
  simp [pure, Except.pure]

theorem checkDelete_ne_full (registry : TypeRegistry) (actor : Actor) (edge : Relationship) :
    checkDelete registry actor edge ≠ .error (.storage .full) := by
  rw [checkDelete]
  apply bind_ne_error (checkPair_ne_full registry actor edge.source.type edge.destination.type)
  intro _ _
  split <;> simp

theorem checkDeletes_ne_full (registry : TypeRegistry) (actor : Actor)
    (edges : List Relationship) :
    checkDeletes registry actor edges ≠ .error (.storage .full) := by
  induction edges with
  | nil => simp [checkDeletes]
  | cons edge rest ih =>
    rw [checkDeletes]
    exact bind_ne_error (checkDelete_ne_full registry actor edge) fun _ _ => ih

/-! ## Reporting

Only the running out of numbers is reported as such. -/

theorem explainRecord_eq_full_iff {object : Object} {failure : RowFailure} :
    explainRecord object failure = .storage .full ↔ failure = .full := by
  cases failure <;> simp [explainRecord]

theorem explainEdge_eq_full_iff {source destination : Stub} {failure : RowFailure} :
    explainEdge source destination failure = .storage .full ↔ failure = .full := by
  cases failure <;> simp [explainEdge]

theorem explainRun_eq_full_iff {failure : RowFailure} :
    explainRun failure = .storage .full ↔ failure = .full := by
  cases failure <;> simp [explainRun]

end RecordGraph.Graph
