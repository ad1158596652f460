import RecordGraph.Command.Run
import RecordGraph.Proofs.AccessorIndex
import RecordGraph.Proofs.MappingOrder
import RecordGraph.Proofs.StoreIntegrity

/-!
# Asking the policy before mapping

`check` asks the policy about two types and looks at nothing else.  A request to map two records
also needs both types to be relatable, which the policy does not say: a type that the configuration
makes plain, or one that nobody has registered, breaks no rule.  Otherwise the two agree.  Two
stored records that are not mapped yet, of which neither is a snapshot, can be mapped just where
`check` allows their types and both types are relatable.
-/

namespace RecordGraph

/-! ## Configured types -/

namespace TypeRegistry

variable {registry : TypeRegistry}

/-- Registering names of one kind changes only which of these names are relatable. -/
theorem Indexed.isRelatable_registerAll (hindexed : registry.Indexed) {kind : String → NodeType}
    (hkind : ∀ name, (kind name).name = name) (names : List String) (name : String) :
    (registry.registerAll kind names).isRelatable name =
      if name ∈ names then (kind name).relatable else registry.isRelatable name := by
  simp only [isRelatable, hindexed.get?_registerAll hkind]
  by_cases hname : name ∈ names
  · simp only [if_pos hname]
  · simp only [if_neg hname]

theorem isRelatable_builtin_iff {name : String} :
    builtin.isRelatable name = true ↔ name ∈ builtinScoping ∨ name ∈ builtinRelatable := by
  have hapart : ∀ other ∈ builtinNonRelatable,
      other ∉ builtinScoping ∧ other ∉ builtinRelatable := by decide
  have hscoping := Indexed.empty.registerAll NodeType.scopingType builtinScoping
  rw [builtin, (hscoping.registerAll _ _).isRelatable_registerAll fun _ => rfl]
  rw [hscoping.isRelatable_registerAll fun _ => rfl]
  rw [Indexed.empty.isRelatable_registerAll fun _ => rfl]
  split
  · next hplain =>
    obtain ⟨hscoping, hrelatable⟩ := hapart name hplain
    simp [NodeType.plainType, hscoping, hrelatable]
  · simp [NodeType.relatableType, NodeType.scopingType, isRelatable, get?, TypeRegistry.empty,
      or_comm]

end TypeRegistry

/-- The configuration lets records of the type be ends of edges. -/
def RegistryExtension.MakesRelatable (extension : RegistryExtension) (type : String) : Prop :=
  type ∉ extension.nonRelatable ∧
    (type ∈ extension.scoping ∨ type ∈ extension.relatable ∨
      type ∈ TypeRegistry.builtinScoping ∨ type ∈ TypeRegistry.builtinRelatable)

/-- Whatever the lists have in common, the non-relatable names are plain and all others that are
listed or built in are relatable, save the built-in plain ones. -/
theorem TypeRegistry.isRelatable_ofExtension_iff {extension : RegistryExtension} {type : String} :
    (ofExtension extension).isRelatable type = true ↔ extension.MakesRelatable type := by
  have hrelatable := indexed_builtin.registerAll NodeType.relatableType extension.relatable
  have hscoping := hrelatable.registerAll NodeType.scopingType extension.scoping
  rw [ofExtension, hscoping.isRelatable_registerAll fun _ => rfl]
  rw [hrelatable.isRelatable_registerAll fun _ => rfl]
  rw [indexed_builtin.isRelatable_registerAll fun _ => rfl, RegistryExtension.MakesRelatable]
  by_cases hplain : type ∈ extension.nonRelatable
  · simp [hplain, NodeType.plainType]
  · by_cases hlisted : type ∈ extension.scoping
    · simp [hplain, hlisted, NodeType.scopingType]
    · by_cases hnamed : type ∈ extension.relatable
      · simp [hplain, hlisted, hnamed, NodeType.relatableType]
      · simp [hplain, hlisted, hnamed, isRelatable_builtin_iff]

/-! ## Asking -/

namespace Session

variable {session : Session} {store : Store}

/-- `check` allows the two types. -/
def Allows (session : Session) (source destination : String) : Prop :=
  ∃ output, Workspace.runCheck session source destination = .ok output

theorem allows_iff {source destination : String} :
    session.Allows source destination ↔
      Graph.checkPair session.registry session.actor source destination = .ok () := by
  rw [Allows, Workspace.runCheck]
  cases Graph.checkPair session.registry session.actor source destination with
  | ok _ => simp
  | error error => simp

/-! ## Mapping -/

/-- `map` makes an edge between the two records. -/
def Maps (session : Session) (store : Store) (source destination : Stub) (external : Bool) : Prop :=
  ∃ output, (session.map source destination external none { store }).result = .ok output

end Session

/-- Both records are stored, neither is a snapshot, the first is not mapped to the second, and a
number is left for an edge. -/
structure Store.Unmapped (store : Store) (source destination : Stub) : Prop where
  numbered : store.Numbered
  room : store.lastRelationshipId < Decimal.maxId
  sourceStored : store.hasObject source = true
  destinationStored : store.hasObject destination = true
  sourcePlain : source.type ≠ snapshotType
  destinationPlain : destination.type ≠ snapshotType
  unmapped : store.hasPair source destination = false

theorem Store.exists_object?_of_hasObject {store : Store} {stub : Stub}
    (hstored : store.hasObject stub = true) :
    ∃ object, store.object? stub = some object ∧ object.stub = stub := by
  obtain ⟨other, hother, hstub⟩ := hasObject_iff.1 hstored
  cases hfound : store.object? stub with
  | none => exact absurd (List.find?_eq_none.1 hfound other hother) (by simp [hstub])
  | some object => exact ⟨object, rfl, by simpa using List.find?_some hfound⟩

/-- Snapshots aside, two stored records can be joined where the policy lets their types pass and
both types are relatable. -/
theorem Graph.joinable_iff_of_plain {registry : TypeRegistry} {actor : Actor} {store : Store}
    {source destination : Object} (hsource : store.hasObject source.stub = true)
    (hdestination : store.hasObject destination.stub = true)
    (hplainSource : source.isSnapshot = false)
    (hplainDestination : destination.isSnapshot = false) :
    Joinable registry actor store source destination ↔
      checkPair registry actor source.type destination.type = .ok () ∧
        registry.isRelatable source.type = true ∧
        registry.isRelatable destination.type = true := by
  rw [checkPair_eq_ok_iff]
  constructor
  · intro hjoinable
    exact ⟨hjoinable.allowed, hjoinable.sourceRelatable, hjoinable.destinationRelatable⟩
  · rintro ⟨hallowed, hrelatable, hother⟩
    exact {
      sourceRelatable := hrelatable
      sourceStored := hsource
      destinationRelatable := hother
      destinationStored := hdestination
      allowed := hallowed
      sourceApart := checkSnapshot_eq_ok_iff.2 fun hsnapshot => by simp [hplainSource] at hsnapshot
      destinationApart :=
        checkSnapshot_eq_ok_iff.2 fun hsnapshot => by simp [hplainDestination] at hsnapshot }

namespace Session

variable {session : Session} {store : Store}

/-- Mapping two stored records comes to making the edge between them. -/
theorem maps_iff_create {source destination : Stub} {first second : Object}
    (hfirst : store.object? source = some first) (hsecond : store.object? destination = some second)
    (external : Bool) :
    session.Maps store source destination external ↔
      ∃ edge after, Transition.create session.registry session.actor session.now
        { source := some first, destination := some second
          external := external || session.actor.external } store = .ok (edge, after) := by
  have hcreate := (Graph.realizes_create session.registry session.actor session.now
    { source := some first, destination := some second
      external := external || session.actor.external } { store }).1
  simp only [Maps, map, bind, Call.andThen, endpoint, Call.ask, hfirst, hsecond,
    Option.getD_some, hcreate]
  cases Transition.create session.registry session.actor session.now
    { source := some first, destination := some second
      external := external || session.actor.external } store with
  | error error => simp [Except.map]
  | ok outcome =>
    simp only [Except.map]
    exact ⟨fun _ => ⟨outcome.1, outcome.2, rfl⟩, fun _ => ⟨_, rfl⟩⟩

/-- Records that can be mapped at all can be mapped just where `check` allows their types and both
types are relatable. -/
theorem maps_iff {source destination : Stub} (hpair : store.Unmapped source destination)
    (external : Bool) :
    session.Maps store source destination external ↔
      session.Allows source.type destination.type ∧
        session.registry.isRelatable source.type = true ∧
        session.registry.isRelatable destination.type = true := by
  obtain ⟨first, hfirst, rfl⟩ := Store.exists_object?_of_hasObject hpair.sourceStored
  obtain ⟨second, hsecond, rfl⟩ := Store.exists_object?_of_hasObject hpair.destinationStored
  have hjoinable : Graph.Joinable session.registry session.actor store first second ↔ _ :=
    Graph.joinable_iff_of_plain hpair.sourceStored hpair.destinationStored
      (beq_eq_false_iff_ne.2 hpair.sourcePlain) (beq_eq_false_iff_ne.2 hpair.destinationPlain)
  rw [maps_iff_create hfirst hsecond, allows_iff]
  refine Iff.trans ?_ hjoinable
  constructor
  · rintro ⟨edge, after, hcreated⟩
    obtain ⟨_, _, hcheck, _⟩ := Transition.create_eq_ok_iff.1 hcreated
    obtain ⟨hgiven, hother, hends⟩ := Graph.checkRequest_eq_ok_iff.1 hcheck
    cases hgiven
    cases hother
    exact hends
  · intro hends
    let request : Graph.Request := { source := some first, destination := some second
                                     external := external || session.actor.external }
    obtain ⟨edge, after, hrow⟩ : ∃ edge after, store.insertRelationship
        (request.row session.actor session.now first.stub second.stub) = .ok (edge, after) :=
      hpair.numbered.exists_insertRelationship rfl rfl rfl hpair.room hpair.unmapped
    exact ⟨edge, after, Transition.create_eq_ok_iff.2
      ⟨first, second, Graph.checkRequest_eq_ok_iff.2 ⟨rfl, rfl, hends⟩, hrow⟩⟩

end Session

/-- Two different records that a consistent store holds and that are related in neither direction,
although a number is left for an edge. -/
structure Store.Unrelated (store : Store) (source destination : Stub) : Prop
    extends store.Unmapped source destination where
  integrity : store.Integrity
  apart : source ≠ destination
  sourceNumber : Decimal.InRange source.id
  destinationNumber : Decimal.InRange destination.id
  unmappedBack : store.hasPair destination source = false

/-- A record of each of two types can be stored and left unrelated. -/
theorem Store.exists_unrelated {source destination : String} (hsource : isBlankType source = false)
    (hdestination : isBlankType destination = false) (hplainSource : source ≠ snapshotType)
    (hplainDestination : destination ≠ snapshotType) :
    ∃ store : Store, store.Unrelated ⟨source, 1⟩ ⟨destination, 2⟩ := by
  let first := Object.draft source 1 ""
  let second := Object.draft destination 2 ""
  have hapart : (⟨source, 1⟩ : Stub) ≠ ⟨destination, 2⟩ := by simp
  obtain ⟨one, hone⟩ : ∃ one, Store.empty.insertObject first = .ok one :=
    ⟨_, insertObject_eq_ok_iff.2 ⟨hsource, rfl, rfl⟩⟩
  have hintegrity := Integrity.empty.insertObject hone
  obtain ⟨_, _, rfl⟩ := insertObject_eq_ok_iff.1 hone
  have hfresh : Store.hasObject { Store.empty with
      objects := Ordered.insert Object.before first Store.empty.objects } second.stub = false :=
    hasObject_eq_false_iff.2 fun other hother => by
      rw [List.mem_singleton.1 hother]
      exact hapart
  have hmem : ∀ object, object = first ∨ object = second →
      object ∈ Ordered.insert Object.before second
        (Ordered.insert Object.before first Store.empty.objects) := by
    intro object hobject
    refine (objects_insert_perm hfresh).mem_iff.2 ?_
    rcases hobject with rfl | rfl
    · exact List.mem_cons_of_mem _ (List.mem_singleton.2 rfl)
    · exact List.mem_cons_self
  have htwo := hintegrity.insertObject (insertObject_eq_ok_iff.2 ⟨hdestination, hfresh, rfl⟩)
  refine ⟨{ Store.empty with
    objects := Ordered.insert Object.before second
      (Ordered.insert Object.before first Store.empty.objects) }, ?_⟩
  exact {
    numbered := ⟨Numbered.empty.edges, Numbered.empty.runs, Numbered.empty.runIds⟩
    room := (by decide : (0 : Int) < Decimal.maxId)
    sourceStored := hasObject_iff.2 ⟨first, hmem first (.inl rfl), rfl⟩
    destinationStored := hasObject_iff.2 ⟨second, hmem second (.inr rfl), rfl⟩
    sourcePlain := hplainSource
    destinationPlain := hplainDestination
    unmapped := rfl
    integrity := htwo
    apart := hapart
    sourceNumber := (by decide : Decimal.InRange 1)
    destinationNumber := (by decide : Decimal.InRange 2)
    unmappedBack := rfl }

end RecordGraph
