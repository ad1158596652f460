import Mathlib.Data.List.Nodup
import RecordGraph.Proofs.Rows
import RecordGraph.Registry

/-!
# The accessors of registered types

A registry is made by registering types one after the other, where a later type takes the place of
an earlier one of its name.  Accessors are told apart by their type and their end.  So the owner of
an accessor is always the type that is registered under its name, and every relatable type owns
its two accessors.
-/

namespace RecordGraph

/-! ## Accessor names -/

theorem accessorName_toList (type : String) (edgeEnd : EdgeEnd) :
    (accessorName type edgeEnd).toList = type.toList ++ '_' :: edgeEnd.label.toList := by
  simp [accessorName, String.toList_append]

/-- An accessor belongs to one end of one type. -/
theorem accessorName_injective {left right : String} {leftEnd rightEnd : EdgeEnd}
    (hsame : accessorName left leftEnd = accessorName right rightEnd) :
    left = right ∧ leftEnd = rightEnd := by
  have hlist := congrArg String.toList hsame
  rw [accessorName_toList, accessorName_toList] at hlist
  -- The two labels end in different letters.
  have hlast := congrArg List.getLast? hlist
  cases leftEnd with
  | source =>
    cases rightEnd with
    | source => exact ⟨String.toList_injective (List.append_cancel_right hlist), rfl⟩
    | destination => simp [EdgeEnd.label] at hlast
  | destination =>
    cases rightEnd with
    | source => simp [EdgeEnd.label] at hlast
    | destination => exact ⟨String.toList_injective (List.append_cancel_right hlist), rfl⟩

theorem NodeType.mem_accessors_iff {nodeType : NodeType} {accessor : String} :
    accessor ∈ nodeType.accessors ↔
      nodeType.relatable = true ∧ ∃ edgeEnd, accessor = accessorName nodeType.name edgeEnd := by
  rw [accessors]
  cases nodeType.relatable with
  | false => simp
  | true =>
    simp only [if_true, List.mem_cons, List.not_mem_nil, or_false, true_and]
    constructor
    · intro haccessor
      rcases haccessor with hsource | hdestination
      · exact ⟨.source, hsource⟩
      · exact ⟨.destination, hdestination⟩
    · intro haccessor
      obtain ⟨edgeEnd, hname⟩ := haccessor
      cases edgeEnd with
      | source => exact .inl hname
      | destination => exact .inr hname

/-- Types with an accessor in common have one name. -/
theorem NodeType.name_eq_of_mem_accessors {left right : NodeType} {accessor : String}
    (hleft : accessor ∈ left.accessors) (hright : accessor ∈ right.accessors) :
    left.name = right.name := by
  obtain ⟨_, leftEnd, hfirst⟩ := NodeType.mem_accessors_iff.1 hleft
  obtain ⟨_, rightEnd, hsecond⟩ := NodeType.mem_accessors_iff.1 hright
  exact (accessorName_injective (hfirst.symm.trans hsecond)).1

/-! ## Types in order -/

theorem NodeType.before_iff {left right : NodeType} :
    left.before right = true ↔ left.name < right.name := by
  rw [before, decide_eq_true_eq]

theorem NodeType.before_trans {first second third : NodeType}
    (hfirst : first.before second = true) (hsecond : second.before third = true) :
    first.before third = true :=
  before_iff.2 (String.lt_trans (before_iff.1 hfirst) (before_iff.1 hsecond))

namespace TypeRegistry

/-- Types in the order of their names have names of their own. -/
theorem nodup_names {types : List NodeType}
    (hordered : types.Pairwise fun left right => left.name < right.name) :
    (types.map NodeType.name).Nodup :=
  List.pairwise_map.2 (hordered.imp String.ne_of_lt)

/-- A type that is put in its place joins the types of other names. -/
theorem mem_replace_iff {types : List NodeType} {nodeType other : NodeType}
    (hordered : types.Pairwise fun left right => left.name < right.name) :
    other ∈ Ordered.replace NodeType.before nodeType types ↔
      other = nodeType ∨ (other ∈ types ∧ other.name ≠ nodeType.name) := by
  induction types with
  | nil => simp [Ordered.replace]
  | cons head tail ih =>
    obtain ⟨hhead, htail⟩ := List.pairwise_cons.1 hordered
    simp only [Ordered.replace, NodeType.before, decide_eq_true_eq]
    split
    · next hbefore =>
      have hapart : ∀ later ∈ head :: tail, later.name ≠ nodeType.name := by
        intro later hlater
        rcases List.mem_cons.1 hlater with rfl | hlater
        · exact (String.ne_of_lt hbefore).symm
        · exact (String.ne_of_lt (String.lt_trans hbefore (hhead later hlater))).symm
      rw [List.mem_cons, and_iff_left_of_imp (hapart other)]
    · next hafter =>
      split
      · next hbefore =>
        have hname : other = head → other.name ≠ nodeType.name := by
          intro hsame
          rw [hsame]
          exact String.ne_of_lt hbefore
        rw [List.mem_cons, ih htail, List.mem_cons, or_left_comm, or_and_right,
          and_iff_left_of_imp hname]
      · next hbefore =>
        -- The head has the name, and gives its place to the new type.
        have hname : head.name = nodeType.name := String.le_antisymm hafter hbefore
        have hgone : ¬(other = head ∧ other.name ≠ nodeType.name) := fun hother =>
          hother.2 (hother.1 ▸ hname)
        have hapart : other ∈ tail → other.name ≠ nodeType.name := by
          intro hlater
          rw [← hname]
          exact (String.ne_of_lt (hhead other hlater)).symm
        rw [List.mem_cons, List.mem_cons, or_and_right, or_iff_right hgone,
          and_iff_left_of_imp hapart]

theorem pairwise_replace {types : List NodeType} {nodeType : NodeType}
    (hordered : types.Pairwise fun left right => left.name < right.name) :
    (Ordered.replace NodeType.before nodeType types).Pairwise
      fun left right => left.name < right.name := by
  simp only [← NodeType.before_iff] at hordered ⊢
  refine Ordered.pairwise_replace NodeType.before_trans ?_ hordered
  intro head other hitem hhead hother
  simp only [NodeType.before, decide_eq_false_iff_not, decide_eq_true_eq] at hitem hhead hother ⊢
  rwa [String.le_antisymm hhead hitem]

/-! ## The index -/

/-- The types are in the order of their names, and each accessor of a type leads to its name. -/
structure Indexed (registry : TypeRegistry) : Prop where
  ordered : registry.types.Pairwise fun left right => left.name < right.name
  owners : ∀ accessor name, (accessor, name) ∈ registry.owners ↔
    ∃ nodeType ∈ registry.types, nodeType.name = name ∧ accessor ∈ nodeType.accessors

variable {registry : TypeRegistry}

theorem Indexed.get?_eq_some_iff (hindexed : registry.Indexed) {name : String}
    {nodeType : NodeType} :
    registry.get? name = some nodeType ↔ nodeType ∈ registry.types ∧ nodeType.name = name :=
  find?_key_eq_some_iff (nodup_names hindexed.ordered)

theorem Indexed.empty : empty.Indexed where
  ordered := List.Pairwise.nil
  owners := by simp [TypeRegistry.empty]

/-- The accessors that go when a type of a name is registered again. -/
theorem Indexed.mem_stale_iff (hindexed : registry.Indexed) {name accessor : String} :
    accessor ∈ ((registry.get? name).map NodeType.accessors).getD [] ↔
      ∃ old ∈ registry.types, old.name = name ∧ accessor ∈ old.accessors := by
  constructor
  · intro hstale
    cases hfound : registry.get? name with
    | none => simp [hfound] at hstale
    | some old =>
      rw [hfound] at hstale
      obtain ⟨hold, hname⟩ := hindexed.get?_eq_some_iff.1 hfound
      exact ⟨old, hold, hname, hstale⟩
  · intro hold
    obtain ⟨old, hold, hname, haccessor⟩ := hold
    rw [hindexed.get?_eq_some_iff.2 ⟨hold, hname⟩]
    exact haccessor

theorem mem_owners_register_iff {nodeType : NodeType} {accessor name : String} :
    (accessor, name) ∈ (registry.register nodeType).owners ↔
      (accessor ∈ nodeType.accessors ∧ nodeType.name = name) ∨
        ((accessor, name) ∈ registry.owners ∧
          accessor ∉ ((registry.get? nodeType.name).map NodeType.accessors).getD [] ∧
          accessor ∉ nodeType.accessors) := by
  simp [register]

/-- What a type owns is told apart from what others own by its name. -/
theorem Indexed.register (hindexed : registry.Indexed) (nodeType : NodeType) :
    (registry.register nodeType).Indexed where
  ordered := pairwise_replace hindexed.ordered
  owners := by
    intro accessor name
    rw [mem_owners_register_iff]
    constructor
    · intro howner
      rcases howner with ⟨haccessor, hname⟩ | ⟨howner, hstale, _⟩
      · exact ⟨nodeType, (mem_replace_iff hindexed.ordered).2 (.inl rfl), hname, haccessor⟩
      · obtain ⟨other, hother, hname, haccessor⟩ := (hindexed.owners accessor name).1 howner
        have hapart : other.name ≠ nodeType.name := fun hsame =>
          hstale (hindexed.mem_stale_iff.2 ⟨other, hother, hsame, haccessor⟩)
        exact ⟨other, (mem_replace_iff hindexed.ordered).2 (.inr ⟨hother, hapart⟩), hname,
          haccessor⟩
    · intro hregistered
      obtain ⟨other, hother, hname, haccessor⟩ := hregistered
      rcases (mem_replace_iff hindexed.ordered).1 hother with rfl | ⟨hother, hapart⟩
      · exact .inl ⟨haccessor, hname⟩
      · refine .inr ⟨(hindexed.owners accessor name).2 ⟨other, hother, hname, haccessor⟩, ?_, ?_⟩
        · intro hstale
          obtain ⟨old, _, hold, hshared⟩ := hindexed.mem_stale_iff.1 hstale
          exact hapart ((NodeType.name_eq_of_mem_accessors haccessor hshared).trans hold)
        · intro hfresh
          exact hapart (NodeType.name_eq_of_mem_accessors haccessor hfresh)

theorem Indexed.get?_register (hindexed : registry.Indexed) (nodeType : NodeType)
    (name : String) :
    (registry.register nodeType).get? name =
      if name = nodeType.name then some nodeType else registry.get? name := by
  have hmem : ∀ other, other ∈ (registry.register nodeType).types ↔
      other = nodeType ∨ (other ∈ registry.types ∧ other.name ≠ nodeType.name) :=
    fun other => mem_replace_iff hindexed.ordered
  apply Option.ext
  intro other
  rw [(hindexed.register nodeType).get?_eq_some_iff, hmem]
  split
  · next hname =>
    rw [Option.some.injEq]
    constructor
    · rintro ⟨hother | ⟨_, hapart⟩, hsame⟩
      · exact hother.symm
      · exact absurd (hsame.trans hname) hapart
    · rintro rfl
      exact ⟨.inl rfl, hname.symm⟩
  · next hname =>
    rw [hindexed.get?_eq_some_iff]
    constructor
    · rintro ⟨rfl | ⟨hold, _⟩, hsame⟩
      · exact absurd hsame.symm hname
      · exact ⟨hold, hsame⟩
    · rintro ⟨hold, rfl⟩
      exact ⟨.inr ⟨hold, hname⟩, rfl⟩

theorem Indexed.lookup_owners_eq_some_iff (hindexed : registry.Indexed) {accessor name : String} :
    registry.owners.lookup accessor = some name ↔
      ∃ nodeType ∈ registry.types, nodeType.name = name ∧ accessor ∈ nodeType.accessors := by
  rw [← hindexed.owners]
  constructor
  · intro hlookup
    obtain ⟨before, after, howners, _⟩ := List.lookup_eq_some_iff.1 hlookup
    simp [howners]
  · intro howner
    cases hlookup : registry.owners.lookup accessor with
    | none =>
      have habsent := List.lookup_eq_none_iff.1 hlookup _ howner
      simp at habsent
    | some other =>
      obtain ⟨before, after, howners, _⟩ := List.lookup_eq_some_iff.1 hlookup
      have hother : (accessor, other) ∈ registry.owners := by simp [howners]
      obtain ⟨first, _, hfirst, hshared⟩ := (hindexed.owners accessor other).1 hother
      obtain ⟨second, _, hsecond, haccessor⟩ := (hindexed.owners accessor name).1 howner
      rw [← hfirst, ← hsecond, NodeType.name_eq_of_mem_accessors hshared haccessor]

/-- The owner of an accessor is the registered type that contributes it. -/
theorem Indexed.resolve?_eq_some_iff (hindexed : registry.Indexed) {accessor : String}
    {nodeType : NodeType} :
    registry.resolve? accessor = some nodeType ↔
      nodeType ∈ registry.types ∧ accessor ∈ nodeType.accessors := by
  rw [resolve?]
  constructor
  · intro hresolved
    cases hlookup : registry.owners.lookup accessor with
    | none => simp [hlookup] at hresolved
    | some name =>
      simp only [hlookup] at hresolved
      obtain ⟨hfound, hname⟩ := hindexed.get?_eq_some_iff.1 hresolved
      obtain ⟨other, hother, hsame, haccessor⟩ := hindexed.lookup_owners_eq_some_iff.1 hlookup
      rw [List.inj_on_of_nodup_map (nodup_names hindexed.ordered) hfound hother
        (hname.trans hsame.symm)]
      exact ⟨hother, haccessor⟩
  · intro hregistered
    obtain ⟨hmem, haccessor⟩ := hregistered
    rw [hindexed.lookup_owners_eq_some_iff.2 ⟨nodeType, hmem, rfl, haccessor⟩]
    exact hindexed.get?_eq_some_iff.2 ⟨hmem, rfl⟩

/-! ## Registered types -/

/-- The registry of some types, registered one after the other. -/
def ofTypes (types : List NodeType) : TypeRegistry := types.foldl register empty

theorem indexed_foldl_register (types : List NodeType) (hindexed : registry.Indexed) :
    (types.foldl register registry).Indexed := by
  induction types generalizing registry with
  | nil => exact hindexed
  | cons head tail ih => exact ih (hindexed.register head)

theorem indexed_ofTypes (types : List NodeType) : (ofTypes types).Indexed :=
  indexed_foldl_register types Indexed.empty

/-- The accessors of a relatable type are found. -/
theorem Indexed.resolve?_of_isRelatable (hindexed : registry.Indexed) {type : String}
    (hrelatable : registry.isRelatable type = true) (edgeEnd : EdgeEnd) :
    ∃ nodeType, registry.resolve? (accessorName type edgeEnd) = some nodeType := by
  rw [isRelatable] at hrelatable
  cases hfound : registry.get? type with
  | none => simp [hfound] at hrelatable
  | some nodeType =>
    simp only [hfound] at hrelatable
    obtain ⟨hmem, hname⟩ := hindexed.get?_eq_some_iff.1 hfound
    refine ⟨nodeType, hindexed.resolve?_eq_some_iff.2 ⟨hmem, ?_⟩⟩
    rw [NodeType.mem_accessors_iff, hname]
    exact ⟨hrelatable, edgeEnd, rfl⟩

/-- An accessor is found just if its type is relatable. -/
theorem Indexed.isSome_resolve? (hindexed : registry.Indexed) (type : String)
    (edgeEnd : EdgeEnd) :
    (registry.resolve? (accessorName type edgeEnd)).isSome = registry.isRelatable type := by
  rw [Bool.eq_iff_iff, Option.isSome_iff_exists]
  refine ⟨fun hresolved => ?_, fun hrelatable =>
    hindexed.resolve?_of_isRelatable hrelatable edgeEnd⟩
  obtain ⟨nodeType, hresolved⟩ := hresolved
  obtain ⟨hmem, haccessor⟩ := hindexed.resolve?_eq_some_iff.1 hresolved
  obtain ⟨hrelatable, otherEnd, hname⟩ := NodeType.mem_accessors_iff.1 haccessor
  have htype : nodeType.name = type := (accessorName_injective hname).1.symm
  rw [isRelatable, hindexed.get?_eq_some_iff.2 ⟨hmem, htype⟩]
  exact hrelatable

theorem Indexed.registerAll (hindexed : registry.Indexed) (kind : String → NodeType)
    (names : List String) : (registry.registerAll kind names).Indexed := by
  rw [TypeRegistry.registerAll, ← List.foldl_map]
  exact indexed_foldl_register _ hindexed

/-- A list of names decides the kind of each name in it. -/
theorem Indexed.get?_registerAll (hindexed : registry.Indexed) {kind : String → NodeType}
    (hkind : ∀ name, (kind name).name = name) (names : List String) (name : String) :
    (registry.registerAll kind names).get? name =
      if name ∈ names then some (kind name) else registry.get? name := by
  induction names generalizing registry with
  | nil => simp [TypeRegistry.registerAll]
  | cons head tail ih =>
    have hstep : registry.registerAll kind (head :: tail) =
        (registry.register (kind head)).registerAll kind tail := rfl
    rw [hstep, ih (hindexed.register _), hindexed.get?_register, hkind]
    by_cases hhead : name = head
    · simp [hhead]
    · simp [hhead]

theorem indexed_builtin : builtin.Indexed :=
  ((Indexed.empty.registerAll _ _).registerAll _ _).registerAll _ _

/-- A configured registry is made by registering types as well. -/
theorem exists_ofTypes_eq_ofExtension (extension : RegistryExtension) :
    ∃ types, ofTypes types = ofExtension extension := by
  refine ⟨builtinScoping.map NodeType.scopingType ++ builtinRelatable.map NodeType.relatableType ++
    builtinNonRelatable.map NodeType.plainType ++ extension.relatable.map NodeType.relatableType ++
    extension.scoping.map NodeType.scopingType ++
    extension.nonRelatable.map NodeType.plainType, ?_⟩
  simp only [ofTypes, ofExtension, builtin, registerAll, List.foldl_append, List.foldl_map]

end TypeRegistry

end RecordGraph
