import Mathlib.Data.List.Induction
import RecordGraph.Proofs.AccessorIndex

/-!
# The last registration of a name

Whatever types are registered in whatever order, a name stands for the type that was registered last
under it, and an accessor for the relatable one of these whose name it starts with.  Registrations
of different names leave each other alone, so their order does not matter.  A configuration decides
the kind of the names that it lists, the last list first, and of no others.
-/

namespace RecordGraph.TypeRegistry

/-- The type is registered, and no other one of its name is registered after it. -/
def RegisteredLast (types : List NodeType) (nodeType : NodeType) : Prop :=
  ∃ earlier later, types = earlier ++ nodeType :: later ∧
    ∀ other ∈ later, other.name ≠ nodeType.name

/-- The type owns the accessor once all types are registered. -/
structure Owns (types : List NodeType) (nodeType : NodeType) (accessor : String) : Prop where
  relatable : nodeType.relatable = true
  last : RegisteredLast types nodeType
  named : accessor = nodeType.name ++ "_source" ∨ accessor = nodeType.name ++ "_destination"

/-- Two registries are the same maps: the same types, and the same owner of every accessor. -/
structure SameMaps (left right : TypeRegistry) : Prop where
  types : left.types = right.types
  owner : ∀ accessor, left.owners.lookup accessor = right.owners.lookup accessor

/-- Accessors are found just where a type owns them. -/
structure ResolvesOwners (types : List NodeType) : Prop where
  resolves : ∀ accessor nodeType,
    (ofTypes types).resolve? accessor = some nodeType ↔ Owns types nodeType accessor
  owner_unique : ∀ accessor first second, Owns types first accessor →
    Owns types second accessor → first = second
  reachable : ∀ type edgeEnd, ((ofTypes types).resolve? (accessorName type edgeEnd)).isSome = true ↔
    (ofTypes types).isRelatable type = true
  relatable : ∀ type, (ofTypes types).isRelatable type = true ↔
    ∃ nodeType, RegisteredLast types nodeType ∧ nodeType.name = type ∧ nodeType.relatable = true

variable {types : List NodeType} {nodeType last : NodeType} {registry left right : TypeRegistry}

/-! ## The last type of a name -/

theorem not_registeredLast_nil : ¬RegisteredLast [] nodeType := by
  rintro ⟨earlier, later, htypes, _⟩
  cases earlier <;> cases htypes

/-- One more registration takes the place of those of its name. -/
theorem registeredLast_append_iff :
    RegisteredLast (types ++ [last]) nodeType ↔
      nodeType = last ∨ nodeType.name ≠ last.name ∧ RegisteredLast types nodeType := by
  constructor
  · rintro ⟨earlier, later, htypes, hlater⟩
    rcases List.eq_nil_or_concat' later with rfl | ⟨front, final, rfl⟩
    · exact .inl (List.cons.inj (List.append_inj' htypes rfl).2).1.symm
    · rw [← List.cons_append, ← List.append_assoc] at htypes
      obtain ⟨rfl, hfinal⟩ := List.append_inj' htypes rfl
      cases hfinal
      refine .inr ⟨?_, earlier, front, rfl, fun other hother => ?_⟩
      · exact (hlater last (List.mem_append_right front List.mem_cons_self)).symm
      · exact hlater other (List.mem_append_left [last] hother)
  · rintro (rfl | ⟨hname, earlier, later, rfl, hlater⟩)
    · exact ⟨types, [], rfl, by simp⟩
    · refine ⟨earlier, later ++ [last], by simp, fun other hother => ?_⟩
      rcases List.mem_append.1 hother with hother | hother
      · exact hlater other hother
      · rw [List.mem_singleton.1 hother]
        exact hname.symm

theorem ofTypes_append (types : List NodeType) (last : NodeType) :
    ofTypes (types ++ [last]) = (ofTypes types).register last := by
  rw [ofTypes, List.foldl_append]
  rfl

theorem get?_ofTypes_eq_some_iff {name : String} :
    (ofTypes types).get? name = some nodeType ↔
      nodeType.name = name ∧ RegisteredLast types nodeType := by
  -- From the end of the list, as the last registration is the one that counts.
  induction types using List.reverseRecOn with
  | nil =>
    have hempty : (ofTypes []).get? name = none := rfl
    simp [hempty, not_registeredLast_nil]
  | append_singleton types last ih =>
    rw [ofTypes_append, (indexed_ofTypes types).get?_register, registeredLast_append_iff]
    split
    · next hname =>
      rw [Option.some.injEq]
      constructor
      · rintro rfl
        exact ⟨hname.symm, .inl rfl⟩
      · rintro ⟨hsame, heq | ⟨hapart, _⟩⟩
        · exact heq.symm
        · exact absurd (hsame.trans hname) hapart
    · next hname =>
      rw [ih]
      constructor
      · rintro ⟨rfl, hlast⟩
        exact ⟨rfl, .inr ⟨hname, hlast⟩⟩
      · rintro ⟨rfl, rfl | ⟨_, hlast⟩⟩
        · exact absurd rfl hname
        · exact ⟨rfl, hlast⟩

theorem mem_ofTypes_iff : nodeType ∈ (ofTypes types).types ↔ RegisteredLast types nodeType := by
  have hfound : (ofTypes types).get? nodeType.name = some nodeType ↔
      nodeType ∈ (ofTypes types).types := by
    rw [(indexed_ofTypes types).get?_eq_some_iff, and_iff_left rfl]
  rw [← hfound, get?_ofTypes_eq_some_iff, and_iff_right rfl]

/-! ## Owners -/

theorem exists_accessorName_iff {type accessor : String} :
    (∃ edgeEnd, accessor = accessorName type edgeEnd) ↔
      accessor = type ++ "_source" ∨ accessor = type ++ "_destination" := by
  have hsource : accessorName type .source = type ++ "_source" := String.append_assoc ..
  have hdestination : accessorName type .destination = type ++ "_destination" :=
    String.append_assoc ..
  rw [← hsource, ← hdestination]
  constructor
  · rintro ⟨edgeEnd, hname⟩
    cases edgeEnd with
    | source => exact .inl hname
    | destination => exact .inr hname
  · rintro (hname | hname)
    · exact ⟨.source, hname⟩
    · exact ⟨.destination, hname⟩

theorem resolve?_ofTypes_eq_some_iff {accessor : String} :
    (ofTypes types).resolve? accessor = some nodeType ↔ Owns types nodeType accessor := by
  rw [(indexed_ofTypes types).resolve?_eq_some_iff, mem_ofTypes_iff, NodeType.mem_accessors_iff,
    exists_accessorName_iff]
  constructor
  · rintro ⟨hlast, hrelatable, hnamed⟩
    exact ⟨hrelatable, hlast, hnamed⟩
  · rintro ⟨hrelatable, hlast, hnamed⟩
    exact ⟨hlast, hrelatable, hnamed⟩

theorem isRelatable_ofTypes_iff {type : String} :
    (ofTypes types).isRelatable type = true ↔
      ∃ nodeType, RegisteredLast types nodeType ∧ nodeType.name = type ∧
        nodeType.relatable = true := by
  rw [isRelatable]
  constructor
  · intro hrelatable
    split at hrelatable
    · next nodeType hfound =>
      obtain ⟨hname, hlast⟩ := get?_ofTypes_eq_some_iff.1 hfound
      exact ⟨nodeType, hlast, hname, hrelatable⟩
    · cases hrelatable
  · rintro ⟨nodeType, hlast, hname, hrelatable⟩
    rw [get?_ofTypes_eq_some_iff.2 ⟨hname, hlast⟩]
    exact hrelatable

theorem resolvesOwners (types : List NodeType) : ResolvesOwners types where
  resolves _ _ := resolve?_ofTypes_eq_some_iff
  owner_unique accessor first second hfirst hsecond := by
    rw [← resolve?_ofTypes_eq_some_iff] at hfirst hsecond
    exact Option.some.inj (hfirst.symm.trans hsecond)
  reachable type edgeEnd := by rw [(indexed_ofTypes types).isSome_resolve?]
  relatable _ := isRelatable_ofTypes_iff

/-! ## The order of registrations -/

/-- An indexed registry is known from what it finds under each name. -/
theorem Indexed.sameMaps (hleft : left.Indexed) (hright : right.Indexed)
    (hget : ∀ name, left.get? name = right.get? name) : SameMaps left right := by
  have hmem : ∀ nodeType, nodeType ∈ left.types ↔ nodeType ∈ right.types := by
    intro nodeType
    have hfound : left.get? nodeType.name = some nodeType ↔
        right.get? nodeType.name = some nodeType := by rw [hget]
    rwa [hleft.get?_eq_some_iff, hright.get?_eq_some_iff, and_iff_left rfl, and_iff_left rfl]
      at hfound
  constructor
  · have hperm : left.types.Perm right.types :=
      (List.perm_ext_iff_of_nodup (nodup_names hleft.ordered).of_map
        (nodup_names hright.ordered).of_map).2 hmem
    apply hperm.eq_of_pairwise _ hleft.ordered hright.ordered
    intro first second _ _ hless hmore
    exact absurd hmore (String.lt_asymm hless)
  · intro accessor
    apply Option.ext
    intro name
    rw [hleft.lookup_owners_eq_some_iff, hright.lookup_owners_eq_some_iff]
    simp only [hmem]

theorem Indexed.get?_register_comm (hindexed : registry.Indexed) {first second : NodeType}
    (hapart : first.name ≠ second.name) (name : String) :
    ((registry.register first).register second).get? name =
      ((registry.register second).register first).get? name := by
  rw [(hindexed.register first).get?_register, hindexed.get?_register,
    (hindexed.register second).get?_register, hindexed.get?_register]
  by_cases hfirst : name = first.name
  · have hsecond : name ≠ second.name := hfirst ▸ hapart
    rw [if_neg hsecond, if_pos hfirst, if_pos hfirst]
  · rw [if_neg hfirst, if_neg hfirst]

/-- Registries that find the same still do so after further registrations. -/
theorem get?_foldl_register_congr (hleft : left.Indexed) (hright : right.Indexed)
    (hget : ∀ name, left.get? name = right.get? name) (types : List NodeType) (name : String) :
    (types.foldl register left).get? name = (types.foldl register right).get? name := by
  induction types generalizing left right with
  | nil => exact hget name
  | cons head tail ih =>
    refine ih (hleft.register head) (hright.register head) fun name => ?_
    rw [hleft.get?_register, hright.get?_register, hget]

/-- Registrations of different names next to each other change places. -/
theorem sameMaps_ofTypes_swap (before : List NodeType) {first second : NodeType}
    (after : List NodeType) (hapart : first.name ≠ second.name) :
    SameMaps (ofTypes (before ++ first :: second :: after))
      (ofTypes (before ++ second :: first :: after)) := by
  have hbefore := indexed_ofTypes before
  have hget := get?_foldl_register_congr ((hbefore.register first).register second)
    ((hbefore.register second).register first) (hbefore.get?_register_comm hapart) after
  refine (indexed_ofTypes _).sameMaps (indexed_ofTypes _) fun name => ?_
  simpa only [ofTypes, List.foldl_append, List.foldl_cons] using hget name

/-! ## Configurations -/

theorem get?_ofExtension (extension : RegistryExtension) (name : String) :
    (ofExtension extension).get? name =
      if name ∈ extension.nonRelatable then some (.plainType name)
      else if name ∈ extension.scoping then some (.scopingType name)
      else if name ∈ extension.relatable then some (.relatableType name)
      else builtin.get? name := by
  have hrelatable := indexed_builtin.registerAll NodeType.relatableType extension.relatable
  have hscoping := hrelatable.registerAll NodeType.scopingType extension.scoping
  rw [ofExtension, hscoping.get?_registerAll fun _ => rfl, hrelatable.get?_registerAll fun _ => rfl,
    indexed_builtin.get?_registerAll fun _ => rfl]

/-- After any registrations the index is exact, and registrations of different names can change
places.  A configured registry is made by registrations too, and a name that it finds has the kind
of the last list that holds it, or else is as it was built in. -/
theorem last_registrations_decide :
    (∀ types, ResolvesOwners types) ∧
      (∀ before first second after, first.name ≠ second.name →
        SameMaps (ofTypes (before ++ first :: second :: after))
          (ofTypes (before ++ second :: first :: after))) ∧
      ∀ extension : RegistryExtension,
        (∃ types, ofTypes types = ofExtension extension) ∧
          ∀ name, (ofExtension extension).get? name =
            if name ∈ extension.nonRelatable then some (.plainType name)
            else if name ∈ extension.scoping then some (.scopingType name)
            else if name ∈ extension.relatable then some (.relatableType name)
            else builtin.get? name :=
  ⟨resolvesOwners, fun before _ _ after => sameMaps_ofTypes_swap before after,
    fun extension => ⟨exists_ofTypes_eq_ofExtension extension, get?_ofExtension extension⟩⟩

/-- Names that end like accessors, one of them registered again as a plain type. -/
theorem suffixed_names_resolved :
    NodeType.name (.scopingType "Risk") ≠ NodeType.name (.plainType "Risk_source") ∧
      SameMaps
        (ofTypes [.relatableType "Risk_source", .scopingType "Risk", .plainType "Risk_source"])
        (ofTypes [.relatableType "Risk_source", .plainType "Risk_source", .scopingType "Risk"]) ∧
      (ofTypes [.relatableType "Risk_source", .scopingType "Risk",
        .plainType "Risk_source"]).resolve? "Risk_source" = some (.scopingType "Risk") := by
  have hapart : NodeType.name (.scopingType "Risk") ≠ NodeType.name (.plainType "Risk_source") := by
    decide
  have hlast : RegisteredLast
      [.relatableType "Risk_source", .scopingType "Risk", .plainType "Risk_source"]
      (.scopingType "Risk") :=
    ⟨[.relatableType "Risk_source"], [.plainType "Risk_source"], rfl, by decide⟩
  refine ⟨hapart, ?_, ?_⟩
  · exact last_registrations_decide.2.1 [.relatableType "Risk_source"] _ _ [] hapart
  · exact ((last_registrations_decide.1 _).resolves _ _).2 ⟨rfl, hlast, .inl (by decide)⟩

end RecordGraph.TypeRegistry
