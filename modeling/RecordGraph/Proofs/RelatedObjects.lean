import RecordGraph.Proofs.Traversals

/-!
# Looking up the records along the edges of a record

The look up answers on any store, also on one whose edges name types that the registry does not
hold as relatable and records that are gone.  It finds the stored records among the other ends that
can be reached and are of a type asked for.  Each end that cannot be reached has a warning of its
own, those of the edges that lead to the record first, and one more warning counts the other ends
that are not stored.
-/

namespace RecordGraph

namespace Store

variable {store : Store} {registry : TypeRegistry} {stub other : Stub}
  {types : Option (List String)}

/-! ## The ends that can be reached -/

/-- The warnings on the edges whose end has a type that is not relatable. -/
def unreachableEnds (registry : TypeRegistry) (edgeEnd : EdgeEnd) (edges : List Relationship) :
    List Warning :=
  (edges.filter fun edge => !registry.isRelatable (edge.endStub edgeEnd).type).map
    fun edge => .unknownAccessor (edge.accessor edgeEnd)

theorem flatMap_accessorWarnings (hindexed : registry.Indexed) (edgeEnd : EdgeEnd)
    (edges : List Relationship) :
    edges.flatMap (fun edge => accessorWarnings registry (edge.accessor edgeEnd)) =
      unreachableEnds registry edgeEnd edges := by
  induction edges with
  | nil => rfl
  | cons edge rest ih =>
    have hresolved := hindexed.isSome_resolve? (edge.endStub edgeEnd).type edgeEnd
    rw [unreachableEnds] at ih ⊢
    rw [List.flatMap_cons, ih, List.filter_cons, ← hresolved, accessorWarnings,
      Relationship.accessor]
    cases registry.resolve? (accessorName (edge.endStub edgeEnd).type edgeEnd) with
    | none => rfl
    | some nodeType => rfl

/-- Accessors are names, but what they decide hangs on the type at the end alone. -/
theorem reachableEnds_eq (hindexed : registry.Indexed) (edgeEnd : EdgeEnd)
    (edges : List Relationship) :
    reachableEnds registry edgeEnd edges =
      ((edges.map fun edge => edge.endStub edgeEnd).filter
          fun other => registry.isRelatable other.type,
        unreachableEnds registry edgeEnd edges) := by
  rw [reachableEnds, flatMap_accessorWarnings hindexed, List.filter_map]
  simp only [Relationship.accessor, hindexed.isSome_resolve?]
  rfl

/-! ## The records that are wanted -/

/-- An edge joins two records, the other of which has a relatable type that is among the types
asked for, if any are. -/
structure Reaches (store : Store) (registry : TypeRegistry) (types : Option (List String))
    (stub other : Stub) : Prop where
  joined : store.Joined stub other
  relatable : registry.isRelatable other.type = true
  allowed : ∀ names, types = some names → names = [] ∨ other.type ∈ names

/-- The references that a look up asks the store for, in order. -/
def reached (store : Store) (registry : TypeRegistry) (types : Option (List String))
    (stub : Stub) : List Stub :=
  (Stub.sorted (((store.relatedSources stub).map Relationship.source ++
    (store.relatedDestinations stub).map Relationship.destination).filter
      fun other => registry.isRelatable other.type)).filter
        fun other => typeAllowed types other.type

theorem nodup_reached (store : Store) (registry : TypeRegistry) (types : Option (List String))
    (stub : Stub) : (store.reached registry types stub).Nodup :=
  (Stub.nodup_sorted _).filter _

theorem mem_reached_iff :
    other ∈ store.reached registry types stub ↔ store.Reaches registry types stub other := by
  rw [reached, List.mem_filter, Stub.mem_sorted, List.mem_filter, ← Stub.mem_sorted,
    ← neighbors, mem_neighbors_iff, typeAllowed_iff]
  constructor
  · rintro ⟨⟨hjoined, hrelatable⟩, hallowed⟩
    exact ⟨hjoined, hrelatable, hallowed⟩
  · rintro ⟨hjoined, hrelatable, hallowed⟩
    exact ⟨⟨hjoined, hrelatable⟩, hallowed⟩

/-! ## The records that are found -/

/-- For references that are there once, as many records are read as are stored. -/
theorem length_getObjects? {wanted : List Stub} (hwanted : wanted.Nodup)
    (hkeys : store.objects.Pairwise fun left right => left.stub ≠ right.stub) :
    ((store.getObjects? wanted).getD []).length = wanted.countP store.hasObject := by
  have hperm : ((store.objectsNamed wanted).map Object.stub).Perm
      (wanted.filter store.hasObject) := by
    rw [List.perm_ext_iff_of_nodup]
    · intro other
      simp only [objectsNamed, List.mem_map, List.mem_filter, List.contains_iff_mem, hasObject_iff]
      constructor
      · rintro ⟨object, ⟨hobject, hwanted⟩, rfl⟩
        exact ⟨hwanted, object, hobject, rfl⟩
      · rintro ⟨hwanted, object, hobject, rfl⟩
        exact ⟨object, ⟨hobject, hwanted⟩, rfl⟩
    · exact (List.pairwise_map.2 hkeys).sublist (List.filter_sublist.map _)
    · exact hwanted.filter _
  rw [List.countP_eq_length_filter, ← hperm.length_eq, List.length_map,
    (getObjects?_perm hkeys wanted).length_eq]

/-- The references that no stored record answers to. -/
def absentAmong (store : Store) (wanted : List Stub) : List Stub :=
  wanted.filter fun stub => !store.hasObject stub

theorem mem_absentAmong_iff {wanted : List Stub} :
    other ∈ store.absentAmong wanted ↔
      other ∈ wanted ∧ ∀ object ∈ store.objects, object.stub ≠ other := by
  rw [absentAmong, List.mem_filter, Bool.not_eq_true', hasObject_eq_false_iff]

theorem length_getObjects?_add_absent {wanted : List Stub} (hwanted : wanted.Nodup)
    (hkeys : store.objects.Pairwise fun left right => left.stub ≠ right.stub) :
    ((store.getObjects? wanted).getD []).length + (store.absentAmong wanted).length =
      wanted.length := by
  rw [length_getObjects? hwanted hkeys, absentAmong, ← List.countP_eq_length_filter,
    List.length_eq_countP_add_countP store.hasObject]
  simp only [Bool.not_eq_true, Bool.decide_eq_false]

/-- The difference of the two lengths that the last warning tells is the number of references that
are not stored. -/
theorem absentWarnings_eq {wanted : List Stub} (hwanted : wanted.Nodup)
    (hkeys : store.objects.Pairwise fun left right => left.stub ≠ right.stub) :
    (if ((store.getObjects? wanted).getD []).length < wanted.length then
        [Warning.rowsAbsent stub (wanted.length - ((store.getObjects? wanted).getD []).length)]
      else []) =
      if store.absentAmong wanted = [] then []
      else [.rowsAbsent stub (store.absentAmong wanted).length] := by
  have hcount := length_getObjects?_add_absent hwanted hkeys
  by_cases hnone : store.absentAmong wanted = []
  · rw [hnone, List.length_nil] at hcount
    rw [if_pos hnone, if_neg (by omega)]
  · have hsome := List.length_pos_iff.2 hnone
    rw [if_neg hnone, if_pos (by omega), ← hcount, Nat.add_sub_cancel_left]

theorem relatedObjects_eq (hindexed : registry.Indexed)
    (hkeys : store.objects.Pairwise fun left right => left.stub ≠ right.stub) :
    store.relatedObjects registry stub types =
      ((store.getObjects? (store.reached registry types stub)).getD [],
        unreachableEnds registry .source (store.relatedSources stub) ++
          unreachableEnds registry .destination (store.relatedDestinations stub) ++
          if store.absentAmong (store.reached registry types stub) = [] then []
          else
            [.rowsAbsent stub (store.absentAmong (store.reached registry types stub)).length]) := by
  rw [← absentWarnings_eq (nodup_reached store registry types stub) hkeys]
  simp only [relatedObjects, reachableEnds_eq hindexed, ← List.filter_append]
  rfl

/-- What a look up finds and what it warns of. -/
structure LooksUp (store : Store) (registry : TypeRegistry) (types : Option (List String))
    (stub : Stub) (found : List Object) (warnings : List Warning) : Prop where
  mem_found_iff : ∀ object, object ∈ found ↔
    object ∈ store.objects ∧ store.Reaches registry types stub object.stub
  found_nodup : found.Nodup
  /-- The last warning counts the wanted references that no stored record answers to. -/
  warnings_eq : ∃ absent : List Stub, absent.Nodup ∧
    (∀ other, other ∈ absent ↔
      store.Reaches registry types stub other ∧ ∀ object ∈ store.objects, object.stub ≠ other) ∧
    warnings =
      unreachableEnds registry .source (store.relatedSources stub) ++
        unreachableEnds registry .destination (store.relatedDestinations stub) ++
        if absent = [] then [] else [.rowsAbsent stub absent.length]
  /-- No more records are found than are wanted. -/
  found_le : found.length ≤ (store.reached registry types stub).length

/-- On any store, whatever its edges name, the look up finds the stored records that an edge joins
with the record, in either direction, that have a relatable type, and that are of a type asked
for.  It warns of each end with another type, and of the number of the records that are gone. -/
theorem relatedObjects_looks_up (nodeTypes : List NodeType) (store : Store)
    (hkeys : store.objects.Pairwise fun left right => left.stub ≠ right.stub) (stub : Stub)
    (types : Option (List String)) :
    store.LooksUp (.ofTypes nodeTypes) types stub
      (store.relatedObjects (.ofTypes nodeTypes) stub types).1
      (store.relatedObjects (.ofTypes nodeTypes) stub types).2 := by
  rw [relatedObjects_eq (TypeRegistry.indexed_ofTypes nodeTypes) hkeys]
  constructor
  case mem_found_iff =>
    intro object
    rw [(getObjects?_perm hkeys _).mem_iff, objectsNamed, List.mem_filter, List.contains_iff_mem,
      mem_reached_iff]
  case found_nodup =>
    rw [(getObjects?_perm hkeys _).nodup_iff]
    exact (hkeys.imp fun hstub hsame => hstub (congrArg Object.stub hsame)).filter _
  case warnings_eq =>
    refine ⟨_, (nodup_reached store _ types stub).filter _, fun other => ?_, rfl⟩
    rw [← absentAmong, mem_absentAmong_iff, mem_reached_iff]
  case found_le =>
    exact Nat.le.intro (length_getObjects?_add_absent (nodup_reached store _ types stub) hkeys)

/-- Objectives, issues and risks may be ends of edges; comments may not. -/
def reviewTypes : List NodeType :=
  [.relatableType "Objective", .relatableType "Issue", .relatableType "Risk", .plainType "Comment"]

/-- An objective is joined with itself, with an issue in both directions, with a comment and a
risk, and with two issues that are gone, with one of them twice. -/
def reviewedObjective : Store where
  objects := [.draft "Comment" 1 "c", .draft "Issue" 4 "i", .draft "Objective" 3 "o",
    .draft "Risk" 2 "r"]
  relationships :=
    [.bare 1 ⟨"Objective", 3⟩ ⟨"Objective", 3⟩, .bare 2 ⟨"Issue", 4⟩ ⟨"Objective", 3⟩,
      .bare 3 ⟨"Objective", 3⟩ ⟨"Issue", 4⟩, .bare 4 ⟨"Comment", 1⟩ ⟨"Objective", 3⟩,
      .bare 5 ⟨"Objective", 3⟩ ⟨"Issue", 9⟩, .bare 6 ⟨"Issue", 9⟩ ⟨"Objective", 3⟩,
      .bare 7 ⟨"Objective", 3⟩ ⟨"Risk", 2⟩, .bare 8 ⟨"Objective", 3⟩ ⟨"Issue", 7⟩]

/-- The look up of objectives and issues finds the issue and the objective itself, each once, and
says that the comment cannot be reached and that two records are gone. -/
theorem reviewed_objective_looks_up :
    (reviewedObjective.objects.Pairwise fun left right => left.stub ≠ right.stub) ∧
      reviewedObjective.relatedObjects (.ofTypes reviewTypes) ⟨"Objective", 3⟩
          (some ["Objective", "Issue"]) =
        ([.draft "Issue" 4 "i", .draft "Objective" 3 "o"],
          [.unknownAccessor "Comment_source", .rowsAbsent ⟨"Objective", 3⟩ 2]) ∧
      reviewedObjective.LooksUp (.ofTypes reviewTypes) (some ["Objective", "Issue"])
        ⟨"Objective", 3⟩ [.draft "Issue" 4 "i", .draft "Objective" 3 "o"]
        [.unknownAccessor "Comment_source", .rowsAbsent ⟨"Objective", 3⟩ 2] := by
  have hkeys : reviewedObjective.objects.Pairwise fun left right => left.stub ≠ right.stub := by
    decide +kernel
  have hfound : reviewedObjective.relatedObjects (.ofTypes reviewTypes) ⟨"Objective", 3⟩
      (some ["Objective", "Issue"]) =
        ([.draft "Issue" 4 "i", .draft "Objective" 3 "o"],
          [.unknownAccessor "Comment_source", .rowsAbsent ⟨"Objective", 3⟩ 2]) := by
    decide +kernel
  have hanswer := relatedObjects_looks_up reviewTypes reviewedObjective hkeys ⟨"Objective", 3⟩
    (some ["Objective", "Issue"])
  rw [hfound] at hanswer
  exact ⟨hkeys, hfound, hanswer⟩

end Store

end RecordGraph
