import Mathlib.Data.List.Nodup
import RecordGraph.Store.Rows

/-!
# What changes of rows do to the tables

A row that is stored joins the rows of its table and leaves the other tables alone.  Edges that are
removed go together with every reference to them, and removing several one after the other comes
to removing all of them at once.
-/

namespace RecordGraph

/-! ## Insertion in order -/

/-- Beside other keys only, an item joins the items. -/
theorem Ordered.insert_perm {α : Type} {before : α → α → Bool} {item : α} {items : List α}
    (hfresh : ∀ other ∈ items, before item other = true ∨ before other item = true) :
    (Ordered.insert before item items).Perm (item :: items) := by
  induction items with
  | nil => exact List.Perm.refl _
  | cons head tail ih =>
    have htail := ih fun other hother => hfresh other (List.mem_cons_of_mem _ hother)
    simp only [Ordered.insert]
    split
    · exact List.Perm.refl _
    · next hitem =>
      have hhead : before head item = true := by
        rcases hfresh head List.mem_cons_self with hbefore | hbefore
        · exact absurd hbefore hitem
        · exact hbefore
      rw [if_pos hhead]
      exact (htail.cons head).trans (List.Perm.swap item head tail)

/-- Where equal keys mean equal items, an insertion adds the item and nothing else. -/
theorem Ordered.mem_insert_iff {α : Type} {before : α → α → Bool} {item other : α}
    {items : List α}
    (htotal : ∀ other, before item other = false → before other item = false → item = other) :
    other ∈ Ordered.insert before item items ↔ other = item ∨ other ∈ items := by
  constructor
  · exact Ordered.mem_of_mem_insert
  · intro hother
    rcases hother with rfl | hmem
    · exact Ordered.mem_insert_self htotal
    · exact Ordered.mem_insert_of_mem hmem

/-- Where equal keys mean equal items, putting items in order neither adds nor loses one. -/
theorem Ordered.mem_ofList_iff {α : Type} {before : α → α → Bool} {other : α} (items : List α)
    (htotal : ∀ item other, before item other = false → before other item = false →
      item = other) :
    other ∈ Ordered.ofList before items ↔ other ∈ items := by
  have hfold : ∀ sorted, other ∈ items.foldl
      (fun sorted item => Ordered.insert before item sorted) sorted ↔
        other ∈ items ∨ other ∈ sorted := by
    induction items with
    | nil => simp
    | cons head tail ih =>
      intro sorted
      rw [List.foldl_cons, ih, Ordered.mem_insert_iff (htotal head), List.mem_cons]
      simp only [or_assoc, or_left_comm]
  simpa [Ordered.ofList] using hfold []

/-- Whatever is put in order was among the items. -/
theorem Ordered.mem_of_mem_ofList {α : Type} {before : α → α → Bool} {other : α} {items : List α}
    (hmem : other ∈ Ordered.ofList before items) : other ∈ items := by
  have hfold : ∀ sorted, other ∈ items.foldl
      (fun sorted item => Ordered.insert before item sorted) sorted →
        other ∈ items ∨ other ∈ sorted := by
    clear hmem
    induction items with
    | nil => exact fun _ hmem => .inr hmem
    | cons head tail ih =>
      intro sorted hmem
      rcases ih _ hmem with htail | hinserted
      · exact .inl (List.mem_cons_of_mem head htail)
      · rcases Ordered.mem_of_mem_insert hinserted with rfl | hold
        · exact .inl List.mem_cons_self
        · exact .inr hold
  exact (hfold [] hmem).resolve_right List.not_mem_nil

/-- An insertion leaves an item of the same key, be it the new one or one that was there. -/
theorem Ordered.exists_mem_insert {α : Type} {before : α → α → Bool} (item : α) (items : List α)
    (hirrefl : before item item = false) :
    ∃ kept ∈ Ordered.insert before item items,
      before item kept = false ∧ before kept item = false := by
  induction items with
  | nil => exact ⟨item, List.mem_singleton.2 rfl, hirrefl, hirrefl⟩
  | cons head tail ih =>
    simp only [Ordered.insert]
    split
    · exact ⟨item, List.mem_cons_self, hirrefl, hirrefl⟩
    · next hitem =>
      split
      · obtain ⟨kept, hkept, hkey⟩ := ih
        exact ⟨kept, List.mem_cons_of_mem head hkept, hkey⟩
      · next hhead =>
        exact ⟨head, List.mem_cons_self, Bool.eq_false_iff.2 hitem, Bool.eq_false_iff.2 hhead⟩

/-- Putting items in order keeps every key. -/
theorem Ordered.exists_mem_ofList {α : Type} {before : α → α → Bool} {item : α} {items : List α}
    (hirrefl : ∀ item, before item item = false) (hmem : item ∈ items) :
    ∃ kept ∈ Ordered.ofList before items, before item kept = false ∧ before kept item = false := by
  have hfold : ∀ sorted,
      (item ∈ items ∨ ∃ kept ∈ sorted, before item kept = false ∧ before kept item = false) →
        ∃ kept ∈ items.foldl (fun sorted item => Ordered.insert before item sorted) sorted,
          before item kept = false ∧ before kept item = false := by
    clear hmem
    induction items with
    | nil => exact fun _ hkept => hkept.resolve_left List.not_mem_nil
    | cons head tail ih =>
      intro sorted hkept
      apply ih
      rcases hkept with hmem | ⟨kept, hkept, hkey⟩
      · rcases List.mem_cons.1 hmem with rfl | htail
        · exact .inr (Ordered.exists_mem_insert item sorted (hirrefl item))
        · exact .inl htail
      · exact .inr ⟨kept, Ordered.mem_insert_of_mem hkept, hkey⟩
  exact hfold [] (.inl hmem)

/-- An insertion keeps the order. -/
theorem Ordered.pairwise_insert {α : Type} {before : α → α → Bool} {item : α} {items : List α}
    (htrans : ∀ {first second third}, before first second = true →
      before second third = true → before first third = true)
    (hordered : items.Pairwise fun left right => before left right = true) :
    (Ordered.insert before item items).Pairwise fun left right => before left right = true := by
  induction items with
  | nil => exact List.pairwise_singleton _ item
  | cons head tail ih =>
    obtain ⟨hhead, htail⟩ := List.pairwise_cons.1 hordered
    simp only [Ordered.insert]
    split
    · next hitem =>
      refine List.pairwise_cons.2 ⟨?_, hordered⟩
      intro other hother
      rcases List.mem_cons.1 hother with rfl | hlater
      · exact hitem
      · exact htrans hitem (hhead other hlater)
    · split
      · next hafter =>
        refine List.pairwise_cons.2 ⟨?_, ih htail⟩
        intro other hother
        rcases Ordered.mem_of_mem_insert hother with rfl | hlater
        · exact hafter
        · exact hhead other hlater
      · exact hordered

theorem Ordered.pairwise_ofList {α : Type} {before : α → α → Bool} (items : List α)
    (htrans : ∀ {first second third}, before first second = true →
      before second third = true → before first third = true) :
    (Ordered.ofList before items).Pairwise fun left right => before left right = true := by
  have hfold : ∀ sorted : List α, (sorted.Pairwise fun left right => before left right = true) →
      (items.foldl (fun sorted item => Ordered.insert before item sorted) sorted).Pairwise
        fun left right => before left right = true := by
    induction items with
    | nil => exact fun _ hsorted => hsorted
    | cons head tail ih =>
      intro sorted hsorted
      exact ih _ (Ordered.pairwise_insert htrans hsorted)
  exact hfold [] List.Pairwise.nil

/-- Of two references one comes before the other, or they are one. -/
theorem Stub.eq_of_not_before {left right : Stub} (hleft : left.before right = false)
    (hright : right.before left = false) : left = right := by
  simp only [Stub.before, Bool.or_eq_false_iff, decide_eq_false_iff_not, Bool.and_eq_false_iff,
    beq_eq_false_iff_ne] at hleft hright
  have htype : left.type = right.type := String.le_antisymm hright.1 hleft.1
  have hid : left.id = right.id := by
    have hle := hleft.2.resolve_left (fun hne => hne htype)
    have hge := hright.2.resolve_left (fun hne => hne htype.symm)
    omega
  cases left
  cases right
  simp_all

@[simp]
theorem Stub.mem_sorted {stub : Stub} {stubs : List Stub} :
    stub ∈ Stub.sorted stubs ↔ stub ∈ stubs :=
  Ordered.mem_ofList_iff stubs fun _ _ => Stub.eq_of_not_before

theorem Stub.before_iff {left right : Stub} :
    left.before right = true ↔
      left.type < right.type ∨ (left.type = right.type ∧ left.id < right.id) := by
  simp [Stub.before]

theorem Stub.before_trans {first second third : Stub} (hfirst : first.before second = true)
    (hsecond : second.before third = true) : first.before third = true := by
  rw [Stub.before_iff] at hfirst hsecond ⊢
  rcases hfirst with htype | ⟨htype, hid⟩
  · rcases hsecond with hnext | ⟨hnext, _⟩
    · exact .inl (String.lt_trans htype hnext)
    · exact .inl (hnext ▸ htype)
  · rcases hsecond with hnext | ⟨hnext, hless⟩
    · exact .inl (htype ▸ hnext)
    · exact .inr ⟨htype.trans hnext, Int.lt_trans hid hless⟩

theorem Stub.not_before_self (stub : Stub) : ¬stub.before stub = true := by
  rw [Stub.before_iff]
  intro hbefore
  rcases hbefore with htype | ⟨_, hid⟩
  · exact String.lt_irrefl _ htype
  · exact Int.lt_irrefl _ hid

/-- References in order are each there once. -/
theorem Stub.nodup_sorted (stubs : List Stub) : (Stub.sorted stubs).Nodup := by
  have hordered : (Stub.sorted stubs).Pairwise fun left right => left.before right = true :=
    Ordered.pairwise_ofList stubs Stub.before_trans
  refine hordered.imp ?_
  intro left right hbefore hsame
  subst hsame
  exact Stub.not_before_self left hbefore

/-- An edge of which nothing is recorded but its number and its ends. -/
def Relationship.bare (id : Int) (source destination : Stub) : Relationship :=
  { id, source, destination, parentId := none, automappingId := none, external := false
    modifiedBy := none, createdAt := 0, updatedAt := 0 }

theorem Relationship.before_trans {first second third : Relationship}
    (hfirst : first.before second = true) (hsecond : second.before third = true) :
    first.before third = true := by
  rw [Relationship.before, decide_eq_true_eq] at hfirst hsecond ⊢
  exact Int.lt_trans hfirst hsecond

/-! ## Looking rows up -/

/-- Where keys tell rows apart, the row that is found under a key is the only one. -/
theorem find?_key_eq_some_iff {α κ : Type} [BEq κ] [LawfulBEq κ] {key : α → κ} {rows : List α}
    (hkeys : (rows.map key).Nodup) {wanted : κ} {row : α} :
    rows.find? (fun other => key other == wanted) = some row ↔ row ∈ rows ∧ key row = wanted := by
  constructor
  · intro hfound
    exact ⟨List.mem_of_find?_eq_some hfound, by simpa using List.find?_some hfound⟩
  · intro hrow
    obtain ⟨hmem, hkey⟩ := hrow
    cases hfound : rows.find? (fun other => key other == wanted) with
    | none =>
      have habsent := List.find?_eq_none.1 hfound row hmem
      simp [hkey] at habsent
    | some found =>
      have hsame : key found = wanted := by simpa using List.find?_some hfound
      have hstored : found ∈ rows := List.mem_of_find?_eq_some hfound
      rw [List.inj_on_of_nodup_map hkeys hstored hmem (hsame.trans hkey.symm)]

namespace Store

theorem hasObject_iff {store : Store} {stub : Stub} :
    store.hasObject stub = true ↔ ∃ object ∈ store.objects, object.stub = stub := by
  simp [hasObject]

theorem hasRelationship_iff {store : Store} {id : Int} :
    store.hasRelationship id = true ↔ ∃ edge ∈ store.relationships, edge.id = id := by
  simp [hasRelationship]

theorem hasAutomapping_iff {store : Store} {id : Int} :
    store.hasAutomapping id = true ↔ ∃ run ∈ store.automappings, run.id = id := by
  simp [hasAutomapping]

theorem hasObject_eq_false_iff {store : Store} {stub : Stub} :
    store.hasObject stub = false ↔ ∀ object ∈ store.objects, object.stub ≠ stub := by
  simp [hasObject]

theorem hasRelationship_eq_false_iff {store : Store} {id : Int} :
    store.hasRelationship id = false ↔ ∀ edge ∈ store.relationships, edge.id ≠ id := by
  simp [hasRelationship]

theorem hasPair_eq_false_iff {store : Store} {source destination : Stub} :
    store.hasPair source destination = false ↔
      ∀ edge ∈ store.relationships, ¬(edge.source = source ∧ edge.destination = destination) := by
  simp [hasPair]

/-- Where a number names one edge, edges of one number are the same. -/
theorem edge_eq_of_id_eq {store : Store}
    (hids : store.relationships.Pairwise fun left right => left.id ≠ right.id)
    {edge other : Relationship} (hedge : edge ∈ store.relationships)
    (hother : other ∈ store.relationships) (hid : other.id = edge.id) : other = edge := by
  have hnodup : (store.relationships.map Relationship.id).Nodup := List.pairwise_map.2 hids
  exact List.inj_on_of_nodup_map hnodup hother hedge hid

/-- Where a number names one edge, the numbers of some edges name these edges alone. -/
theorem contains_id_filter {store : Store}
    (hids : store.relationships.Pairwise fun left right => left.id ≠ right.id)
    (chosen : Relationship → Bool) {edge : Relationship} (hedge : edge ∈ store.relationships) :
    ((store.relationships.filter chosen).map Relationship.id).contains edge.id = chosen edge := by
  rw [Bool.eq_iff_iff, List.contains_iff_mem, List.mem_map]
  constructor
  · rintro ⟨other, hother, hid⟩
    obtain ⟨hstored, hchosen⟩ := List.mem_filter.1 hother
    rwa [← edge_eq_of_id_eq hids hedge hstored hid]
  · intro hchosen
    exact ⟨edge, List.mem_filter.2 ⟨hedge, hchosen⟩, rfl⟩

/-! ## The edges of a record -/

/-- The edges of one number are not before each other. -/
theorem before_eq_false_iff {left right : Relationship} :
    left.before right = false ∧ right.before left = false ↔ left.id = right.id := by
  simp only [Relationship.before, decide_eq_false_iff_not]
  omega

theorem mem_of_mem_edgesTouching {store : Store} {stub : Stub} {edge : Relationship}
    (hedge : edge ∈ store.edgesTouching stub) :
    edge ∈ store.relationships ∧ edge.touches stub = true := by
  rw [Relationship.touches, Bool.or_eq_true]
  rcases List.mem_append.1 (Ordered.mem_of_mem_ofList hedge) with hsource | hdestination
  · obtain ⟨hstored, hend⟩ := List.mem_filter.1 hsource
    exact ⟨hstored, .inr hend⟩
  · obtain ⟨hstored, hend⟩ := List.mem_filter.1 hdestination
    exact ⟨hstored, .inl hend⟩

/-- The number of every edge that touches a record is found. -/
theorem exists_edgesTouching {store : Store} {stub : Stub} {edge : Relationship}
    (hedge : edge ∈ store.relationships) (htouches : edge.touches stub = true) :
    ∃ found ∈ store.edgesTouching stub, found.id = edge.id := by
  have hends : edge ∈ store.relatedSources stub ++ store.relatedDestinations stub := by
    rw [Relationship.touches, Bool.or_eq_true] at htouches
    rw [List.mem_append]
    rcases htouches with hsource | hdestination
    · exact .inr (List.mem_filter.2 ⟨hedge, hsource⟩)
    · exact .inl (List.mem_filter.2 ⟨hedge, hdestination⟩)
  have hirrefl : ∀ edge : Relationship, edge.before edge = false := by simp [Relationship.before]
  obtain ⟨found, hfound, hkey⟩ := Ordered.exists_mem_ofList hirrefl hends
  exact ⟨found, hfound, (before_eq_false_iff.1 hkey).symm⟩

/-! ## Storing rows -/

/-- A row that is new to all others keeps the rows apart. -/
theorem pairwise_of_perm_cons {α : Type} {apart : α → α → Prop} {item : α} {items after : List α}
    (hperm : after.Perm (item :: items)) (hsymm : ∀ {left right}, apart left right →
      apart right left) (hnew : ∀ other ∈ items, apart item other)
    (hitems : items.Pairwise apart) : after.Pairwise apart := by
  rw [hperm.pairwise_iff hsymm]
  exact List.pairwise_cons.2 ⟨hnew, hitems⟩

theorem insertObject_eq_ok_iff {store after : Store} {object : Object} :
    store.insertObject object = .ok after ↔
      isBlankType object.type = false ∧ store.hasObject object.stub = false ∧
        after = { store with
          objects := Ordered.insert Object.before object store.objects } := by
  rw [insertObject]
  cases isBlankType object.type with
  | true => simp
  | false =>
    cases store.hasObject object.stub with
    | true => simp
    | false => simp [eq_comm]

/-- A new record joins the records. -/
theorem objects_insert_perm {store : Store} {object : Object}
    (hfresh : store.hasObject object.stub = false) :
    (Ordered.insert Object.before object store.objects).Perm (object :: store.objects) := by
  apply Ordered.insert_perm
  intro other hother
  have hne : object.stub ≠ other.stub := (hasObject_eq_false_iff.1 hfresh other hother).symm
  cases hbefore : object.before other with
  | true => exact .inl rfl
  | false =>
    cases hafter : other.before object with
    | true => exact .inr rfl
    | false => exact absurd (Stub.eq_of_not_before hbefore hafter) hne

theorem insertRelationship_eq_ok_iff {store after : Store} {row : NewEdge}
    {edge : Relationship} :
    store.insertRelationship row = .ok (edge, after) ↔
      ∃ id, row.id.or (freshId? store.lastRelationshipId) = some id ∧
        store.hasRelationship id = false ∧
        store.hasPair row.source row.destination = false ∧
        (∀ parent, row.parentId = some parent →
          parent = id ∨ store.hasRelationship parent = true) ∧
        (∀ run, row.automappingId = some run → store.hasAutomapping run = true) ∧
        edge = row.edge id ∧
        after = { store with
          relationships := Ordered.insert Relationship.before edge store.relationships
          lastRelationshipId := max store.lastRelationshipId id } := by
  rw [insertRelationship]
  cases row.id.or (freshId? store.lastRelationshipId) with
  | none => simp
  | some id =>
    simp only [Option.some.injEq]
    constructor
    · intro hstored
      split at hstored
      · cases hstored
      · next hfree =>
        split at hstored
        · next hreferences =>
          cases hstored
          simp only [Bool.or_eq_true, not_or, Bool.not_eq_true] at hfree
          simp only [Bool.and_eq_true, Option.all_eq_true, Bool.or_eq_true, beq_iff_eq]
            at hreferences
          exact ⟨id, rfl, hfree.1, hfree.2, hreferences.1, hreferences.2, rfl, rfl⟩
        · cases hstored
    · intro hrow
      obtain ⟨_, rfl, hid, hpair, hparent, hrun, rfl, rfl⟩ := hrow
      have hparents : row.parentId.all
          (fun parent => parent == id || store.hasRelationship parent) = true := by
        simpa [Option.all_eq_true] using hparent
      have hruns : row.automappingId.all store.hasAutomapping = true := by
        simpa [Option.all_eq_true] using hrun
      simp [hid, hpair, hparents, hruns]

/-- A new edge joins the edges. -/
theorem relationships_insert_perm {store : Store} {edge : Relationship}
    (hfresh : store.hasRelationship edge.id = false) :
    (Ordered.insert Relationship.before edge store.relationships).Perm
      (edge :: store.relationships) := by
  apply Ordered.insert_perm
  intro other hother
  have hne : other.id ≠ edge.id := hasRelationship_eq_false_iff.1 hfresh other hother
  simp only [Relationship.before, decide_eq_true_eq]
  omega

theorem fresh_of_insertRelationship {store after : Store} {row : NewEdge} {edge : Relationship}
    (hstored : store.insertRelationship row = .ok (edge, after)) :
    store.hasRelationship edge.id = false := by
  obtain ⟨id, _, hfresh, _, _, _, hedge, _⟩ := insertRelationship_eq_ok_iff.1 hstored
  rw [hedge]
  exact hfresh

/-- The numbers in use after an edge was stored. -/
theorem hasRelationship_of_insertRelationship {store after : Store} {row : NewEdge}
    {edge : Relationship} (hstored : store.insertRelationship row = .ok (edge, after)) {id : Int} :
    after.hasRelationship id = true ↔ id = edge.id ∨ store.hasRelationship id = true := by
  have hperm := relationships_insert_perm (fresh_of_insertRelationship hstored)
  obtain ⟨_, _, _, _, _, _, _, hafter⟩ := insertRelationship_eq_ok_iff.1 hstored
  rw [hafter, hasRelationship_iff, hasRelationship_iff]
  simp only [hperm.mem_iff, List.mem_cons, exists_eq_or_imp]
  rw [eq_comm]

theorem freshId?_eq_some_iff {last id : Int} :
    freshId? last = some id ↔ last < Decimal.maxId ∧ id = last + 1 := by
  rw [freshId?]
  split
  · next hlast => simp [hlast, eq_comm]
  · next hlast => simp [hlast]

theorem freshId?_eq_none_iff {last : Int} : freshId? last = none ↔ Decimal.maxId ≤ last := by
  rw [freshId?]
  split
  · next hlast => simpa using hlast
  · next hlast => simpa using hlast

theorem insertAutomapping_eq_ok_iff {store after : Store} {row : NewAutomapping}
    {run : Automapping} :
    store.insertAutomapping row = .ok (run, after) ↔
      ∃ id, freshId? store.lastAutomappingId = some id ∧
        (∀ trigger, row.relationshipId = some trigger →
          store.hasRelationship trigger = true) ∧
        run = row.run id ∧
        after = { store with
          automappings := Ordered.insert Automapping.before run store.automappings
          lastAutomappingId := max store.lastAutomappingId id } := by
  rw [insertAutomapping]
  cases freshId? store.lastAutomappingId with
  | none => simp
  | some id =>
    simp only [Option.some.injEq]
    constructor
    · intro hstored
      split at hstored
      · next htrigger =>
        cases hstored
        simp only [Option.all_eq_true] at htrigger
        exact ⟨id, rfl, htrigger, rfl, rfl⟩
      · cases hstored
    · intro hrow
      obtain ⟨_, rfl, htrigger, rfl, rfl⟩ := hrow
      have htriggers : row.relationshipId.all store.hasRelationship = true := by
        simpa [Option.all_eq_true] using htrigger
      simp [htriggers]

end Store

/-- The edge leads from one of two records to the other, in either direction. -/
def Relationship.Joins (edge : Relationship) (left right : Stub) : Prop :=
  (edge.source = left ∧ edge.destination = right) ∨
    (edge.source = right ∧ edge.destination = left)

instance (edge : Relationship) (left right : Stub) : Decidable (edge.Joins left right) :=
  inferInstanceAs (Decidable (_ ∨ _))

/-! ## Removing edges -/

/-- The edge with its parent forgotten where it is one of `gone`. -/
def Relationship.forgetting (edge : Relationship) (gone : List Int) : Relationship :=
  { edge with parentId := edge.parentId.filter (fun id => !gone.contains id) }

/-- The run with its trigger forgotten where it is one of `gone`. -/
def Automapping.forgetting (run : Automapping) (gone : List Int) : Automapping :=
  { run with relationshipId := run.relationshipId.filter (fun id => !gone.contains id) }

namespace Relationship

@[simp]
theorem forgetting_id (edge : Relationship) (gone : List Int) :
    (edge.forgetting gone).id = edge.id := rfl

@[simp]
theorem forgetting_source (edge : Relationship) (gone : List Int) :
    (edge.forgetting gone).source = edge.source := rfl

@[simp]
theorem forgetting_destination (edge : Relationship) (gone : List Int) :
    (edge.forgetting gone).destination = edge.destination := rfl

@[simp]
theorem forgetting_endStub (edge : Relationship) (gone : List Int) (edgeEnd : EdgeEnd) :
    (edge.forgetting gone).endStub edgeEnd = edge.endStub edgeEnd := by
  cases edgeEnd <;> rfl

@[simp]
theorem forgetting_automappingId (edge : Relationship) (gone : List Int) :
    (edge.forgetting gone).automappingId = edge.automappingId := rfl

theorem forgetting_parentId_eq_some_iff {edge : Relationship} {gone : List Int} {id : Int} :
    (edge.forgetting gone).parentId = some id ↔ edge.parentId = some id ∧ id ∉ gone := by
  simp [forgetting, Option.filter_eq_some_iff]

@[simp]
theorem forgetting_nil (edge : Relationship) : edge.forgetting [] = edge := by
  obtain ⟨id, source, destination, parentId⟩ := edge
  cases parentId <;> rfl

theorem forgetting_forgetting (edge : Relationship) (gone more : List Int) :
    (edge.forgetting gone).forgetting more = edge.forgetting (gone ++ more) := by
  simp [forgetting, Option.filter_filter]

/-- Forgetting one edge is what the removal of that edge does to the others. -/
theorem clearParent_eq_forgetting (id : Int) (edge : Relationship) :
    Store.clearParent id edge = edge.forgetting [id] := by
  obtain ⟨number, source, destination, parentId⟩ := edge
  cases parentId with
  | none => rfl
  | some parent =>
    by_cases hparent : parent = id
    · simp [Store.clearParent, forgetting, Option.filter, hparent]
    · simp [Store.clearParent, forgetting, Option.filter, hparent]

end Relationship

namespace Automapping

@[simp]
theorem forgetting_id (run : Automapping) (gone : List Int) :
    (run.forgetting gone).id = run.id := rfl

theorem forgetting_relationshipId_eq_some_iff {run : Automapping} {gone : List Int} {id : Int} :
    (run.forgetting gone).relationshipId = some id ↔
      run.relationshipId = some id ∧ id ∉ gone := by
  simp [forgetting, Option.filter_eq_some_iff]

@[simp]
theorem forgetting_nil (run : Automapping) : run.forgetting [] = run := by
  obtain ⟨id, relationshipId⟩ := run
  cases relationshipId <;> rfl

theorem forgetting_forgetting (run : Automapping) (gone more : List Int) :
    (run.forgetting gone).forgetting more = run.forgetting (gone ++ more) := by
  simp [forgetting, Option.filter_filter]

theorem clearTrigger_eq_forgetting (id : Int) (run : Automapping) :
    Store.clearTrigger id run = run.forgetting [id] := by
  obtain ⟨number, relationshipId⟩ := run
  cases relationshipId with
  | none => rfl
  | some trigger =>
    by_cases htrigger : trigger = id
    · simp [Store.clearTrigger, forgetting, Option.filter, htrigger]
    · simp [Store.clearTrigger, forgetting, Option.filter, htrigger]

end Automapping

namespace Store

/-- The store without the edges of some numbers, every reference to them forgotten. -/
def withoutEdges (store : Store) (gone : List Int) : Store :=
  { store with
    relationships := (store.relationships.filter (fun edge => !gone.contains edge.id)).map
      (fun edge => edge.forgetting gone)
    automappings := store.automappings.map (fun run => run.forgetting gone) }

theorem mem_withoutEdges_iff {store : Store} {gone : List Int} {edge : Relationship} :
    edge ∈ (store.withoutEdges gone).relationships ↔
      ∃ old ∈ store.relationships, old.id ∉ gone ∧ old.forgetting gone = edge := by
  simp [withoutEdges, and_assoc]

theorem hasRelationship_withoutEdges_iff {store : Store} {gone : List Int} {id : Int} :
    (store.withoutEdges gone).hasRelationship id = true ↔
      store.hasRelationship id = true ∧ id ∉ gone := by
  simp only [hasRelationship_iff, mem_withoutEdges_iff]
  constructor
  · intro hstored
    obtain ⟨_, ⟨old, hold, hkept, rfl⟩, rfl⟩ := hstored
    exact ⟨⟨old, hold, rfl⟩, hkept⟩
  · intro hstored
    obtain ⟨⟨old, hold, rfl⟩, hkept⟩ := hstored
    exact ⟨_, ⟨old, hold, hkept, rfl⟩, rfl⟩

@[simp]
theorem hasAutomapping_withoutEdges (store : Store) (gone : List Int) (id : Int) :
    (store.withoutEdges gone).hasAutomapping id = store.hasAutomapping id := by
  simp [hasAutomapping, withoutEdges, Function.comp_def]

@[simp]
theorem withoutEdges_nil (store : Store) : store.withoutEdges [] = store := by
  have hfilter : store.relationships.filter (fun _ => true) = store.relationships :=
    List.filter_eq_self.2 fun _ _ => rfl
  simp [withoutEdges, hfilter]

theorem withoutEdges_withoutEdges (store : Store) (gone more : List Int) :
    (store.withoutEdges gone).withoutEdges more = store.withoutEdges (gone ++ more) := by
  have hkept : ∀ id, (!(gone ++ more).contains id) = (!gone.contains id && !more.contains id) := by
    intro id
    rw [List.contains_append, Bool.not_or]
  simp only [withoutEdges, List.filter_map, List.map_map, List.filter_filter,
    Function.comp_def, Relationship.forgetting_id, Relationship.forgetting_forgetting,
    Automapping.forgetting_forgetting, hkept, Bool.and_comm]

theorem removeRelationship_eq_withoutEdges (store : Store) (id : Int) :
    store.removeRelationship id = store.withoutEdges [id] := by
  have hparent : clearParent id = fun edge => edge.forgetting [id] :=
    funext (Relationship.clearParent_eq_forgetting id)
  have htrigger : clearTrigger id = fun run => run.forgetting [id] :=
    funext (Automapping.clearTrigger_eq_forgetting id)
  simp only [removeRelationship, withoutEdges, hparent, htrigger]
  congr 3
  funext edge
  rw [Bool.eq_iff_iff]
  simp

/-- Removing edges one after the other removes them all at once. -/
theorem removeRelationships_eq_withoutEdges (store : Store) (edges : List Relationship) :
    store.removeRelationships edges = store.withoutEdges (edges.map Relationship.id) := by
  induction edges generalizing store with
  | nil => simp [removeRelationships]
  | cons edge rest ih =>
    calc store.removeRelationships (edge :: rest)
        = (store.removeRelationship edge.id).removeRelationships rest := rfl
      _ = (store.removeRelationship edge.id).withoutEdges (rest.map Relationship.id) := ih _
      _ = (store.withoutEdges [edge.id]).withoutEdges (rest.map Relationship.id) := by
        rw [removeRelationship_eq_withoutEdges]
      _ = store.withoutEdges ((edge :: rest).map Relationship.id) :=
        withoutEdges_withoutEdges store [edge.id] _

end Store

end RecordGraph
