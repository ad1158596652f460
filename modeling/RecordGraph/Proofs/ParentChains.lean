import RecordGraph.Proofs.DerivedLinks

/-!
# Chains of parents

A parent is an edge that is stored before its child, with one exception: an edge is stored together
with its references, and the check that its parent is stored comes after that.  So a request that
guesses the number the new edge is about to get makes an edge that is its own parent.  The way from
an edge to its parent, from there to the next parent and so on ends unless it comes to such an edge.
-/

namespace RecordGraph

namespace Store

/-- The parent of the edge of a number. -/
def parentOf? (store : Store) (id : Int) : Option Int :=
  (store.relationship? id).bind Relationship.parentId

/-- What is reached from an edge by some steps, each from an edge to its parent. -/
def ancestor? (store : Store) : Nat → Int → Option Int
  | 0, id => some id
  | steps + 1, id => (store.parentOf? id).bind (store.ancestor? steps)

/-- The way from an edge to its parent, to the parent of that and so on comes to an end. -/
def ChainEnds (store : Store) (id : Int) : Prop := ∃ steps, store.ancestor? steps id = none

def OwnParent (store : Store) (id : Int) : Prop := store.parentOf? id = some id

instance (store : Store) (id : Int) : Decidable (store.OwnParent id) :=
  inferInstanceAs (Decidable (store.parentOf? id = some id))

/-- Parents are older edges, so that every chain of parents ends and no edge is among its own
children. -/
structure ParentsOlder (store : Store) : Prop where
  older : ∀ edge ∈ store.relationships, ∀ parent, edge.parentId = some parent →
    store.hasRelationship parent = true ∧ parent < edge.id
  ends : ∀ id, store.ChainEnds id
  children : ∀ id, ∀ child ∈ store.childrenOf id, child.id ≠ id

variable {store after : Store} {id parent : Int}

theorem Integrity.parentOf?_eq_some_iff (hintegrity : store.Integrity) :
    store.parentOf? id = some parent ↔
      ∃ edge ∈ store.relationships, edge.id = id ∧ edge.parentId = some parent := by
  have hnodup : (store.relationships.map Relationship.id).Nodup :=
    List.pairwise_map.2 hintegrity.ids
  simp only [parentOf?, Option.bind_eq_some_iff, relationship?, find?_key_eq_some_iff hnodup,
    and_assoc]

theorem mem_childrenOf_iff {child : Relationship} :
    child ∈ store.childrenOf id ↔ child ∈ store.relationships ∧ child.parentId = some id := by
  simp [childrenOf]

/-- An edge is among its own children if it is its own parent. -/
theorem Integrity.child_of_itself_iff (hintegrity : store.Integrity) :
    (∃ child ∈ store.childrenOf id, child.id = id) ↔ store.OwnParent id := by
  rw [OwnParent, hintegrity.parentOf?_eq_some_iff]
  simp only [mem_childrenOf_iff, and_assoc]
  exact exists_congr fun child => and_congr_right fun _ => and_comm

/-! ## Ways up -/

theorem ancestor?_add (store : Store) (first second : Nat) (id : Int) :
    store.ancestor? (first + second) id =
      (store.ancestor? first id).bind (store.ancestor? second) := by
  induction first generalizing id with
  | zero => rw [Nat.zero_add, ancestor?, Option.bind_some]
  | succ first ih =>
    rw [Nat.add_right_comm, ancestor?, ancestor?, Option.bind_assoc]
    exact congrArg _ (funext ih)

/-- From an edge that is its own parent every way leads to that edge. -/
theorem OwnParent.ancestor? (hown : store.OwnParent id) (steps : Nat) :
    store.ancestor? steps id = some id := by
  induction steps with
  | zero => rfl
  | succ steps ih => rw [Store.ancestor?, hown, Option.bind_some, ih]

/-- A way that comes to an edge that is its own parent does not end. -/
theorem not_chainEnds_of_ownParent {steps : Nat} {own : Int}
    (hreached : store.ancestor? steps id = some own) (hown : store.OwnParent own) :
    ¬store.ChainEnds id := by
  intro hends
  obtain ⟨length, hlength⟩ := hends
  have hstays : store.ancestor? (steps + length) id = some own := by
    rw [ancestor?_add, hreached, Option.bind_some, hown.ancestor?]
  rw [Nat.add_comm, ancestor?_add, hlength] at hstays
  cases hstays

/-! ## Numbers of parents -/

/-- Numbers are positive, and no parent has a greater number than its child. -/
structure ParentsOrdered (store : Store) : Prop where
  last : 0 ≤ store.lastRelationshipId
  positive : ∀ edge ∈ store.relationships, 0 < edge.id
  parents : ∀ edge ∈ store.relationships, ∀ parent, edge.parentId = some parent →
    parent ≤ edge.id

namespace ParentsOrdered

theorem empty : ParentsOrdered Store.empty where
  last := Int.le_refl 0
  positive := by simp [Store.empty]
  parents := by simp [Store.empty]

/-- A new edge has a greater number than any that its request can name, but for its own. -/
theorem insertRelationship {request : Graph.Request} {actor : Actor} {now : Int}
    {source destination : Stub} {edge : Relationship} (hnumbered : store.Numbered)
    (hordered : store.ParentsOrdered)
    (hstored : store.insertRelationship (request.row actor now source destination) =
      .ok (edge, after)) : after.ParentsOrdered := by
  obtain ⟨hid, hlast⟩ := number_of_insertRelationship hstored
  have hbefore := hordered.last
  obtain ⟨_, _, _, _, hparent, _, rfl, rfl⟩ := insertRelationship_eq_ok_iff.1 hstored
  refine ⟨by omega, ?_, ?_⟩
  · intro other hother
    rcases Ordered.mem_of_mem_insert hother with rfl | hold
    · omega
    · exact hordered.positive other hold
  · intro other hother named hnames
    rcases Ordered.mem_of_mem_insert hother with rfl | hold
    · rcases hparent named hnames with rfl | hknown
      · exact Int.le_refl _
      · obtain ⟨known, hmem, rfl⟩ := hasRelationship_iff.1 hknown
        have hbound := hnumbered.edges known hmem
        omega
    · exact hordered.parents other hold named hnames

theorem withoutEdges (hordered : store.ParentsOrdered) (gone : List Int) :
    (store.withoutEdges gone).ParentsOrdered := by
  refine ⟨hordered.last, ?_, ?_⟩
  · intro edge hedge
    obtain ⟨old, hold, _, rfl⟩ := mem_withoutEdges_iff.1 hedge
    exact hordered.positive old hold
  · intro edge hedge named hnames
    obtain ⟨old, hold, _, rfl⟩ := mem_withoutEdges_iff.1 hedge
    exact hordered.parents old hold named (Relationship.forgetting_parentId_eq_some_iff.1 hnames).1

theorem stable : Stable fun store => store.Numbered ∧ store.ParentsOrdered where
  record hstore hcheck hstored := by
    refine ⟨Numbered.stable.record hstore.1 hcheck hstored, ?_⟩
    obtain ⟨_, _, rfl⟩ := insertObject_eq_ok_iff.1 hstored
    exact ⟨hstore.2.last, hstore.2.positive, hstore.2.parents⟩
  run hstore hstored := by
    refine ⟨Numbered.stable.run hstore.1 hstored, ?_⟩
    obtain ⟨_, _, _, _, rfl⟩ := insertAutomapping_eq_ok_iff.1 hstored
    exact ⟨hstore.2.last, hstore.2.positive, hstore.2.parents⟩
  edge hstore hjoinable hstored :=
    ⟨Numbered.stable.edge hstore.1 hjoinable hstored,
      insertRelationship hstore.1 hstore.2 hstored⟩
  edgesGone _ gone hstore := ⟨hstore.1.withoutEdges gone, hstore.2.withoutEdges gone⟩
  recordGone store stub hstore huntouched :=
    ⟨Numbered.stable.recordGone store stub hstore.1 huntouched,
      ⟨hstore.2.last, hstore.2.positive, hstore.2.parents⟩⟩

/-- Numbers fall along a way, so that it ends or comes to an edge that is its own parent. -/
theorem chainEnds (hintegrity : store.Integrity) (hordered : store.ParentsOrdered)
    (hnone : ∀ steps own, store.ancestor? steps id = some own → ¬store.OwnParent own) :
    store.ChainEnds id := by
  generalize hheight : id.toNat = height
  induction height using Nat.strongRecOn generalizing id with
  | ind height ih =>
    cases hparent : store.parentOf? id with
    | none => exact ⟨1, by rw [Store.ancestor?, hparent, Option.bind_none]⟩
    | some parent =>
      have hother : parent ≠ id := by
        rintro rfl
        exact hnone 0 parent rfl hparent
      obtain ⟨edge, hedge, rfl, hnames⟩ := hintegrity.parentOf?_eq_some_iff.1 hparent
      obtain ⟨known, hknown, rfl⟩ := hasRelationship_iff.1
        (hintegrity.parents edge hedge parent hnames)
      have hpositive := hordered.positive known hknown
      have hle := hordered.parents edge hedge known.id hnames
      have hup : ∀ steps, store.ancestor? (steps + 1) edge.id =
          store.ancestor? steps known.id := by
        intro steps
        rw [Store.ancestor?, hparent, Option.bind_some]
      obtain ⟨length, hlength⟩ : store.ChainEnds known.id := by
        refine ih known.id.toNat (by omega) ?_ rfl
        intro steps own hreached
        rw [← hup] at hreached
        exact hnone (steps + 1) own hreached
      exact ⟨length + 1, (hup length).trans hlength⟩

end ParentsOrdered

end Store

namespace GraphCall

theorem parentsOrdered_storeAfter (calls : List GraphCall) :
    (storeAfter calls).ParentsOrdered :=
  (Store.ParentsOrdered.stable.run_empty
    ⟨Store.Numbered.empty, Store.ParentsOrdered.empty⟩ calls).2

/-- One of the calls made the edge of the number and asked for that number as its parent. -/
def MadeOwnParent (calls : List GraphCall) (id : Int) : Prop :=
  ∃ earlier call later request made, calls = earlier ++ call :: later ∧
    Creates earlier call request made ∧ made.id = id ∧ request.parentId = some id

variable {calls : List GraphCall} {id : Int}

/-- The edges that are their own parents are those that were made so, and none becomes so later. -/
theorem ownParent_iff :
    (storeAfter calls).OwnParent id ↔
      (storeAfter calls).hasRelationship id = true ∧ MadeOwnParent calls id := by
  rw [Store.OwnParent, (integrity_storeAfter calls).parentOf?_eq_some_iff]
  constructor
  · intro hown
    obtain ⟨edge, hedge, hid, hparent⟩ := hown
    refine ⟨Store.hasRelationship_iff.2 ⟨edge, hedge, hid⟩, ?_⟩
    obtain ⟨earlier, call, later, made, rfl, hgains, rfl⟩ := exists_gains calls hedge
    have hmade : made.parentId = some id := (Store.remembered_eq_some_iff.1 hparent).1
    have hmadeId : made.id = id := hid
    rcases creates_or_derives_of_gains hgains with ⟨request, hcreates⟩ | ⟨parent, hderives⟩
    · exact ⟨earlier, call, later, request, made, rfl, hcreates, hmadeId,
        hcreates.stored.2.1.symm.trans hmade⟩
    · -- What sets off a derivation is stored before, when the new number is not in use.
      obtain ⟨old, hold, hnumber⟩ := Store.hasRelationship_iff.1 hderives.parent_stored
      rw [hderives.stored.2.1, ← hmadeId] at hmade
      exact absurd (hnumber.trans (Option.some.inj hmade)) (hgains.2 old hold)
  · intro hown
    obtain ⟨hstored, earlier, call, later, request, made, rfl, hcreates, rfl, hasked⟩ := hown
    obtain ⟨edge, hedge, hid⟩ := Store.hasRelationship_iff.1 hstored
    refine ⟨edge, hedge, hid, ?_⟩
    obtain ⟨hmade, hparent, _⟩ := hcreates.stored
    rw [made_kept hmade hedge hid, Relationship.asOf, hparent, hasked]
    exact Store.remembered_eq_some_iff.2 ⟨rfl, hstored⟩

/-- A parent is an older edge, or the edge was made its own parent. -/
theorem parent_older_or_own {edge : Relationship}
    (hedge : edge ∈ (storeAfter calls).relationships) {parent : Int}
    (hparent : edge.parentId = some parent) :
    parent < edge.id ∨ parent = edge.id ∧ MadeOwnParent calls edge.id := by
  rcases Int.lt_or_eq_of_le
    ((parentsOrdered_storeAfter calls).parents edge hedge parent hparent) with hlt | rfl
  · exact .inl hlt
  · have hown : (storeAfter calls).OwnParent edge.id :=
      (integrity_storeAfter calls).parentOf?_eq_some_iff.2 ⟨edge, hedge, rfl, hparent⟩
    exact .inr ⟨rfl, (ownParent_iff.1 hown).2⟩

theorem chainEnds_iff :
    (storeAfter calls).ChainEnds id ↔
      ∀ steps ancestor, (storeAfter calls).ancestor? steps id = some ancestor →
        ¬(storeAfter calls).OwnParent ancestor := by
  constructor
  · intro hends steps ancestor hreached hown
    exact Store.not_chainEnds_of_ownParent hreached hown hends
  · exact (parentsOrdered_storeAfter calls).chainEnds (integrity_storeAfter calls)

theorem parentsOlder_iff :
    (storeAfter calls).ParentsOlder ↔
      ∀ id, (storeAfter calls).hasRelationship id = true → ¬MadeOwnParent calls id := by
  constructor
  · intro holder id hstored hmade
    exact chainEnds_iff.1 (holder.ends id) 0 id rfl (ownParent_iff.2 ⟨hstored, hmade⟩)
  · intro hnone
    have hnotOwn : ∀ id, ¬(storeAfter calls).OwnParent id := by
      intro id hown
      obtain ⟨hstored, hmade⟩ := ownParent_iff.1 hown
      exact hnone id hstored hmade
    refine ⟨?_, ?_, ?_⟩
    · intro edge hedge parent hparent
      refine ⟨(integrity_storeAfter calls).parents edge hedge parent hparent, ?_⟩
      rcases parent_older_or_own hedge hparent with hlt | ⟨_, hmade⟩
      · exact hlt
      · exact absurd hmade (hnone edge.id (Store.hasRelationship_iff.2 ⟨edge, hedge, rfl⟩))
    · intro id
      exact chainEnds_iff.2 fun _ ancestor _ => hnotOwn ancestor
    · intro id child hchild hid
      exact hnotOwn id ((integrity_storeAfter calls).child_of_itself_iff.1 ⟨child, hchild, hid⟩)

/-- How the parents of edges are linked after some calls on a fresh store. -/
structure ParentChains (calls : List GraphCall) : Prop where
  /-- A parent is stored, and it is an older edge or the edge itself, which was made so. -/
  parents : ∀ edge ∈ (storeAfter calls).relationships, ∀ parent, edge.parentId = some parent →
    (storeAfter calls).hasRelationship parent = true ∧
      (parent < edge.id ∨ parent = edge.id ∧ MadeOwnParent calls edge.id)
  /-- A stored edge is its own parent just when it was made so. -/
  own : ∀ id, (storeAfter calls).OwnParent id ↔
    (storeAfter calls).hasRelationship id = true ∧ MadeOwnParent calls id
  /-- A chain of parents ends unless it comes to an edge that is its own parent. -/
  ends : ∀ id, (storeAfter calls).ChainEnds id ↔
    ∀ steps ancestor, (storeAfter calls).ancestor? steps id = some ancestor →
      ¬(storeAfter calls).OwnParent ancestor
  /-- An edge is among its own children just when it is its own parent. -/
  children : ∀ id, (∃ child ∈ (storeAfter calls).childrenOf id, child.id = id) ↔
    (storeAfter calls).OwnParent id
  /-- All is well as long as no edge is stored that was made its own parent. -/
  older : (storeAfter calls).ParentsOlder ↔
    ∀ id, (storeAfter calls).hasRelationship id = true → ¬MadeOwnParent calls id

/-- After any calls on a fresh store, whoever makes them and whether they succeed or not: every
parent is an older stored edge, and every chain of parents ends, but for the edges that were made
with their own numbers as parents and the chains that come to one of these. -/
theorem parent_chains_run (calls : List GraphCall) : ParentChains calls where
  parents edge hedge parent hparent :=
    ⟨(integrity_storeAfter calls).parents edge hedge parent hparent,
      parent_older_or_own hedge hparent⟩
  own _ := ownParent_iff
  ends _ := chainEnds_iff
  children _ := (integrity_storeAfter calls).child_of_itself_iff
  older := parentsOlder_iff

/-- The first edge ever is asked for as the parent of the first edge. -/
def guessedParent : List GraphCall :=
  let registry := TypeRegistry.builtin
  let objective := Object.draft "Objective" 3 "o"
  let issue := Object.draft "Issue" 4 "i"
  [.insertObject registry 0 objective, .insertObject registry 0 issue,
    .create registry ⟨1, false⟩ 0
      { source := objective, destination := issue, parentId := some 1 }]

/-- The edge is its own parent and its own child, and the chain of its parents does not end. -/
theorem guessed_parent_is_itself :
    (storeAfter guessedParent).relationships.map (fun edge => (edge.id, edge.parentId)) =
        [(1, some 1)] ∧
      (∃ child ∈ (storeAfter guessedParent).childrenOf 1, child.id = 1) ∧
      ¬(storeAfter guessedParent).ChainEnds 1 ∧ MadeOwnParent guessedParent 1 := by
  have hchains := parent_chains_run guessedParent
  have hown : (storeAfter guessedParent).OwnParent 1 := by decide +kernel
  refine ⟨by decide +kernel, (hchains.children 1).2 hown, ?_, ((hchains.own 1).1 hown).2⟩
  intro hends
  exact (hchains.ends 1).1 hends 0 1 rfl hown

end GraphCall

end RecordGraph
