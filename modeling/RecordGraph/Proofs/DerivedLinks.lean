import RecordGraph.Proofs.RowHistory

/-!
# Derived edges and their runs

A derived edge names its parent and the run that made it, and the run names the edge that set it
off.  Both references lead to one edge for as long as that edge is stored, and both are forgotten
when it is removed, whether it is removed by itself or together with a record.  No run makes two
edges.
-/

namespace RecordGraph.GraphCall

/-- The call does not itself ask for an edge of a run; only derivations make such edges. -/
def NamesNoRun : GraphCall → Prop
  | create _ _ _ request => request.automappingId = none
  | _ => True

/-- After the earlier calls, the call derives the edge `made` from `parent`. -/
def Derives (earlier : List GraphCall) (call : GraphCall) (parent made : Relationship) : Prop :=
  ∃ registry actor now source destination,
    call = createDerived registry actor now parent source destination ∧
      (Graph.createDerived registry actor now parent source destination (run earlier {})).result =
        .ok (some made)

variable {earlier later calls : List GraphCall} {call : GraphCall} {parent made : Relationship}

/-- What a derivation has stored when it returns. -/
theorem Derives.stored (hderives : Derives earlier call parent made) :
    made ∈ (storeAfter (earlier ++ [call])).relationships ∧ made.parentId = some parent.id ∧
      ∃ run ∈ (storeAfter (earlier ++ [call])).automappings,
        made.automappingId = some run.id ∧ run.relationshipId = some parent.id ∧
          (storeAfter earlier).lastAutomappingId < run.id := by
  obtain ⟨registry, actor, now, source, destination, rfl, hresult⟩ := hderives
  obtain ⟨after, hchanged, hafter⟩ := (Graph.realizes_createDerived registry actor now parent
    source destination).exists_of_ok hresult
  rw [storeAfter_concat, perform, hafter]
  exact stored_of_createDerived (numbered_storeAfter earlier) hchanged

/-- An edge that is not stored yet does not set off a derivation. -/
theorem Derives.parent_stored (hderives : Derives earlier call parent made) :
    (storeAfter earlier).hasRelationship parent.id = true := by
  obtain ⟨registry, actor, now, source, destination, rfl, hresult⟩ := hderives
  obtain ⟨_, hderived, _⟩ := (Graph.realizes_createDerived registry actor now parent source
    destination).exists_of_ok hresult
  rcases Transition.createDerived_eq_ok_iff.1 hderived with ⟨_, _, hnone, _⟩ | ⟨_, _, _, hmaking⟩
  · cases hnone
  · obtain ⟨_, _, hrun, _⟩ := Transition.createFromParent_eq_ok_iff.1 hmaking
    obtain ⟨_, _, htrigger, _⟩ := Store.insertAutomapping_eq_ok_iff.1 hrun
    exact htrigger parent.id rfl

/-- The edge and its run refer to the parent, if it is stored still. -/
theorem Derives.linked (hderives : Derives earlier call parent made) {edge : Relationship}
    (hedge : edge ∈ (storeAfter (earlier ++ call :: later)).relationships)
    (hid : edge.id = made.id) :
    edge.parentId = (storeAfter (earlier ++ call :: later)).remembered (some parent.id) ∧
      ∃ run ∈ (storeAfter (earlier ++ call :: later)).automappings,
        edge.automappingId = some run.id ∧ edge.parentId = run.relationshipId := by
  obtain ⟨_, hparent, run, hrun, hnames, htrigger, _⟩ := hderives.stored
  have hstays := (continues_run (earlier ++ [call]) later).run_stays (numbered_storeAfter _) hrun
  rw [← List.append_cons] at hstays
  rw [made_kept hderives.stored.1 hedge hid, Relationship.asOf, hparent]
  refine ⟨rfl, _, hstays, hnames, ?_⟩
  rw [Automapping.asOf, htrigger]

/-- After the earlier calls, the call makes the edge `made` that the request asks for. -/
def Creates (earlier : List GraphCall) (call : GraphCall) (request : Graph.Request)
    (made : Relationship) : Prop :=
  ∃ registry actor now, call = create registry actor now request ∧
    (Graph.create registry actor now request (run earlier {})).result = .ok made

/-- The edge is stored, and its references are those that were asked for. -/
theorem Creates.stored {request : Graph.Request} (hcreates : Creates earlier call request made) :
    made ∈ (storeAfter (earlier ++ [call])).relationships ∧ made.parentId = request.parentId ∧
      made.automappingId = request.automappingId := by
  obtain ⟨registry, actor, now, rfl, hresult⟩ := hcreates
  refine ⟨created_stored earlier hresult, ?_⟩
  obtain ⟨_, hcreated, _⟩ :=
    (Graph.realizes_create registry actor now request).exists_of_ok hresult
  obtain ⟨_, _, _, hrow⟩ := Transition.create_eq_ok_iff.1 hcreated
  obtain ⟨_, _, _, _, _, _, rfl, _⟩ := Store.insertRelationship_eq_ok_iff.1 hrow
  exact ⟨rfl, rfl⟩

/-- A call that stores an edge was asked for it, or derived it. -/
theorem creates_or_derives_of_gains
    (hgains : (storeAfter earlier).Gains (storeAfter (earlier ++ [call])) made) :
    (∃ request, Creates earlier call request made) ∨ ∃ parent, Derives earlier call parent made := by
  have hcall := transition_of_gains hgains
  have hmakes :=
    (changesEdges_of_transition call (integrity_storeAfter earlier) hcall).makes_of_gains hgains
  obtain ⟨hafter, hnew⟩ := hgains
  -- The edge that the call returns is the only one that was not stored before.
  have hmade : ∀ {edge : Relationship}, (storeAfter (earlier ++ [call])).relationships.Perm
      (edge :: (storeAfter earlier).relationships) → made = edge := by
    intro edge hperm
    rcases List.mem_cons.1 (hperm.mem_iff.1 hafter) with hsame | hold
    · exact hsame
    · exact absurd rfl (hnew made hold)
  cases call with
  | insertObject registry now object => exact hmakes.elim
  | delete registry actor id => exact hmakes.elim
  | deleteObject registry actor stub => exact hmakes.elim
  | create registry actor now request =>
    obtain ⟨edge, hcreated⟩ := Transition.void_eq_ok_iff.1 hcall
    obtain ⟨_, _, hperm⟩ := edge_of_create hcreated
    refine .inl ⟨request, registry, actor, now, rfl, ?_⟩
    rw [(Graph.realizes_create registry actor now request (run earlier {})).1, hmade hperm]
    exact congrArg (Except.map Prod.fst) hcreated
  | createDerived registry actor now parent source destination =>
    obtain ⟨derived, hderived⟩ := Transition.void_eq_ok_iff.1 hcall
    rcases Transition.createDerived_eq_ok_iff.1 hderived with
      ⟨_, _, _, hsame⟩ | ⟨edge, _, rfl, hmaking⟩
    · rw [hsame] at hafter
      exact absurd rfl (hnew made hafter)
    · obtain ⟨_, _, hrecorded, hcreated⟩ := Transition.createFromParent_eq_ok_iff.1 hmaking
      obtain ⟨_, _, _, _, rfl⟩ := Store.insertAutomapping_eq_ok_iff.1 hrecorded
      obtain ⟨_, _, hperm⟩ := edge_of_create hcreated
      refine .inr ⟨parent, registry, actor, now, source, destination, rfl, ?_⟩
      rw [(Graph.realizes_createDerived registry actor now parent source destination
        (run earlier {})).1, hmade hperm]
      exact congrArg (Except.map Prod.fst) hderived

/-- Every edge of a run was derived by one of the calls. -/
theorem exists_derives (calls : List GraphCall) (hplain : ∀ call ∈ calls, call.NamesNoRun)
    {edge : Relationship} (hedge : edge ∈ (storeAfter calls).relationships) {number : Int}
    (hrun : edge.automappingId = some number) :
    ∃ earlier call later parent made, calls = earlier ++ call :: later ∧
      Derives earlier call parent made ∧ edge.id = made.id := by
  obtain ⟨earlier, call, later, made, rfl, hgains, rfl⟩ := exists_gains calls hedge
  rcases creates_or_derives_of_gains hgains with ⟨request, hcreates⟩ | ⟨parent, hderives⟩
  · -- An edge that was asked for is of no run.
    have hcall : call.NamesNoRun := hplain call (by simp)
    have hasked : request.automappingId = some number := hcreates.stored.2.2.symm.trans hrun
    obtain ⟨_, _, _, rfl, _⟩ := hcreates
    rw [hcall] at hasked
    cases hasked
  · exact ⟨earlier, call, later, parent, made, rfl, hderives, rfl⟩

/-! ## One run, one edge -/

/-- A run gets its number by the derivation of its edge. -/
theorem Derives.number_bounds (hderives : Derives earlier call parent made) {number : Int}
    (hrun : made.automappingId = some number) :
    (storeAfter earlier).lastAutomappingId < number ∧
      number ≤ (storeAfter (earlier ++ [call])).lastAutomappingId := by
  obtain ⟨_, _, run, hstored, hnames, _, hnew⟩ := hderives.stored
  rw [hnames] at hrun
  cases hrun
  exact ⟨hnew, (numbered_storeAfter (earlier ++ [call])).runs run hstored⟩

section

variable {first second after : List GraphCall} {firstCall secondCall : GraphCall}
  {firstParent firstMade secondParent secondMade : Relationship} {number : Int}

/-- No later derivation is of the same run. -/
theorem Derives.ne_append (hfirst : Derives first firstCall firstParent firstMade)
    (hsecond : Derives second secondCall secondParent secondMade)
    (hfirstRun : firstMade.automappingId = some number)
    (hsecondRun : secondMade.automappingId = some number) :
    second ≠ first ++ firstCall :: after := by
  rintro rfl
  have hfirstNumber := (hfirst.number_bounds hfirstRun).2
  have hsecondNumber := (hsecond.number_bounds hsecondRun).1
  have hgrown := (continues_run (first ++ [firstCall]) after).lastRun
  rw [← List.append_cons] at hgrown
  omega

/-- Two derivations of one run are one derivation. -/
theorem Derives.made_eq (hfirst : Derives first firstCall firstParent firstMade)
    (hsecond : Derives second secondCall secondParent secondMade)
    (hcalls : first ++ firstCall :: later = second ++ secondCall :: after)
    (hfirstRun : firstMade.automappingId = some number)
    (hsecondRun : secondMade.automappingId = some number) : firstMade = secondMade := by
  have hsame : first = second ∧ firstCall = secondCall := by
    rcases List.append_eq_append_iff.1 hcalls with
      ⟨between, hsplit, hrest⟩ | ⟨between, hsplit, hrest⟩
    · cases between with
      | nil =>
        cases hrest
        exact ⟨by simpa using hsplit.symm, rfl⟩
      | cons head tail =>
        cases hrest
        exact absurd hsplit (hfirst.ne_append hsecond hfirstRun hsecondRun)
    · cases between with
      | nil =>
        cases hrest
        exact ⟨by simpa using hsplit, rfl⟩
      | cons head tail =>
        cases hrest
        exact absurd hsplit (hsecond.ne_append hfirst hsecondRun hfirstRun)
  obtain ⟨rfl, rfl⟩ := hsame
  obtain ⟨_, _, _, _, _, rfl, hfirstResult⟩ := hfirst
  obtain ⟨_, _, _, _, _, hcall, hsecondResult⟩ := hsecond
  cases hcall
  rw [hfirstResult] at hsecondResult
  cases hsecondResult
  rfl

end

/-- How derived edges and their runs refer to their parents after some calls on a fresh store. -/
structure LinksKept (calls : List GraphCall) : Prop where
  /-- The run that an edge names is stored, and both refer to the edge from which a call derived the
  one, or to none once that edge is gone. -/
  links : ∀ edge ∈ (storeAfter calls).relationships, ∀ number, edge.automappingId = some number →
    ∃ run ∈ (storeAfter calls).automappings, run.id = number ∧ edge.parentId = run.relationshipId ∧
      ∃ earlier call later parent made, calls = earlier ++ call :: later ∧
        Derives earlier call parent made ∧ edge.id = made.id ∧
        edge.parentId =
          if (storeAfter calls).hasRelationship parent.id then some parent.id else none
  /-- A run has made one edge only. -/
  once : ∀ left ∈ (storeAfter calls).relationships, ∀ right ∈ (storeAfter calls).relationships,
    ∀ number, left.automappingId = some number → right.automappingId = some number → left = right

/-- After any calls on a fresh store that ask for derived edges by derivations only, whoever makes
them and whether they succeed or not: every edge of a run and the run refer to the same parent for
as long as it is stored and to none afterwards, and no two edges are of one run. -/
theorem derived_links_run (calls : List GraphCall) (hplain : ∀ call ∈ calls, call.NamesNoRun) :
    LinksKept calls where
  links edge hedge number hrun := by
    obtain ⟨earlier, call, later, parent, made, rfl, hderives, hid⟩ :=
      exists_derives calls hplain hedge hrun
    obtain ⟨hparent, run, hstored, hnames, hsame⟩ := hderives.linked hedge hid
    rw [hnames] at hrun
    cases hrun
    rw [Store.remembered_some] at hparent
    exact ⟨run, hstored, rfl, hsame, earlier, call, later, parent, made, rfl, hderives, hid,
      hparent⟩
  once left hleft right hright number hleftRun hrightRun := by
    obtain ⟨first, firstCall, later, _, firstMade, rfl, hfirst, hleftId⟩ :=
      exists_derives calls hplain hleft hleftRun
    obtain ⟨second, secondCall, after, _, secondMade, hsame, hsecond, hrightId⟩ :=
      exists_derives _ hplain hright hrightRun
    have hleftKept := made_kept hfirst.stored.1 hleft hleftId
    have hrightKept : right = secondMade.asOf (storeAfter (first ++ firstCall :: later)) := by
      rw [hsame] at hright ⊢
      exact made_kept hsecond.stored.1 hright hrightId
    rw [hleftKept] at hleftRun
    rw [hrightKept] at hrightRun
    rw [hleftKept, hrightKept, hfirst.made_eq hsecond hsame hleftRun hrightRun]

/-- An edge between an objective and an issue, as a caller holds it. -/
def heldEdge (id issue : Int) : Relationship :=
  { id, source := ⟨"Objective", 3⟩, destination := ⟨"Issue", issue⟩, parentId := none
    automappingId := none, external := false, modifiedBy := none, createdAt := 0
    updatedAt := 0 }

/-- An edge is derived from an edge, a further one from that, and then the first goes with its
issue. -/
def derivedChain : List GraphCall :=
  let registry := TypeRegistry.builtin
  let actor : Actor := ⟨1, false⟩
  let objective := Object.draft "Objective" 3 "o"
  let issue := fun id => Object.draft "Issue" id "i"
  [.insertObject registry 0 objective, .insertObject registry 0 (issue 4),
    .insertObject registry 0 (issue 5), .insertObject registry 0 (issue 6),
    .create registry actor 0 { source := objective, destination := issue 4 },
    .createDerived registry actor 0 (heldEdge 1 4) objective (issue 5),
    .createDerived registry actor 0 (heldEdge 2 5) objective (issue 6),
    .deleteObject registry actor ⟨"Issue", 4⟩]

/-- The second edge has no parent any more, the third still has the second. -/
theorem derived_chain_links_kept :
    (∀ call ∈ derivedChain, call.NamesNoRun) ∧
      (storeAfter derivedChain).relationships.map
          (fun edge => (edge.id, edge.parentId, edge.automappingId)) =
        [(2, none, some 1), (3, some 2, some 2)] ∧
      LinksKept derivedChain := by
  have hplain : ∀ call ∈ derivedChain, call.NamesNoRun := by
    intro call hcall
    simp only [derivedChain, List.mem_cons, List.not_mem_nil, or_false] at hcall
    rcases hcall with rfl | rfl | rfl | rfl | rfl | rfl | rfl | rfl
    · trivial
    · trivial
    · trivial
    · trivial
    · rfl
    · trivial
    · trivial
    · trivial
  exact ⟨hplain, by decide +kernel, derived_links_run derivedChain hplain⟩

end RecordGraph.GraphCall
