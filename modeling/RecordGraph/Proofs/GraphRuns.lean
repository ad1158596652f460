import RecordGraph.Proofs.GraphTransitions

/-!
# Runs of calls on the graph

A run makes any calls one after the other, each with its own registry, actor and time, whether
they succeed or not.  Each call that succeeds makes up to three elementary changes: it stores a
record, a mapping run or an edge, removes some edges, or removes a record that no edge touches any
more.  A property that all of them keep holds after every run.
-/

namespace RecordGraph

/-- One call that changes the graph: its registry, who makes it, when, and what it asks for. -/
inductive GraphCall where
  | insertObject (registry : TypeRegistry) (now : Int) (object : Object)
  | create (registry : TypeRegistry) (actor : Actor) (now : Int) (request : Graph.Request)
  | createDerived (registry : TypeRegistry) (actor : Actor) (now : Int) (parent : Relationship)
      (source destination : Object)
  | delete (registry : TypeRegistry) (actor : Actor) (id : Int)
  | deleteObject (registry : TypeRegistry) (actor : Actor) (stub : Stub)

namespace GraphCall

/-- Make the call; of its value nothing is kept. -/
def perform : GraphCall → Call Unit
  | insertObject registry now object => (Graph.insertObject registry now object).void
  | create registry actor now request => (Graph.create registry actor now request).void
  | createDerived registry actor now parent source destination =>
    (Graph.createDerived registry actor now parent source destination).void
  | delete registry actor id => (Graph.delete registry actor id).void
  | deleteObject registry actor stub => (Graph.deleteObject registry actor stub).void

def transition : GraphCall → Transition Unit
  | insertObject registry now object => (Transition.insertObject registry now object).void
  | create registry actor now request => (Transition.create registry actor now request).void
  | createDerived registry actor now parent source destination =>
    (Transition.createDerived registry actor now parent source destination).void
  | delete registry actor id => (Transition.delete registry actor id).void
  | deleteObject registry actor stub => (Transition.deleteObject registry actor stub).void

theorem realizes_perform (call : GraphCall) : call.perform.Realizes call.transition := by
  cases call with
  | insertObject registry now object =>
    exact (Graph.realizes_insertObject registry now object).void
  | create registry actor now request =>
    exact (Graph.realizes_create registry actor now request).void
  | createDerived registry actor now parent source destination =>
    exact (Graph.realizes_createDerived registry actor now parent source destination).void
  | delete registry actor id => exact (Graph.realizes_delete registry actor id).void
  | deleteObject registry actor stub =>
    exact (Graph.realizes_deleteObject registry actor stub).void

/-- The connection after some calls, made one after the other whether they succeed or not. -/
def run (calls : List GraphCall) (connection : Connection) : Connection :=
  calls.foldl (fun connection call => (call.perform connection).connection) connection

theorem run_append (calls later : List GraphCall) (connection : Connection) :
    run (calls ++ later) connection = run later (run calls connection) :=
  List.foldl_append

/-- Each call closes what it opens. -/
theorem run_closed (calls : List GraphCall) : (run calls {}).frames = [] := by
  have hstep : ∀ call ∈ calls, ∀ store value after, True →
      call.transition store = .ok (value, after) → True := fun _ _ _ _ _ _ _ => trivial
  exact (Call.Realizes.foldl_keeps realizes_perform hstep rfl trivial).1

/-- What each transition keeps is kept by every run. -/
theorem run_keeps {property : Store → Prop}
    (hstep : ∀ (call : GraphCall) (store after : Store), property store →
      call.transition store = .ok ((), after) → property after)
    (calls : List GraphCall) {connection : Connection} (hclosed : connection.frames = [])
    (hstart : property connection.store) : property (run calls connection).store :=
  (Call.Realizes.foldl_keeps realizes_perform
    (fun call _ store _ after => hstep call store after) hclosed hstart).2

end GraphCall

/-! ## Elementary changes -/

/-- A property of stores that every elementary change keeps. -/
structure Store.Stable (property : Store → Prop) : Prop where
  record : ∀ {registry : TypeRegistry} {now : Int} {object : Object} {store after : Store},
    property store → Graph.checkRecord registry object store = .ok () →
      store.insertObject (object.stampedAt now) = .ok after → property after
  run : ∀ {row : NewAutomapping} {store after : Store} {run : Automapping},
    property store → store.insertAutomapping row = .ok (run, after) → property after
  edge : ∀ {registry : TypeRegistry} {actor : Actor} {now : Int} {request : Graph.Request}
    {source destination : Object} {store after : Store} {edge : Relationship},
    property store → Graph.Joinable registry actor store source destination →
      store.insertRelationship (request.row actor now source.stub destination.stub) =
        .ok (edge, after) → property after
  edgesGone : ∀ (store : Store) (gone : List Int),
    property store → property (store.withoutEdges gone)
  recordGone : ∀ (store : Store) (stub : Stub), property store →
    (∀ edge ∈ store.relationships, edge.touches stub = false) → property (store.removeObject stub)

/-- Once the edges of a record are removed, no edge touches it. -/
theorem Store.not_touches_of_edgesTouching_gone {store : Store} {stub : Stub}
    {edge : Relationship}
    (hedge : edge ∈ (store.withoutEdges
      ((store.edgesTouching stub).map Relationship.id)).relationships) :
    edge.touches stub = false := by
  obtain ⟨old, hold, hkept, hsame⟩ := Store.mem_withoutEdges_iff.1 hedge
  have htouches : edge.touches stub = old.touches stub := by
    rw [← hsame]
    rfl
  rw [htouches]
  cases htouch : old.touches stub with
  | false => rfl
  | true =>
    obtain ⟨found, hfound, hid⟩ := Store.exists_edgesTouching hold htouch
    exact absurd (List.mem_map.2 ⟨found, hfound, hid⟩) hkept

theorem Store.Stable.create {property : Store → Prop} (hstable : Store.Stable property)
    {registry : TypeRegistry} {actor : Actor} {now : Int} {request : Graph.Request}
    {store after : Store} {edge : Relationship} (hstore : property store)
    (hcreated : Transition.create registry actor now request store = .ok (edge, after)) :
    property after := by
  obtain ⟨source, destination, hcheck, hrow⟩ := Transition.create_eq_ok_iff.1 hcreated
  obtain ⟨_, _, hjoinable⟩ := Graph.checkRequest_eq_ok_iff.1 hcheck
  exact hstable.edge hstore hjoinable hrow

/-- Every call that succeeds keeps what the elementary changes keep. -/
theorem Store.Stable.transition {property : Store → Prop} (hstable : Store.Stable property)
    (call : GraphCall) (store after : Store) (hstore : property store)
    (hcall : call.transition store = .ok ((), after)) : property after := by
  cases call with
  | insertObject registry now object =>
    obtain ⟨stored, hstored⟩ := Transition.void_eq_ok_iff.1 hcall
    obtain ⟨hcheck, hsame, hrow⟩ := Transition.insertObject_eq_ok_iff.1 hstored
    rw [hsame] at hrow
    exact hstable.record hstore hcheck hrow
  | create registry actor now request =>
    obtain ⟨edge, hcreated⟩ := Transition.void_eq_ok_iff.1 hcall
    exact hstable.create hstore hcreated
  | createDerived registry actor now parent source destination =>
    obtain ⟨derived, hderived⟩ := Transition.void_eq_ok_iff.1 hcall
    rcases Transition.createDerived_eq_ok_iff.1 hderived with
      ⟨_, _, _, hsame⟩ | ⟨edge, _, _, hmade⟩
    · rw [hsame]
      exact hstore
    · obtain ⟨run, recorded, hrun, hcreated⟩ := Transition.createFromParent_eq_ok_iff.1 hmade
      exact hstable.create (hstable.run hstore hrun) hcreated
  | delete registry actor id =>
    obtain ⟨edge, hdeleted⟩ := Transition.void_eq_ok_iff.1 hcall
    obtain ⟨_, _, hafter⟩ := Transition.delete_eq_ok_iff.1 hdeleted
    rw [hafter, Store.removeRelationship_eq_withoutEdges]
    exact hstable.edgesGone store [edge.id] hstore
  | deleteObject registry actor stub =>
    obtain ⟨edges, hdeleted⟩ := Transition.void_eq_ok_iff.1 hcall
    obtain ⟨_, hedges, _, hafter⟩ := Transition.deleteObject_eq_ok_iff.1 hdeleted
    rw [hafter, hedges, Store.removeRelationships_eq_withoutEdges]
    apply hstable.recordGone
    · exact hstable.edgesGone store _ hstore
    · intro edge hedge
      exact Store.not_touches_of_edgesTouching_gone hedge

/-- The elementary changes leave the jobs alone. -/
theorem Store.Stable.sameJobs (jobs : List Job) (last : Int) :
    Store.Stable fun store => store.jobs = jobs ∧ store.lastJobId = last where
  record := by
    intro _ _ _ store after hsame _ hstored
    obtain ⟨_, _, rfl⟩ := Store.insertObject_eq_ok_iff.1 hstored
    exact hsame
  run := by
    intro _ store after _ hsame hstored
    obtain ⟨_, _, _, _, rfl⟩ := Store.insertAutomapping_eq_ok_iff.1 hstored
    exact hsame
  edge := by
    intro _ _ _ _ _ _ store after _ hsame _ hstored
    obtain ⟨_, _, _, _, _, _, _, rfl⟩ := Store.insertRelationship_eq_ok_iff.1 hstored
    exact hsame
  edgesGone _ _ hsame := hsame
  recordGone _ _ hsame _ := hsame

/-- A call on the graph leaves the jobs alone. -/
theorem GraphCall.jobs_of_transition {call : GraphCall} {store after : Store}
    (hcall : call.transition store = .ok ((), after)) :
    after.jobs = store.jobs ∧ after.lastJobId = store.lastJobId :=
  (Store.Stable.sameJobs store.jobs store.lastJobId).transition call store after ⟨rfl, rfl⟩ hcall

/-- A property of the empty store that every elementary change keeps holds after every run. -/
theorem Store.Stable.run_empty {property : Store → Prop} (hstable : Store.Stable property)
    (hempty : property Store.empty) (calls : List GraphCall) :
    property (GraphCall.run calls {}).store :=
  GraphCall.run_keeps hstable.transition calls rfl hempty

end RecordGraph
