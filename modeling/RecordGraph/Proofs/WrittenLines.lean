import RecordGraph.Actor
import RecordGraph.Command.Invocation
import RecordGraph.Proofs.ReferenceGrammar

/-!
# The records that a command line can name

A line names records by references, and whatever it asks for, each of them has a type of ASCII
letters and digits and a number that can be stored.  A record of another type can be stored and
listed, but no line can map it.  For all others there is such a line, by every user.
-/

namespace RecordGraph

/-- The references that a command names. -/
def StoreCommand.stubs : StoreCommand → List Stub
  | addObject _ _ _ origin => origin.toList
  | showObject stub => [stub]
  | removeObject stub => [stub]
  | map source destination _ _ => [source, destination]
  | related stub _ => [stub]
  | neighbors stubs _ => stubs
  | _ => []

def Command.stubs : Command → List Stub
  | onStore command => command.stubs
  | _ => []

/-- The type is a name, and the number one that can be stored. -/
def Stub.Writable (stub : Stub) : Prop :=
  NamesType stub.type.toList ∧ Decimal.InRange stub.id

/-- What is read off a list is read off one of its items. -/
theorem exists_of_mem_mapM {α β : Type} {read : α → Option β} {items : List α} {values : List β}
    (hread : items.mapM read = some values) {value : β} (hvalue : value ∈ values) :
    ∃ item ∈ items, read item = some value := by
  induction items generalizing values with
  | nil =>
    cases hread
    cases hvalue
  | cons item rest ih =>
    rw [List.mapM_cons] at hread
    obtain ⟨first, hfirst, others, hothers, hvalues⟩ := by
      simpa only [Option.bind_eq_bind, Option.bind_eq_some_iff] using hread
    cases hvalues
    rcases List.mem_cons.1 hvalue with rfl | hlater
    · exact ⟨item, List.mem_cons_self, hfirst⟩
    · obtain ⟨other, hother, hsame⟩ := ih hothers hlater
      exact ⟨other, List.mem_cons_of_mem item hother, hsame⟩

namespace Command

variable {command : Command}

/-- The command names only references that can be written. -/
def NamesWritable (command : Command) : Prop := ∀ stub ∈ command.stubs, stub.Writable

/-- What a reader reads names only references that can be written. -/
def ReadsWritable (read : List String → Option (GlobalOptions × Command)) : Prop :=
  ∀ line options command, read line = some (options, command) → command.NamesWritable

theorem writable_of_readStub? {text : String} {stub : Stub} (hread : readStub? text = some stub) :
    stub.Writable :=
  (Stub.spelling_of_ofChars? hread).proper

theorem readsWritable_readWith {rules : List OptionRule} {build : Arguments → Option Command}
    (hbuild : ∀ arguments command, build arguments = some command → command.NamesWritable) :
    ReadsWritable (readWith rules build) := by
  intro line options command hread
  simp only [readWith, Option.bind_eq_bind, Option.bind_eq_some_iff, Option.pure_def,
    Option.some.injEq, Prod.mk.injEq] at hread
  obtain ⟨arguments, _, _, _, built, hbuilt, _, rfl⟩ := hread
  exact hbuild arguments built hbuilt

theorem readsWritable_readGroup
    {readers : List (String × (List String → Option (GlobalOptions × Command)))}
    (hreaders : ∀ entry ∈ readers, ReadsWritable entry.2) : ReadsWritable (readGroup readers) := by
  intro line options command hread
  simp only [readGroup, Option.bind_eq_bind, Option.bind_eq_some_iff] at hread
  obtain ⟨arguments, _, outer, _, hrest⟩ := hread
  split at hrest
  · cases hrest
  · next word rest _ =>
    simp only [Option.bind_eq_some_iff, Option.pure_def, Option.some.injEq, Prod.mk.injEq] at hrest
    obtain ⟨read, hlookup, ⟨inner, read'⟩, hread, _, rfl⟩ := hrest
    obtain ⟨_, _, hsplit, _⟩ := List.lookup_eq_some_iff.1 hlookup
    exact hreaders (word, read) (hsplit ▸ by simp) rest inner read' hread

theorem namesWritable_nil (hnone : command.stubs = []) : command.NamesWritable := by
  intro stub hstub
  rw [hnone] at hstub
  cases hstub

/-- A reader of commands without references. -/
theorem readsWritable_of_nil {rules : List OptionRule} {build : Arguments → Option Command}
    (hbuild : ∀ arguments command, build arguments = some command → command.stubs = []) :
    ReadsWritable (readWith rules build) :=
  readsWritable_readWith fun arguments command hbuilt =>
    namesWritable_nil (hbuild arguments command hbuilt)

theorem readsWritable_readOnId {build : Int → StoreCommand} (hbuild : ∀ id, (build id).stubs = []) :
    ReadsWritable (readOnId build) := by
  apply readsWritable_of_nil
  intro arguments command hbuilt
  split at hbuilt
  · obtain ⟨id, _, rfl⟩ := Option.map_eq_some_iff.1 hbuilt
    exact hbuild id
  · cases hbuilt

theorem readsWritable_readOnStub {build : Stub → StoreCommand}
    (hbuild : ∀ stub, (build stub).stubs = [stub]) : ReadsWritable (readOnStub build) := by
  apply readsWritable_readWith
  intro arguments command hbuilt
  split at hbuilt
  · obtain ⟨stub, hstub, rfl⟩ := Option.map_eq_some_iff.1 hbuilt
    intro other hother
    rw [stubs, hbuild, List.mem_singleton] at hother
    exact hother ▸ writable_of_readStub? hstub
  · cases hbuilt

theorem readsWritable_readAddObject? : ReadsWritable readAddObject? := by
  apply readsWritable_readWith
  intro arguments command hbuilt
  split at hbuilt
  · simp only [Option.bind_eq_bind, Option.bind_eq_some_iff, Option.pure_def,
      Option.some.injEq] at hbuilt
    obtain ⟨id, _, title, _, origin, horigin, rfl⟩ := hbuilt
    intro stub hstub
    obtain rfl : origin = some stub := Option.mem_toList.1 hstub
    unfold Arguments.value? at horigin
    split at horigin
    · cases horigin
    · next text _ =>
      obtain ⟨read, hread, hsame⟩ := Option.map_eq_some_iff.1 horigin
      cases hsame
      exact writable_of_readStub? hread
    · cases horigin
  · cases hbuilt

theorem readsWritable_readMap? : ReadsWritable readMap? := by
  apply readsWritable_readWith
  intro arguments command hbuilt
  split at hbuilt
  · simp only [Option.bind_eq_bind, Option.bind_eq_some_iff, Option.pure_def,
      Option.some.injEq] at hbuilt
    obtain ⟨source, hsource, destination, hdestination, external, _, parent, _, rfl⟩ := hbuilt
    intro stub hstub
    simp only [stubs, StoreCommand.stubs, List.mem_cons, List.not_mem_nil, or_false] at hstub
    rcases hstub with rfl | rfl
    · exact writable_of_readStub? hsource
    · exact writable_of_readStub? hdestination
  · cases hbuilt

theorem readsWritable_readRelated? : ReadsWritable readRelated? := by
  apply readsWritable_readWith
  intro arguments command hbuilt
  split at hbuilt
  · obtain ⟨stub, hstub, rfl⟩ := Option.map_eq_some_iff.1 hbuilt
    intro other hother
    exact List.mem_singleton.1 hother ▸ writable_of_readStub? hstub
  · cases hbuilt

theorem readsWritable_readNeighbors? : ReadsWritable readNeighbors? := by
  apply readsWritable_readWith
  intro arguments command hbuilt
  split at hbuilt
  · cases hbuilt
  · obtain ⟨stubs, hstubs, rfl⟩ := Option.map_eq_some_iff.1 hbuilt
    intro stub hstub
    obtain ⟨text, _, hread⟩ := exists_of_mem_mapM hstubs hstub
    exact writable_of_readStub? hread

theorem readsWritable_readEdges? : ReadsWritable readEdges? := by
  apply readsWritable_of_nil
  intro arguments command hbuilt
  split at hbuilt
  · simp only [Option.bind_eq_bind, Option.bind_eq_some_iff, Option.pure_def,
      Option.some.injEq] at hbuilt
    obtain ⟨_, _, _, _, _, _, _, _, _, _, rfl⟩ := hbuilt
    rfl
  · cases hbuilt

theorem readsWritable_readCreateJob? : ReadsWritable readCreateJob? := by
  apply readsWritable_of_nil
  intro arguments command hbuilt
  split at hbuilt
  · simp only [Option.bind_eq_bind, Option.bind_eq_some_iff, Option.pure_def,
      Option.some.injEq] at hbuilt
    obtain ⟨_, _, _, _, _, _, _, _, rfl⟩ := hbuilt
    rfl
  · cases hbuilt

theorem readsWritable_objectReaders : ∀ entry ∈ objectReaders, ReadsWritable entry.2 := by
  simp only [objectReaders, List.mem_cons, List.not_mem_nil, or_false, forall_eq_or_imp, forall_eq]
  refine ⟨readsWritable_readAddObject?, readsWritable_readOnStub fun _ => rfl,
    readsWritable_of_nil ?_, readsWritable_readOnStub fun _ => rfl⟩
  intro arguments command hbuilt
  grind [stubs, StoreCommand.stubs, Option.bind_eq_some_iff, Option.map_eq_some_iff]

theorem readsWritable_jobReaders : ∀ entry ∈ jobReaders, ReadsWritable entry.2 := by
  simp only [jobReaders, List.mem_cons, List.not_mem_nil, or_false, forall_eq_or_imp, forall_eq]
  refine ⟨readsWritable_readCreateJob?, readsWritable_of_nil ?_,
    readsWritable_readOnId fun _ => rfl, readsWritable_of_nil ?_, readsWritable_of_nil ?_,
    readsWritable_of_nil ?_⟩
  all_goals
    intro arguments command hbuilt
    grind [stubs, StoreCommand.stubs, Option.bind_eq_some_iff, Option.map_eq_some_iff]

theorem readsWritable_readers : ∀ entry ∈ readers, ReadsWritable entry.2 := by
  simp only [readers, List.mem_cons, List.not_mem_nil, or_false, forall_eq_or_imp, forall_eq]
  refine ⟨readsWritable_of_nil ?_, readsWritable_readGroup readsWritable_objectReaders,
    readsWritable_readMap?, readsWritable_readOnId fun _ => rfl, readsWritable_readEdges?,
    readsWritable_readRelated?, readsWritable_readNeighbors?, readsWritable_of_nil ?_,
    readsWritable_readGroup readsWritable_jobReaders⟩
  all_goals
    intro arguments command hbuilt
    grind [stubs, StoreCommand.stubs, Option.bind_eq_some_iff, Option.map_eq_some_iff]

end Command

/-- Whatever a line asks for, the references in it are ones that can be written. -/
theorem Invocation.namesWritable {line : List String} {invocation : Invocation}
    (hread : read? line = some invocation) : invocation.command.NamesWritable := by
  simp only [read?, Option.bind_eq_bind, Option.bind_eq_some_iff] at hread
  obtain ⟨arguments, _, outer, _, external, _, _, _, hrest⟩ := hread
  split at hrest
  · cases hrest
  · next word rest _ =>
    simp only [Option.bind_eq_some_iff, Option.pure_def, Option.some.injEq] at hrest
    obtain ⟨read, hlookup, ⟨inner, command⟩, hread, rfl⟩ := hrest
    obtain ⟨_, _, hreaders, _⟩ := List.lookup_eq_some_iff.1 hlookup
    have hmem : (word, read) ∈ Command.readers := by
      rw [hreaders]
      exact List.mem_append_right _ List.mem_cons_self
    exact Command.readsWritable_readers _ hmem rest inner command hread

/-! ## A line that maps two records -/

namespace Arguments

variable {rules : List OptionRule} {leading : Bool} {name value : String} {rest : List String}

theorem cutValue_append (hname : '=' ∉ name.toList) :
    cutValue (name ++ "=" ++ value) = (name, some value) := by
  have hplain : ∀ c ∈ name.toList, (c != '=') = true := by
    intro c hc
    rw [bne_iff_ne]
    rintro rfl
    exact hname hc
  have hcs : (name ++ "=" ++ value).toList = name.toList ++ '=' :: value.toList := by simp
  rw [cutValue, hcs, List.dropWhile_append_of_pos hplain, List.takeWhile_append_of_pos hplain]
  simp

theorem looksLikeOption_append (text : String) (hoption : looksLikeOption name = true) :
    looksLikeOption (name ++ text) = true := by
  unfold looksLikeOption at hoption ⊢
  rw [String.toList_append]
  split at hoption
  · next second rest hname =>
    rw [hname, List.cons_append, List.cons_append]
    exact hoption
  · cases hoption

/-- A flag that is known is noted, and the reading goes on behind it. -/
theorem read?_flag (hknown : rules.find? (fun rule => rule.name == name) = some (.flag name))
    (hends : name ≠ "--") (hoption : looksLikeOption name = true)
    (hcut : cutValue name = (name, none)) :
    read? rules leading (name :: rest) = (read? rules leading rest).map (withOption name "") := by
  rw [read?, if_neg hends, if_pos hoption, hcut]
  simp only [hknown, OptionRule.flag]

/-- So is an option with its value behind an equals sign. -/
theorem read?_attached (hknown : rules.find? (fun rule => rule.name == name) = some (.valued name))
    (hoption : looksLikeOption name = true) (hname : '=' ∉ name.toList) :
    read? rules leading ((name ++ "=" ++ value) :: rest) =
      (read? rules leading rest).map (withOption name value) := by
  have hlong : looksLikeOption (name ++ "=" ++ value) = true := by
    rw [String.append_assoc]
    exact looksLikeOption_append _ hoption
  have hends : name ++ "=" ++ value ≠ "--" := by
    intro hsame
    have hmem : '=' ∈ (name ++ "=" ++ value).toList := by simp
    rw [hsame] at hmem
    exact absurd hmem (by decide)
  rw [read?, if_neg hends, if_pos hlong, cutValue_append hname]
  simp only [hknown, OptionRule.valued]

/-- Before the name of a command, the first operand is that name. -/
theorem read?_word {word : String} (hends : word ≠ "--") (hword : looksLikeOption word = false) :
    read? rules true (word :: rest) = some ⟨[], word :: rest⟩ := by
  rw [read?, if_neg hends, hword]
  rfl

end Arguments

/-- The line by which a user maps two records. -/
def mapLine (actor : Actor) (source destination : Stub) : List String :=
  (if actor.external then ["--external"] else []) ++
    ["--user" ++ "=" ++ Decimal.text actor.userId, "map", "--", source.text, destination.text]

theorem Command.readMap?_line {source destination : Stub} (hsource : source.Writable)
    (hdestination : destination.Writable) :
    readMap? ["--", source.text, destination.text] =
      some ({}, onStore (.map source destination false none)) := by
  have hfirst : readStub? source.text = some source :=
    (Stub.spelling_text hsource.1 hsource.2).ofChars?
  have hsecond : readStub? destination.text = some destination :=
    (Stub.spelling_text hdestination.1 hdestination.2).ofChars?
  simp [readMap?, readWith, Arguments.read?, GlobalOptions.ofArguments?, Arguments.flag?,
    Arguments.value?, Arguments.given, hfirst, hsecond]

/-- The options of the line stand before the name of the command. -/
theorem Invocation.arguments_mapLine (actor : Actor) (source destination : Stub) :
    Arguments.read? (leadingRules ++ GlobalOptions.rules) true
        (mapLine actor source destination) =
      some ⟨(if actor.external then [("--external", "")] else []) ++
          [("--user", Decimal.text actor.userId)],
        ["map", "--", source.text, destination.text]⟩ := by
  have huser : ∀ rest, Arguments.read? (leadingRules ++ GlobalOptions.rules) true
      (("--user" ++ "=" ++ Decimal.text actor.userId) :: "map" :: rest) =
        some ⟨[("--user", Decimal.text actor.userId)], "map" :: rest⟩ := by
    intro rest
    refine (Arguments.read?_attached (by decide) (by decide) (by decide)).trans ?_
    rw [Arguments.read?_word (by decide) (by decide)]
    rfl
  rw [mapLine]
  cases actor.external with
  | false => exact huser _
  | true =>
    refine (Arguments.read?_flag (by decide) (by decide) (by decide) (by decide)).trans ?_
    exact congrArg (Option.map _) (huser _)

/-- The line asks for the mapping that it is written for. -/
theorem Invocation.read?_mapLine {actor : Actor} {source destination : Stub}
    (huser : Decimal.InRange actor.userId) (hsource : source.Writable)
    (hdestination : destination.Writable) :
    read? (mapLine actor source destination) =
      some { options := { user := some actor.userId }, external := actor.external
             command := .onStore (.map source destination false none) } := by
  have hmap := Command.readMap?_line hsource hdestination
  have hnumber : GlobalOptions.readId? (Decimal.text actor.userId) = some actor.userId := by
    rw [GlobalOptions.readId?, Decimal.text, String.toList_ofList, Decimal.read?_write huser]
  have hreader : Command.readers.lookup "map" = some Command.readMap? := by
    simp [Command.readers, List.lookup_cons]
  rw [read?, arguments_mapLine]
  cases actor.external <;>
    simp [GlobalOptions.ofArguments?, Arguments.flag?, Arguments.value?, Arguments.given, verbose?,
      hnumber, hreader, hmap, GlobalOptions.followedBy]

end RecordGraph
