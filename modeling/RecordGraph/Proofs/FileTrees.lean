import RecordGraph.Files.StoreFile

/-!
# What opening a store does to the files

Opening a store makes directories on the way and begins a store where nothing was written; it never
touches a store that is there.  So the rows kept at any place are the same before and after.  And
opening is done once: whether it succeeds or not, opening the same path again changes no file.
-/

namespace RecordGraph.FileTree

/-! ## Putting an entry -/

theorem find?_put (tree : FileTree) (entry : FileEntry) (place other : Place) :
    (tree.put place entry).find? other =
      if other = place ∧ place.isPrefixOf tree.base = false then some entry
      else tree.find? other := by
  by_cases hother : other = place
  · subst hother
    cases hbase : other.isPrefixOf tree.base with
    | true => simp [find?, put, hbase]
    | false => simp [find?_put_self tree entry hbase]
  · simp [find?_put_of_ne tree entry hother, hother]

theorem base_of_find? {tree : FileTree} {place : Place}
    (hplace : tree.find? place ≠ some .directory) : place.isPrefixOf tree.base = false := by
  cases hbase : place.isPrefixOf tree.base with
  | true =>
    refine absurd ?_ hplace
    rw [find?, if_pos hbase]
  | false => rfl

/-- Where no directory is, a new entry stands. -/
theorem find?_put_of_not_directory {tree : FileTree} {place : Place} (entry : FileEntry)
    (hplace : tree.find? place ≠ some .directory) :
    (tree.put place entry).find? place = some entry :=
  tree.find?_put_self entry (base_of_find? hplace)

/-- Something stands at a place where something was put. -/
theorem isSome_find?_put (tree : FileTree) (place : Place) (entry : FileEntry) :
    ((tree.put place entry).find? place).isSome = true := by
  by_cases hplace : tree.find? place = some .directory
  · rw [find?_put]
    split
    · rfl
    · rw [hplace]
      rfl
  · rw [find?_put_of_not_directory entry hplace]
    rfl

/-- A new entry takes nothing away. -/
theorem isSome_find?_put_of_isSome {tree : FileTree} {other : Place} (place : Place)
    (entry : FileEntry) (hother : (tree.find? other).isSome = true) :
    ((tree.put place entry).find? other).isSome = true := by
  rw [find?_put]
  split
  · rfl
  · exact hother

/-- To put something at a place twice is to put it there once. -/
theorem put_put (tree : FileTree) (place : Place) (entry : FileEntry) :
    (tree.put place entry).put place entry = tree.put place entry := by
  simp [put]

/-! ## Stores -/

/-- The store kept at a place; the one without rows where none is kept. -/
def stored (tree : FileTree) (place : Place) : Store :=
  match tree.find? place with
  | some (.store store) => store
  | _ => {}

theorem stored_of_find? {tree : FileTree} {place : Place} {store : Store}
    (hstore : tree.find? place = some (.store store)) : tree.stored place = store := by
  rw [stored, hstore]

theorem stored_of_no_entries {tree : FileTree} (hnone : tree.entries = []) (place : Place) :
    tree.stored place = {} := by
  have hfound : tree.find? place = some .directory ∨ tree.find? place = none := by
    rw [find?, hnone]
    split
    · exact .inl rfl
    · exact .inr rfl
  rcases hfound with hfound | hfound <;> rw [stored, hfound]

theorem stored_congr {tree after : FileTree} {place : Place}
    (hsame : after.find? place = tree.find? place) : after.stored place = tree.stored place := by
  rw [stored, hsame, stored]

/-- Elsewhere the rows stay, and at the place itself they are those of the entry, if it stands. -/
theorem stored_put_cases (tree : FileTree) (entry : FileEntry) (place other : Place) :
    (tree.put place entry).stored other = tree.stored other ∨
      (other = place ∧ (tree.put place entry).find? other = some entry) := by
  by_cases hentry : other = place ∧ place.isPrefixOf tree.base = false
  · refine .inr ⟨hentry.1, ?_⟩
    rw [find?_put, if_pos hentry]
  · refine .inl (stored_congr ?_)
    rw [find?_put, if_neg hentry]

/-! ## Directories on a way -/

/-- All places on a way are directories. -/
def HasWay (tree : FileTree) (names : List String) (parts : List (List Char)) : Prop :=
  ∀ passed ∈ Path.passed names parts, tree.find? passed.reverse = some .directory

/-- What stands in a tree stands in the later one, and what is new there is a directory. -/
def GainsDirectories (tree after : FileTree) : Prop :=
  ∀ place, after.find? place = tree.find? place ∨
    (tree.find? place = none ∧ after.find? place = some .directory)

namespace GainsDirectories

variable {tree middle after : FileTree}

theorem refl (tree : FileTree) : tree.GainsDirectories tree := fun _ => .inl rfl

theorem trans (hfirst : tree.GainsDirectories middle) (hsecond : middle.GainsDirectories after) :
    tree.GainsDirectories after := by
  intro place
  rcases hsecond place with hsame | ⟨hnone, hdirectory⟩
  · rw [hsame]
    exact hfirst place
  · rcases hfirst place with hold | ⟨_, hmade⟩
    · exact .inr ⟨hold ▸ hnone, hdirectory⟩
    · rw [hnone] at hmade
      cases hmade

theorem put {place : Place} (hnone : tree.find? place = none) :
    tree.GainsDirectories (tree.put place .directory) := by
  intro other
  rw [find?_put]
  split
  · next hother =>
    rw [hother.1]
    exact .inr ⟨hnone, rfl⟩
  · exact .inl rfl

/-- Nothing is taken away. -/
theorem find?_eq_some (hgains : tree.GainsDirectories after) {place : Place} {entry : FileEntry}
    (hentry : tree.find? place = some entry) : after.find? place = some entry := by
  rcases hgains place with hsame | ⟨hnone, _⟩
  · rw [hsame, hentry]
  · rw [hnone] at hentry
    cases hentry

theorem stored (hgains : tree.GainsDirectories after) (place : Place) :
    after.stored place = tree.stored place := by
  rcases hgains place with hsame | ⟨hnone, hdirectory⟩
  · exact stored_congr hsame
  · rw [FileTree.stored, FileTree.stored, hnone, hdirectory]

end GainsDirectories

/-- The next directory on a way is there, or it is missing and can be made, or making the way stops
there. -/
theorem makeOnWay_cons_cases (tree : FileTree) (names : List String) (part : List Char)
    (rest : List (List Char)) :
    (tree.find? (Path.follow names part).reverse = some .directory ∧
        ∀ made, tree.makeOnWay made names (part :: rest) =
          tree.makeOnWay made (Path.follow names part) rest) ∨
      (tree.find? (Path.follow names part).reverse = none ∧
        ∀ made, tree.makeOnWay made names (part :: rest) =
          (tree.put (Path.follow names part).reverse .directory).makeOnWay true
            (Path.follow names part) rest) ∨
      ∀ made, ∃ fault, tree.makeOnWay made names (part :: rest) = (some fault, tree) := by
  simp only [makeOnWay]
  cases tree.find? (Path.follow names part).reverse with
  | none =>
    by_cases hshort : (String.ofList part).utf8ByteSize ≤ maxName
    · exact .inr (.inl ⟨rfl, fun _ => if_pos hshort⟩)
    · exact .inr (.inr fun _ => ⟨_, if_neg hshort⟩)
  | some entry =>
    cases entry with
    | directory => exact .inl ⟨rfl, fun _ => rfl⟩
    | text content => exact .inr (.inr fun _ => ⟨_, rfl⟩)
    | store store => exact .inr (.inr fun _ => ⟨_, rfl⟩)

theorem gainsDirectories_makeOnWay (tree : FileTree) (made : Bool) (names : List String)
    (parts : List (List Char)) :
    tree.GainsDirectories (tree.makeOnWay made names parts).2 := by
  induction parts generalizing tree made names with
  | nil => exact .refl tree
  | cons part rest ih =>
    rcases tree.makeOnWay_cons_cases names part rest with
      ⟨_, hthere⟩ | ⟨hnone, hmissing⟩ | hstop
    · rw [hthere]
      exact ih tree made _
    · rw [hmissing]
      exact (GainsDirectories.put hnone).trans (ih _ true _)
    · obtain ⟨fault, hstopped⟩ := hstop made
      rw [hstopped]
      exact .refl tree

theorem makeOnWay_of_hasWay {tree : FileTree} {names : List String} {parts : List (List Char)}
    (made : Bool) (hway : tree.HasWay names parts) :
    tree.makeOnWay made names parts = (none, tree) := by
  induction parts generalizing names with
  | nil => rfl
  | cons part rest ih =>
    obtain ⟨hhead, hrest⟩ := List.forall_mem_cons.1 hway
    rw [makeOnWay]
    simp only [hhead]
    exact ih hrest

/-- A directory that was made on the way is there once the rest is made. -/
theorem find?_makeOnWay_put {tree : FileTree} {place : Place} (hnone : tree.find? place = none)
    (names : List String) (rest : List (List Char)) :
    ((tree.put place .directory).makeOnWay true names rest).2.find? place = some .directory :=
  (gainsDirectories_makeOnWay _ true names rest).find?_eq_some
    (find?_put_of_not_directory _ (by simp [hnone]))

/-- A way that could be made is there. -/
theorem hasWay_makeOnWay {tree after : FileTree} {made : Bool} {names : List String}
    {parts : List (List Char)} (hmade : tree.makeOnWay made names parts = (none, after)) :
    after.HasWay names parts := by
  induction parts generalizing tree made names with
  | nil => exact fun _ hpassed => absurd hpassed List.not_mem_nil
  | cons part rest ih =>
    have hgains := tree.gainsDirectories_makeOnWay made names (part :: rest)
    rw [hmade] at hgains
    refine List.forall_mem_cons.2 ?_
    rcases tree.makeOnWay_cons_cases names part rest with
      ⟨hdirectory, hthere⟩ | ⟨hnone, hmissing⟩ | hstop
    · rw [hthere] at hmade
      exact ⟨hgains.find?_eq_some hdirectory, ih hmade⟩
    · rw [hmissing] at hmade
      have hput := find?_makeOnWay_put hnone (Path.follow names part) rest
      rw [hmade] at hput
      exact ⟨hput, ih hmade⟩
    · obtain ⟨fault, hstopped⟩ := hstop made
      rw [hstopped] at hmade
      cases hmade

theorem makeOnWay_directory {tree : FileTree} {names : List String} {part : List Char}
    (hpart : tree.find? (Path.follow names part).reverse = some .directory) (made : Bool)
    (rest : List (List Char)) :
    tree.makeOnWay made names (part :: rest) =
      tree.makeOnWay made (Path.follow names part) rest := by
  rw [makeOnWay]
  simp only [hpart]

/-- What stopped the making of a way stops it again, and nothing more is made. -/
theorem makeOnWay_again (tree : FileTree) (made remade : Bool) (names : List String)
    (parts : List (List Char)) :
    ∃ fault, (tree.makeOnWay made names parts).2.makeOnWay remade names parts =
        (fault, (tree.makeOnWay made names parts).2) ∧
      fault.isSome = (tree.makeOnWay made names parts).1.isSome := by
  induction parts generalizing tree made remade names with
  | nil => exact ⟨none, rfl, rfl⟩
  | cons part rest ih =>
    rcases tree.makeOnWay_cons_cases names part rest with
      ⟨hdirectory, hthere⟩ | ⟨hnone, hmissing⟩ | hstop
    · have hgains := tree.gainsDirectories_makeOnWay made (Path.follow names part) rest
      rw [hthere, makeOnWay_directory (hgains.find?_eq_some hdirectory)]
      exact ih tree made remade _
    · -- The directory is made, and the second time it is there.
      rw [hmissing, makeOnWay_directory (find?_makeOnWay_put hnone _ rest)]
      exact ih _ true remade _
    · obtain ⟨fault, hfirst⟩ := hstop made
      obtain ⟨again, hsecond⟩ := hstop remade
      rw [hfirst]
      exact ⟨some again, hsecond, rfl⟩

theorem gainsDirectories_makeDirectories (tree : FileTree) (parts : List (List Char)) :
    tree.GainsDirectories (tree.makeDirectories parts).2 := by
  rw [makeDirectories]
  split
  · exact .refl tree
  · split
    · exact .refl tree
    · exact tree.gainsDirectories_makeOnWay false [] parts

theorem makeDirectories_again (tree : FileTree) (parts : List (List Char)) :
    ∃ fault, (tree.makeDirectories parts).2.makeDirectories parts =
        (fault, (tree.makeDirectories parts).2) ∧
      fault.isSome = (tree.makeDirectories parts).1.isSome := by
  simp only [makeDirectories]
  split
  · exact ⟨_, rfl, rfl⟩
  · split
    · exact ⟨_, rfl, rfl⟩
    · exact tree.makeOnWay_again false false [] parts

/-- Directories that could be made are there in every tree that still has them. -/
theorem makeDirectories_of_ok {tree after : FileTree} {parts : List (List Char)}
    (hmade : tree.makeDirectories parts = (none, after)) :
    after.HasWay [] parts ∧
      ∀ later : FileTree, later.HasWay [] parts → later.makeDirectories parts = (none, later) := by
  rw [makeDirectories] at hmade
  split at hmade
  · cases hmade
  · next hnul =>
    split at hmade
    · cases hmade
    · next hlong =>
      refine ⟨hasWay_makeOnWay hmade, fun later hway => ?_⟩
      rw [makeDirectories, if_neg hnul, if_neg hlong]
      exact makeOnWay_of_hasWay false hway

/-! ## Opening a file -/

/-- The files beside a store stand elsewhere. -/
theorem beside_ne (place : Place) {ending : String} (hending : ending ≠ "") :
    beside place ending ≠ place := by
  intro hsame
  have hlast : (beside place ending).getLast? = some (nameOf place ++ ending) := by
    rw [beside, List.getLast?_concat]
  rw [hsame] at hlast
  have hname : nameOf place = (some (nameOf place ++ ending)).getD "" := by
    rw [← hlast]
    rfl
  have hlength := congrArg String.length hname
  rw [Option.getD_some, String.length_append] at hlength
  exact hending (String.length_eq_zero_iff.1 (by omega))

/-- What beginning a store where nothing is written puts there. -/
theorem beginStore_cases (tree : FileTree) (place : Place) :
    (∃ fault, tree.beginStore place = (.error fault, tree.put place (.text ""))) ∨
      tree.beginStore place = (.ok {}, tree.put place (.store {})) := by
  rw [beginStore]
  split
  · exact .inl ⟨_, rfl⟩
  · split
    · exact .inl ⟨_, rfl⟩
    · exact .inr rfl

/-- A store that could not be begun cannot be begun again. -/
theorem beginStore_again {tree : FileTree} {place : Place} {fault : StoreFault}
    (hbegun : tree.beginStore place = (.error fault, tree.put place (.text ""))) :
    (tree.put place (.text "")).beginStore place = (.error fault, tree.put place (.text "")) := by
  have hbeside : ∀ ending, ending ≠ "" →
      (tree.put place (.text "")).isDirectory (beside place ending) =
        tree.isDirectory (beside place ending) := by
    intro ending hending
    rw [isDirectory, isDirectory, find?_put_of_ne _ _ (beside_ne place hending)]
  rw [beginStore] at hbegun ⊢
  rw [hbeside logEnding (by decide), hbeside journalEnding (by decide), put_put]
  split at hbegun
  · next hlog =>
    rw [if_pos hlog]
    exact hbegun
  · next hlog =>
    rw [if_neg hlog]
    split at hbegun
    · next hjournal =>
      rw [if_pos hjournal]
      exact hbegun
    · cases hbegun

/-- Nothing is written at a place. -/
def IsBlank (tree : FileTree) (place : Place) : Prop :=
  tree.find? place = none ∨ tree.find? place = some (.text "")

theorem IsBlank.not_directory {tree : FileTree} {place : Place} (hblank : tree.IsBlank place) :
    tree.find? place ≠ some .directory := by
  rcases hblank with hblank | hblank
  · simp [hblank]
  · simp [hblank]

theorem IsBlank.stored {tree : FileTree} {place : Place} (hblank : tree.IsBlank place) :
    tree.stored place = {} := by
  rcases hblank with hblank | hblank
  · rw [FileTree.stored, hblank]
  · rw [FileTree.stored, hblank]

/-- A file is refused, it holds a store, or nothing is written there and a store is begun. -/
theorem openFile_cases (tree : FileTree) (path : String) :
    (∃ fault, tree.openFile path = (.error fault, tree)) ∨
      (∃ store, tree.find? (Path.place path) = some (.store store) ∧
        tree.openFile path = (.ok store, tree)) ∨
      (tree.IsBlank (Path.place path) ∧
        tree.openFile path = tree.beginStore (Path.place path)) := by
  simp only [openFile, IsBlank]
  cases hfound : tree.find? (Path.place path) with
  | none =>
    simp only
    split
    · exact .inr (.inr ⟨.inl trivial, rfl⟩)
    · exact .inl ⟨_, rfl⟩
  | some entry =>
    cases entry with
    | directory => exact .inl ⟨_, rfl⟩
    | store store => exact .inr (.inl ⟨store, rfl, rfl⟩)
    | text content =>
      simp only
      split
      · next hempty =>
        rw [String.isEmpty_iff.1 hempty]
        exact .inr (.inr ⟨.inr rfl, rfl⟩)
      · exact .inl ⟨_, rfl⟩

/-- A store is open after its file was opened: it is kept at the place, and it holds the rows that
were kept there before. -/
theorem openFile_ok {tree after : FileTree} {path : String} {store : Store}
    (hopened : tree.openFile path = (.ok store, after)) :
    after.find? (Path.place path) = some (.store store) ∧
      tree.stored (Path.place path) = store := by
  rcases tree.openFile_cases path with ⟨fault, heq⟩ | ⟨found, hfound, heq⟩ | ⟨hblank, heq⟩
  · rw [heq] at hopened
    cases hopened
  · rw [heq] at hopened
    cases hopened
    exact ⟨hfound, stored_of_find? hfound⟩
  · rw [heq] at hopened
    rcases tree.beginStore_cases (Path.place path) with ⟨fault, hbegun⟩ | hbegun
    · rw [hbegun] at hopened
      cases hopened
    · rw [hbegun] at hopened
      cases hopened
      exact ⟨find?_put_of_not_directory _ hblank.not_directory, hblank.stored⟩

/-- What opening a file leaves of what stands in a tree; only an empty text may go. -/
theorem find?_openFile {tree : FileTree} {path : String} {place : Place} {entry : FileEntry}
    (hentry : tree.find? place = some entry)
    (hkept : place = Path.place path → entry ≠ .text "") :
    (tree.openFile path).2.find? place = some entry := by
  rcases tree.openFile_cases path with ⟨fault, heq⟩ | ⟨store, hfound, heq⟩ | ⟨hblank, heq⟩
  · rw [heq]
    exact hentry
  · rw [heq]
    exact hentry
  · have hother : place ≠ Path.place path := by
      intro hsame
      rw [← hsame, IsBlank, hentry] at hblank
      rcases hblank with hblank | hblank
      · cases hblank
      · exact hkept hsame (Option.some.inj hblank)
    rw [heq]
    rcases tree.beginStore_cases (Path.place path) with ⟨fault, hbegun⟩ | hbegun
    · rw [hbegun, find?_put_of_ne _ _ hother, hentry]
    · rw [hbegun, find?_put_of_ne _ _ hother, hentry]

theorem stored_openFile (tree : FileTree) (path : String) (place : Place) :
    (tree.openFile path).2.stored place = tree.stored place := by
  rcases tree.openFile_cases path with ⟨fault, heq⟩ | ⟨store, hfound, heq⟩ | ⟨hblank, heq⟩
  · rw [heq]
  · rw [heq]
  · rw [heq]
    rcases tree.beginStore_cases (Path.place path) with ⟨fault, hbegun⟩ | hbegun
    · rw [hbegun]
      rcases tree.stored_put_cases (.text "") (Path.place path) place with hsame | ⟨rfl, hput⟩
      · exact hsame
      · rw [hblank.stored, stored, hput]
    · rw [hbegun]
      rcases tree.stored_put_cases (.store {}) (Path.place path) place with hsame | ⟨rfl, hput⟩
      · exact hsame
      · rw [hblank.stored, stored_of_find? hput]

theorem openFile_again (tree : FileTree) (path : String) :
    ((tree.openFile path).2.openFile path).2 = (tree.openFile path).2 := by
  rcases tree.openFile_cases path with ⟨fault, heq⟩ | ⟨store, hfound, heq⟩ | ⟨hblank, heq⟩
  · rw [heq]
    simp only [heq]
  · rw [heq]
    simp only [heq]
  · rw [heq]
    rcases tree.beginStore_cases (Path.place path) with ⟨fault, hbegun⟩ | hbegun
    · have hput := find?_put_of_not_directory (.text "") hblank.not_directory
      rw [hbegun]
      simp only [openFile, hput]
      rw [if_pos (by decide), beginStore_again hbegun]
    · have hput := find?_put_of_not_directory (.store {}) hblank.not_directory
      rw [hbegun]
      simp only [openFile, hput]

/-! ## Opening a store -/

/-- Directories on a way stay directories while a file is opened. -/
theorem HasWay.openFile {tree : FileTree} {names : List String} {parts : List (List Char)}
    (hway : tree.HasWay names parts) (path : String) :
    (tree.openFile path).2.HasWay names parts :=
  fun passed hpassed => find?_openFile (hway passed hpassed) fun _ => by simp

/-- Opening a store comes to a fault, or to opening its file once the way is there. -/
theorem openStore_cases (tree : FileTree) (path : String) :
    (∃ fault after, tree.openStore path = (.error fault, after) ∧
        tree.GainsDirectories after ∧ (after.openStore path).2 = after) ∨
      ∃ middle, tree.openStore path = middle.openFile path ∧ tree.GainsDirectories middle ∧
        middle.HasWay [] (Path.directoryParts path) ∧
        ∀ later : FileTree, later.HasWay [] (Path.directoryParts path) →
          later.openStore path = later.openFile path := by
  have hgains := tree.gainsDirectories_makeDirectories (Path.directoryParts path)
  simp only [openStore]
  cases hmade : tree.makeDirectories (Path.directoryParts path) with
  | mk fault middle =>
    rw [hmade] at hgains
    cases fault with
    | some fault =>
      obtain ⟨again, hagain, hsome⟩ := tree.makeDirectories_again (Path.directoryParts path)
      rw [hmade] at hagain hsome
      obtain ⟨second, rfl⟩ := Option.isSome_iff_exists.1 hsome
      exact .inl ⟨_, middle, rfl, hgains, by simp only [hagain]⟩
    | none =>
      obtain ⟨hway, hlater⟩ := makeDirectories_of_ok hmade
      have hmiddle := hlater middle hway
      by_cases hnul : path.toList.contains (Char.ofNat 0) = true
      · exact .inl ⟨_, middle, if_pos hnul, hgains, by simp only [hmiddle, if_pos hnul]⟩
      · by_cases hfits : fitsStore path = true
        · refine .inr ⟨middle, ?_, hgains, hway, ?_⟩
          · simp only [if_neg hnul, if_pos hfits]
          · intro later hthere
            simp only [hlater later hthere, if_neg hnul, if_pos hfits]
        · refine .inl ⟨.notOpened path, middle, ?_, hgains, ?_⟩
          · simp only [if_neg hnul, if_neg hfits]
          · simp only [hmiddle, if_neg hnul, if_neg hfits]

/-- Opening a store changes no rows, wherever they are kept. -/
theorem stored_openStore (tree : FileTree) (path : String) (place : Place) :
    (tree.openStore path).2.stored place = tree.stored place := by
  rcases tree.openStore_cases path with ⟨fault, after, heq, hgains, _⟩ | ⟨middle, heq, hgains, _⟩
  · rw [heq]
    exact hgains.stored place
  · rw [heq, stored_openFile]
    exact hgains.stored place

/-- To open a store twice is to open it once. -/
theorem openStore_again (tree : FileTree) (path : String) :
    ((tree.openStore path).2.openStore path).2 = (tree.openStore path).2 := by
  rcases tree.openStore_cases path with ⟨fault, after, heq, _, hagain⟩ |
    ⟨middle, heq, _, hway, hlater⟩
  · rw [heq]
    exact hagain
  · rw [heq, hlater _ (hway.openFile path)]
    exact middle.openFile_again path

theorem openStore_ok {tree after : FileTree} {path : String} {store : Store}
    (hopened : tree.openStore path = (.ok store, after)) :
    after.find? (Path.place path) = some (.store store) ∧
      tree.stored (Path.place path) = store := by
  rcases tree.openStore_cases path with ⟨fault, later, heq, _⟩ | ⟨middle, heq, hgains, _⟩
  · rw [heq] at hopened
    cases hopened
  · rw [heq] at hopened
    rw [← hgains.stored]
    exact openFile_ok hopened

/-- Where a store was opened the way to it is there, and nothing but its file decides from then
on. -/
theorem way_of_openStore_ok {tree after : FileTree} {path : String} {store : Store}
    (hopened : tree.openStore path = (.ok store, after)) :
    after.HasWay [] (Path.directoryParts path) ∧
      ∀ later : FileTree, later.HasWay [] (Path.directoryParts path) →
        later.openStore path = later.openFile path := by
  rcases tree.openStore_cases path with ⟨fault, later, heq, _⟩ | ⟨middle, heq, _, hway, hlater⟩
  · rw [heq] at hopened
    cases hopened
  · have hthere := hway.openFile path
    rw [← heq, hopened] at hthere
    exact ⟨hthere, hlater⟩

/-- A store that was opened is found as it is. -/
theorem openStore_of_ok {tree after : FileTree} {path : String} {store : Store}
    (hopened : tree.openStore path = (.ok store, after)) :
    after.openStore path = (.ok store, after) := by
  obtain ⟨hthere, hlater⟩ := way_of_openStore_ok hopened
  rw [hlater after hthere, openFile]
  simp only [(openStore_ok hopened).1]

/-- A store that was open can be opened again, whatever rows are kept in it meanwhile. -/
theorem openStore_keepStore {tree after : FileTree} {path : String} {store : Store}
    (hopened : tree.openStore path = (.ok store, after)) (kept : Store) :
    (after.keepStore path kept).openStore path = (.ok kept, after.keepStore path kept) := by
  have hstands := (openStore_ok hopened).1
  obtain ⟨hthere, hlater⟩ := way_of_openStore_ok hopened
  have hkept : (after.keepStore path kept).HasWay [] (Path.directoryParts path) := by
    intro passed hpassed
    have hdirectory := hthere passed hpassed
    have hother : passed.reverse ≠ Path.place path := by
      intro hsame
      rw [hsame, hstands] at hdirectory
      cases hdirectory
    rw [keepStore, find?_put_of_ne _ _ hother, hdirectory]
  have hput : (after.keepStore path kept).find? (Path.place path) = some (.store kept) :=
    find?_put_of_not_directory _ (by simp [hstands])
  rw [hlater _ hkept, openFile]
  simp only [hput]

/-- What opening a store leaves of what stands in a tree; only an empty text may go. -/
theorem find?_openStore {tree : FileTree} {path : String} {place : Place} {entry : FileEntry}
    (hentry : tree.find? place = some entry)
    (hkept : place = Path.place path → entry ≠ .text "") :
    (tree.openStore path).2.find? place = some entry := by
  rcases tree.openStore_cases path with ⟨fault, after, heq, hgains, _⟩ | ⟨middle, heq, hgains, _⟩
  · rw [heq]
    exact hgains.find?_eq_some hentry
  · rw [heq]
    exact find?_openFile (hgains.find?_eq_some hentry) hkept

/-- What stands at a place stands there after a store was opened, or it has become a store. -/
theorem find?_openStore_cases {tree : FileTree} (path : String) {place : Place} {entry : FileEntry}
    (hentry : tree.find? place = some entry) :
    (tree.openStore path).2.find? place = some entry ∨
      ∃ store, (tree.openStore path).2.find? place = some (.store store) := by
  by_cases hblank : entry = .text ""
  · rcases tree.openStore_cases path with ⟨fault, after, heq, hgains, _⟩ |
      ⟨middle, heq, hgains, _⟩
    · rw [heq]
      exact .inl (hgains.find?_eq_some hentry)
    · have hmiddle := hgains.find?_eq_some hentry
      rw [heq]
      rcases middle.openFile_cases path with ⟨fault, hopened⟩ | ⟨store, _, hopened⟩ | ⟨_, hopened⟩
      · rw [hopened]
        exact .inl hmiddle
      · rw [hopened]
        exact .inl hmiddle
      · rw [hopened]
        rcases middle.beginStore_cases (Path.place path) with ⟨fault, hbegun⟩ | hbegun
        · rw [hbegun, find?_put]
          split
          · exact .inl (congrArg some hblank.symm)
          · exact .inl hmiddle
        · rw [hbegun, find?_put]
          split
          · exact .inr ⟨{}, rfl⟩
          · exact .inl hmiddle
  · exact .inl (find?_openStore hentry fun _ => hblank)

theorem isSome_find?_openStore {tree : FileTree} (path : String) {place : Place}
    (hentry : (tree.find? place).isSome = true) :
    ((tree.openStore path).2.find? place).isSome = true := by
  obtain ⟨entry, hentry⟩ := Option.isSome_iff_exists.1 hentry
  rcases find?_openStore_cases path hentry with hsame | ⟨store, hstore⟩
  · rw [hsame]
    rfl
  · rw [hstore]
    rfl

end RecordGraph.FileTree
