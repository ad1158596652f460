import Mathlib.Data.List.Forall2
import RecordGraph.Job.Row
import RecordGraph.Proofs.ReferenceGrammar
import RecordGraph.Proofs.Rows

/-!
# Words for kinds and stages

A word is read by folding it and comparing it with the folded names.  Folding forgets the case of
ASCII letters and turns underscores and hyphens into spaces, after the blanks at the ends are gone.
So a word names a kind or a stage exactly when it agrees with the stored name character by
character, and no word names two.  The rows of the table hold stored names, which are read back as
what was written.
-/

namespace RecordGraph

/-- A character agrees with a letter of a name up to ASCII case, where an underscore and a hyphen
count as a space. -/
def AgreesWith (c letter : Char) : Prop :=
  c.toLower = letter.toLower ∨ (c = '_' ∨ c = '-') ∧ letter = ' '

/-- Blanks, a word that agrees with the name character by character, and blanks again. -/
inductive Spells (name : String) : List Char → Prop where
  | parts {before word after : List Char} (hbefore : Text.Blank before) (hword : Text.Bare word)
    (hafter : Text.Blank after) (hagrees : List.Forall₂ AgreesWith word name.toList) :
    Spells name (before ++ word ++ after)

/-! ## Folding -/

variable {c letter : Char} {cs word : List Char}

/-- Only capitals change, and they become letters again. -/
theorem eq_of_toLower_eq (hc : c.isAlpha = false) (hlower : letter.toLower = c) : letter = c := by
  delta Char.toLower at hlower
  split at hlower
  · next hcapital =>
    have hfirst : 65 ≤ letter.val.toNat := UInt32.le_iff_toNat_le.1 hcapital.1
    have hlast : letter.val.toNat ≤ 90 := UInt32.le_iff_toNat_le.1 hcapital.2
    have hcode : c.val.toNat = letter.val.toNat + 32 := by
      rw [← hlower]
      exact (UInt32.toNat_add _ _).trans (Nat.mod_eq_of_lt (Nat.lt_of_le_of_lt
        (Nat.add_le_add_right hlast 32) (by decide)))
    have hleast : 97 ≤ c.val.toNat := by omega
    have hgreatest : c.val.toNat ≤ 122 := by omega
    have hsmall : c.isLower = true := by
      delta Char.isLower
      exact Bool.and_eq_true_iff.2 ⟨decide_eq_true (UInt32.le_iff_toNat_le.2 hleast),
        decide_eq_true (UInt32.le_iff_toNat_le.2 hgreatest)⟩
    delta Char.isAlpha at hc
    rw [hsmall, Bool.or_true] at hc
    cases hc
  · exact hlower

/-- Where a letter of a name is no separator, folding compares as characters agree. -/
theorem foldChar_eq_iff (hunderscore : letter ≠ '_') (hhyphen : letter ≠ '-') :
    foldChar letter = foldChar c ↔ AgreesWith c letter := by
  have hletter : foldChar letter = letter.toLower := by
    simp [foldChar, hunderscore, hhyphen]
  have hspace : letter.toLower = ' ' ↔ letter = ' ' := by
    refine ⟨eq_of_toLower_eq (by decide), ?_⟩
    rintro rfl
    rfl
  rw [hletter, AgreesWith]
  -- A separator agrees with a space only, as no letter of the name is a separator.
  by_cases hc : c = '_' ∨ c = '-'
  · have hfold : foldChar c = ' ' := by
      rcases hc with rfl | rfl <;> rfl
    have hlower : c.toLower ≠ letter.toLower := by
      rcases hc with rfl | rfl
      · exact fun heq => hunderscore (eq_of_toLower_eq (by decide) heq.symm)
      · exact fun heq => hhyphen (eq_of_toLower_eq (by decide) heq.symm)
    rw [hfold, hspace, or_iff_right hlower, and_iff_right hc]
  · have hfold : foldChar c = c.toLower := by
      obtain ⟨hunderscore, hhyphen⟩ := not_or.1 hc
      simp [foldChar, hunderscore, hhyphen]
    rw [hfold, or_iff_left fun hseparator => hc hseparator.1, eq_comm]

/-- Folding makes a name and a word equal where the word agrees with the name. -/
theorem map_foldChar_eq_iff {name : List Char}
    (hname : ∀ letter ∈ name, letter ≠ '_' ∧ letter ≠ '-') :
    name.map foldChar = word.map foldChar ↔ List.Forall₂ AgreesWith word name := by
  induction name generalizing word with
  | nil => simp
  | cons letter rest ih =>
    obtain ⟨⟨hunderscore, hhyphen⟩, hrest⟩ := List.forall_mem_cons.1 hname
    cases word with
    | nil => simp
    | cons c word =>
      rw [List.map_cons, List.map_cons, List.cons.injEq, List.forall₂_cons, ih hrest,
        foldChar_eq_iff hunderscore hhyphen]

/-- A word spells a name that is not empty where the rest agrees after the blanks are dropped. -/
theorem spells_iff {name : String} (hname : name.toList ≠ []) :
    Spells name cs ↔ List.Forall₂ AgreesWith (Text.trim cs) name.toList := by
  constructor
  · rintro ⟨hbefore, hword, hafter, hagrees⟩
    rw [Text.trim_surrounded hbefore hword hafter]
    · exact hagrees
    · rintro rfl
      exact hname (List.forall₂_nil_left_iff.1 hagrees)
  · intro hagrees
    obtain ⟨before, after, hbefore, hafter, hcs⟩ := Text.exists_surrounded cs
    rw [hcs]
    exact .parts hbefore (Text.bare_trim cs) hafter hagrees

/-! ## Readers -/

/-- The list holds all values, whose names fold apart and hold no underscore and no hyphen. -/
structure Names {α : Type} (all : List α) (name : α → String) : Prop where
  complete : ∀ value, value ∈ all
  apart : (all.map fun value => (name value).toList.map foldChar).Nodup
  nonempty : ∀ value, (name value).toList ≠ []
  plain : ∀ value, ∀ letter ∈ (name value).toList, letter ≠ '_' ∧ letter ≠ '-'

/-- Reading accepts just the words that spell a name, each of which spells only one. -/
structure ReadsExactly {α : Type} (expected : String) (name : α → String)
    (parse : String → Except UnknownWord α) : Prop where
  accepts : ∀ (text : String) value, parse text = .ok value ↔ Spells (name value) text.toList
  refuses : ∀ text : String,
    parse text = .error ⟨expected, text⟩ ↔ ∀ value, ¬Spells (name value) text.toList
  unambiguous : ∀ (text : String) first second, Spells (name first) text.toList →
    Spells (name second) text.toList → first = second
  reads_names : ∀ value, parse (name value) = .ok value

section

variable {α : Type} {all : List α} {name : α → String} {value : α}

theorem Names.find?_eq_some_iff (hnames : Names all name) :
    all.find? (fun value => (name value).toList.map foldChar == foldWord cs) = some value ↔
      Spells (name value) cs := by
  rw [find?_key_eq_some_iff hnames.apart, and_iff_right (hnames.complete value), foldWord,
    map_foldChar_eq_iff (hnames.plain value), spells_iff (hnames.nonempty value)]

theorem Names.find?_eq_none_iff (hnames : Names all name) :
    all.find? (fun value => (name value).toList.map foldChar == foldWord cs) = none ↔
      ∀ value, ¬Spells (name value) cs := by
  rw [Option.eq_none_iff_forall_ne_some]
  exact forall_congr' fun value => not_congr hnames.find?_eq_some_iff

/-- Names that fold apart are different names. -/
theorem Names.find?_name_eq_some_iff (hnames : Names all name) {text : String} :
    all.find? (fun value => name value == text) = some value ↔ name value = text := by
  have hapart : (all.map name).Nodup := by
    apply List.Nodup.of_map fun text => text.toList.map foldChar
    rw [List.map_map]
    exact hnames.apart
  rw [find?_key_eq_some_iff hapart, and_iff_right (hnames.complete value)]

/-- A reader that looks for the folded word reads exactly. -/
theorem Names.readsExactly (hnames : Names all name) {expected : String}
    {parse : String → Except UnknownWord α}
    (hparse : ∀ text : String, parse text = Option.elim
      (all.find? fun value => (name value).toList.map foldChar == foldWord text.toList)
      (.error ⟨expected, text⟩) .ok)
    (hself : ∀ value, parse (name value) = .ok value) : ReadsExactly expected name parse where
  accepts text value := by
    rw [hparse, ← hnames.find?_eq_some_iff]
    cases all.find? fun value => (name value).toList.map foldChar == foldWord text.toList with
    | none => simp
    | some found => simp
  refuses text := by
    rw [hparse, ← hnames.find?_eq_none_iff]
    cases all.find? fun value => (name value).toList.map foldChar == foldWord text.toList with
    | none => simp
    | some found => simp
  unambiguous text first second hfirst hsecond := by
    rw [← hnames.find?_eq_some_iff] at hfirst hsecond
    exact Option.some.inj (hfirst.symm.trans hsecond)
  reads_names := hself

end

/-! ## Kinds and stages -/

theorem JobKind.names : Names all name where
  complete kind := by cases kind <;> decide
  apart := by decide
  nonempty kind := by cases kind <;> decide
  plain kind := by cases kind <;> simp [name]

theorem JobStatus.names : Names all name where
  complete status := by cases status <;> decide
  apart := by decide
  nonempty status := by cases status <;> decide
  plain status := by cases status <;> simp [name]

theorem JobKind.readsExactly : ReadsExactly "job type" name parse := by
  refine names.readsExactly (fun text => ?_) fun kind => by cases kind <;> decide
  rw [parse, ofChars?]
  split
  · next kind hkind => rw [hkind, Option.elim_some]
  · next hnone => rw [hnone, Option.elim_none]

theorem JobStatus.readsExactly : ReadsExactly "job status" name parse := by
  refine names.readsExactly (fun text => ?_) fun status => by cases status <;> decide
  rw [parse, ofChars?]
  split
  · next status hstatus => rw [hstatus, Option.elim_some]
  · next hnone => rw [hnone, Option.elim_none]

/-! ## Rows -/

/-- Reading a row gives the job that it keeps. -/
theorem Job.job_row (job : Job) : job.row.job = .ok job := by
  rw [row, JobRow.job, JobKind.readsExactly.reads_names, JobStatus.readsExactly.reads_names]

/-- The table takes just the rows that keep jobs. -/
theorem JobRow.isAllowed_iff {row : JobRow} :
    row.isAllowed = true ↔ ∃ job : Job, job.row = row := by
  rw [isAllowed, Bool.and_eq_true, Option.isSome_iff_exists, Option.isSome_iff_exists]
  simp only [JobKind.ofName?, JobKind.names.find?_name_eq_some_iff, JobStatus.ofName?,
    JobStatus.names.find?_name_eq_some_iff]
  constructor
  · rintro ⟨⟨kind, hkind⟩, status, hstatus⟩
    refine ⟨{ id := row.id, kind, status, description := row.description
              createdAt := row.createdAt, startAt := row.startAt, endAt := row.endAt
              ownerId := row.ownerId, results := row.results, title := row.title
              content := row.content, driveMetadata := row.driveMetadata }, ?_⟩
    rw [Job.row, hkind, hstatus]
  · rintro ⟨job, rfl⟩
    exact ⟨⟨job.kind, rfl⟩, job.status, rfl⟩

/-- The words of stages and kinds are read exactly, and so every row that the table takes is read as
the job that was written into it. -/
theorem job_words_read_exactly :
    ReadsExactly "job status" JobStatus.name JobStatus.parse ∧
      ReadsExactly "job type" JobKind.name JobKind.parse ∧
      (∀ row : JobRow, row.isAllowed = true ↔ ∃ job : Job, job.row = row) ∧
      ∀ job : Job, job.row.job = .ok job :=
  ⟨JobStatus.readsExactly, JobKind.readsExactly, fun _ => JobRow.isAllowed_iff, Job.job_row⟩

/-- A blank beyond ASCII is dropped, and a hyphen stands for a space. -/
example : JobStatus.parse "\u2003in-PROGRESS\n" = .ok .inProgress := by decide

/-- An underscore at the start is no blank. -/
example : JobKind.parse "_import" = .error ⟨"job type", "_import"⟩ := by decide

end RecordGraph
