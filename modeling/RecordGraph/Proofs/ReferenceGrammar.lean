import Mathlib.Data.List.TakeWhile
import Mathlib.Data.Nat.Digits.Defs
import RecordGraph.Proofs.WrittenNumbers
import RecordGraph.Stub

/-!
# The grammar of references

A written reference is a type, a separator and a number, with blanks around each of them.  Reading
drops blanks three times and cuts at the last `#`, or at the last `:` of a text without `#`.  Neither
separator occurs in a type, a number or a blank, so a text is read exactly when it is put together
like that, in one way only.
-/

namespace RecordGraph

/-! ## Blanks -/

namespace Text

/-- A run of blanks, which may be empty. -/
def Blank (cs : List Char) : Prop := ∀ c ∈ cs, isBlank c = true

/-- The text neither starts nor ends with a blank. -/
structure Bare (cs : List Char) : Prop where
  head : ∀ c ∈ cs.head?, isBlank c = false
  last : ∀ c ∈ cs.getLast?, isBlank c = false

variable {before core after cs : List Char}

theorem blank_nil : Blank [] := by
  intro c hc
  cases hc

theorem isBlank_of_isAlphanum {c : Char} (hc : c.isAlphanum = true) : isBlank c = false := by
  have hwithin : ∀ {first last : Char}, first.val ≤ c.val ∧ c.val ≤ last.val →
      first.toNat ≤ c.toNat ∧ c.toNat ≤ last.toNat :=
    And.imp UInt32.le_iff_toNat_le.1 UInt32.le_iff_toNat_le.1
  have hrange : 48 ≤ c.toNat ∧ c.toNat ≤ 122 := by
    rcases Bool.or_eq_true_iff.1 hc with hletter | hdigit
    · rcases Bool.or_eq_true_iff.1 hletter with hupper | hlower
      · have hbounds : 65 ≤ c.toNat ∧ c.toNat ≤ 90 := hwithin (of_decide_eq_true hupper)
        omega
      · obtain ⟨hfirst, hlast⟩ := Bool.and_eq_true_iff.1 hlower
        have hbounds : 97 ≤ c.toNat ∧ c.toNat ≤ 122 :=
          hwithin ⟨of_decide_eq_true hfirst, of_decide_eq_true hlast⟩
        omega
    · have hbounds : 48 ≤ c.toNat ∧ c.toNat ≤ 57 := Char.isDigit_iff_toNat.1 hdigit
      omega
  simp only [isBlank, Bool.or_eq_false_iff, Bool.and_eq_false_iff, decide_eq_false_iff_not,
    beq_eq_false_iff_ne]
  omega

theorem Bare.of_forall (hcs : ∀ c ∈ cs, isBlank c = false) : Bare cs :=
  ⟨fun c hc => hcs c (List.mem_of_mem_head? hc), fun c hc => hcs c (List.mem_of_mem_getLast? hc)⟩

/-- Whatever lies between two texts without blanks, the ends are no blanks. -/
theorem Bare.enclosed (between : List Char) (hbefore : before ≠ []) (hafter : after ≠ [])
    (hleft : ∀ c ∈ before, isBlank c = false) (hright : ∀ c ∈ after, isBlank c = false) :
    Bare (before ++ between ++ after) := by
  constructor
  · intro c hc
    obtain ⟨first, rest, rfl⟩ := List.exists_cons_of_ne_nil hbefore
    cases hc
    exact hleft _ List.mem_cons_self
  · intro c hc
    rw [List.getLast?_append, List.getLast?_eq_some_getLast hafter, Option.some_or] at hc
    cases hc
    exact hright _ (List.getLast_mem hafter)

theorem Blank.append (hbefore : Blank before) (hafter : Blank after) : Blank (before ++ after) :=
  List.forall_mem_append.2 ⟨hbefore, hafter⟩

theorem dropWhile_blank_append (hbefore : Blank before)
    (hhead : ∀ c ∈ core.head?, isBlank c = false) :
    (before ++ core).dropWhile isBlank = core := by
  rw [List.dropWhile_append_of_pos hbefore]
  cases core with
  | nil => rfl
  | cons c rest => rw [List.dropWhile_cons_of_neg (by simp [hhead c rfl])]

theorem dropBlankEnd_append (hafter : Blank after)
    (hlast : ∀ c ∈ core.getLast?, isBlank c = false) : dropBlankEnd (core ++ after) = core := by
  have hreverse : Blank after.reverse := fun c hc => hafter c (List.mem_reverse.1 hc)
  rw [dropBlankEnd, List.reverse_append, dropWhile_blank_append hreverse, List.reverse_reverse]
  rwa [List.head?_reverse]

/-- Dropping blanks at both ends leaves the text between them. -/
theorem trim_surrounded (hbefore : Blank before) (hcore : Bare core) (hafter : Blank after)
    (hcs : core ≠ []) : trim (before ++ core ++ after) = core := by
  obtain ⟨c, rest, rfl⟩ := List.exists_cons_of_ne_nil hcs
  rw [trim, List.append_assoc, dropWhile_blank_append hbefore, dropBlankEnd_append hafter hcore.last]
  exact hcore.head

/-- What is dropped at the ends is blank. -/
theorem exists_surrounded (cs : List Char) :
    ∃ before after, Blank before ∧ Blank after ∧ cs = before ++ trim cs ++ after := by
  refine ⟨cs.takeWhile isBlank, ((cs.dropWhile isBlank).reverse.takeWhile isBlank).reverse,
    fun _ => List.mem_takeWhile_imp, fun c hc => ?_, ?_⟩
  · exact List.mem_takeWhile_imp (List.mem_reverse.1 hc)
  · rw [trim, dropBlankEnd, List.append_assoc, ← List.reverse_append,
      List.takeWhile_append_dropWhile, List.reverse_reverse, List.takeWhile_append_dropWhile]

theorem isBlank_head?_dropWhile (cs : List Char) {c : Char}
    (hc : c ∈ (cs.dropWhile isBlank).head?) : isBlank c = false := by
  have hdropped := List.head?_dropWhile_not isBlank cs
  rwa [Option.mem_def.1 hc] at hdropped

/-- What is left neither starts nor ends with a blank. -/
theorem bare_trim (cs : List Char) : Bare (trim cs) where
  head c hc := by
    have hsplit : trim cs ++ ((cs.dropWhile isBlank).reverse.takeWhile isBlank).reverse =
        cs.dropWhile isBlank := by
      rw [trim, dropBlankEnd, ← List.reverse_append, List.takeWhile_append_dropWhile,
        List.reverse_reverse]
    apply isBlank_head?_dropWhile cs
    rw [← hsplit, List.head?_append, Option.mem_def.1 hc]
    rfl
  last c hc := by
    rw [trim, dropBlankEnd, List.getLast?_reverse] at hc
    exact isBlank_head?_dropWhile _ hc

end Text

/-! ## Numbers -/

namespace Decimal

/-- The number that digits stand for, the last digit counting ones. -/
def placeValue (digits : List Char) : ℕ := Nat.ofDigits 10 (digits.reverse.map digitValue)

/-- One or more ASCII digits. -/
def IsDigits (cs : List Char) : Prop := cs ≠ [] ∧ ∀ c ∈ cs, c.isDigit = true

/-- A text of digits with an optional sign, and its value. -/
inductive Numeral : List Char → Int → Prop where
  | unsigned {digits : List Char} (hdigits : IsDigits digits) :
    Numeral digits (placeValue digits)
  | plus {digits : List Char} (hdigits : IsDigits digits) :
    Numeral ('+' :: digits) (placeValue digits)
  | minus {digits : List Char} (hdigits : IsDigits digits) :
    Numeral ('-' :: digits) (-placeValue digits)

variable {cs : List Char} {value : Int}

theorem ofDigits_eq_placeValue (digits : List Char) : ofDigits digits = placeValue digits := by
  induction digits with
  | nil => rfl
  | cons c rest ih =>
    rw [ofDigits_cons, ih, placeValue, placeValue, List.reverse_cons, List.map_append,
      Nat.ofDigits_append, List.length_map, List.length_reverse, List.map_singleton,
      Nat.ofDigits_singleton, Nat.add_comm, Nat.mul_comm]

theorem readNat?_eq_some_iff {number : ℕ} :
    readNat? cs = some number ↔ IsDigits cs ∧ number = placeValue cs := by
  have hdigits : (cs ≠ [] ∧ cs.all Char.isDigit = true) ↔ IsDigits cs := by
    rw [IsDigits, List.all_eq_true]
  rw [readNat?, ← ofDigits_eq_placeValue]
  by_cases hcs : IsDigits cs
  · rw [if_pos (hdigits.2 hcs), Option.some.injEq, and_iff_right hcs, eq_comm]
  · rw [if_neg (mt hdigits.1 hcs)]
    exact iff_of_false (Option.some_ne_none _).symm fun hread => hcs hread.1

/-- No sign is a digit, so a text is a numeral in one way only. -/
theorem readInt?_eq_some_iff : readInt? cs = some value ↔ Numeral cs value := by
  have hsign : ∀ {sign : Char} {rest : List Char}, sign.isDigit = false →
      ¬IsDigits (sign :: rest) := by
    intro sign rest hsign hdigits
    rw [hdigits.2 sign List.mem_cons_self] at hsign
    cases hsign
  unfold readInt?
  split
  · next rest =>
    simp only [Option.map_eq_some_iff, Option.bind_eq_bind, Option.bind_eq_some_iff,
      Option.pure_def, Option.some.injEq, readNat?_eq_some_iff]
    constructor
    · rintro ⟨_, ⟨_, ⟨hdigits, rfl⟩, rfl⟩, rfl⟩
      exact .minus hdigits
    · intro hnumeral
      cases hnumeral with
      | unsigned hdigits => exact absurd hdigits (hsign (by decide))
      | minus hdigits => exact ⟨_, ⟨_, ⟨hdigits, rfl⟩, rfl⟩, rfl⟩
  · next rest =>
    simp only [Option.map_eq_some_iff, readNat?_eq_some_iff]
    constructor
    · rintro ⟨_, ⟨hdigits, rfl⟩, rfl⟩
      exact .plus hdigits
    · intro hnumeral
      cases hnumeral with
      | unsigned hdigits => exact absurd hdigits (hsign (by decide))
      | plus hdigits => exact ⟨_, ⟨hdigits, rfl⟩, rfl⟩
  · next hminus hplus =>
    simp only [Option.map_eq_some_iff, readNat?_eq_some_iff]
    constructor
    · rintro ⟨_, ⟨hdigits, rfl⟩, rfl⟩
      exact .unsigned hdigits
    · intro hnumeral
      cases hnumeral with
      | unsigned hdigits => exact ⟨_, ⟨hdigits, rfl⟩, rfl⟩
      | plus hdigits => exact absurd rfl (hplus _)
      | minus hdigits => exact absurd rfl (hminus _)

theorem read?_eq_some_iff : read? cs = some value ↔ Numeral cs value ∧ InRange value := by
  rw [read?, Option.filter_eq_some_iff, readInt?_eq_some_iff, decide_eq_true_eq]

/-- A numeral is made of digits and at most a sign. -/
theorem Numeral.mem {c : Char} (hnumeral : Numeral cs value) (hc : c ∈ cs) :
    c.isDigit = true ∨ c = '+' ∨ c = '-' := by
  cases hnumeral with
  | unsigned hdigits => exact .inl (hdigits.2 c hc)
  | plus hdigits =>
    rcases List.mem_cons.1 hc with hsign | hrest
    · exact .inr (.inl hsign)
    · exact .inl (hdigits.2 c hrest)
  | minus hdigits =>
    rcases List.mem_cons.1 hc with hsign | hrest
    · exact .inr (.inr hsign)
    · exact .inl (hdigits.2 c hrest)

theorem Numeral.isBlank_eq_false {c : Char} (hnumeral : Numeral cs value) (hc : c ∈ cs) :
    Text.isBlank c = false := by
  rcases hnumeral.mem hc with hdigit | rfl | rfl
  · exact Text.isBlank_of_isAlphanum (by rw [Char.isAlphanum, hdigit, Bool.or_true])
  · decide
  · decide

theorem Numeral.ne_nil (hnumeral : Numeral cs value) : cs ≠ [] := by
  cases hnumeral with
  | unsigned hdigits => exact hdigits.1
  | plus hdigits => exact List.cons_ne_nil _ _
  | minus hdigits => exact List.cons_ne_nil _ _

end Decimal

/-! ## References -/

namespace Stub

/-- One or more ASCII letters and digits. -/
def NamesType (cs : List Char) : Prop := cs ≠ [] ∧ ∀ c ∈ cs, c.isAlphanum = true

/-- A type, a separator and a number, with blanks around each. -/
inductive Spelling : List Char → Stub → Prop where
  | parts {before between padding number after : List Char} {separator : Char} {stub : Stub}
    (htype : NamesType stub.type.toList) (hseparator : separator = '#' ∨ separator = ':')
    (hnumber : Decimal.Numeral number stub.id) (hrange : Decimal.InRange stub.id)
    (hbefore : Text.Blank before) (hbetween : Text.Blank between) (hpadding : Text.Blank padding)
    (hafter : Text.Blank after) :
    Spelling (before ++ stub.type.toList ++ between ++ separator :: (padding ++ number ++ after))
      stub

variable {cs left right : List Char} {separator c : Char} {stub : Stub} {value : Int}

/-! ### The separator -/

/-- The character separates nothing. -/
def IsPlain (c : Char) : Prop := c ≠ '#' ∧ c ≠ ':'

/-- What holds of no separator holds of plain characters only. -/
theorem IsPlain.of (property : Char → Prop) (hc : property c) (hhash : ¬property '#')
    (hcolon : ¬property ':') : IsPlain c :=
  ⟨fun heq => hhash (heq ▸ hc), fun heq => hcolon (heq ▸ hc)⟩

theorem NamesType.plain (hname : NamesType cs) (hc : c ∈ cs) : IsPlain c :=
  .of (fun c => c.isAlphanum = true) (hname.2 c hc) (by decide) (by decide)

theorem plain_of_isBlank (hblank : Text.isBlank c = true) : IsPlain c :=
  .of (fun c => Text.isBlank c = true) hblank (by decide) (by decide)

theorem plain_of_numeral (hnumeral : Decimal.Numeral cs value) (hc : c ∈ cs) : IsPlain c :=
  .of (fun c => c.isDigit = true ∨ c = '+' ∨ c = '-') (hnumeral.mem hc) (by decide) (by decide)

theorem bne_of_mem_reverse (hcs : separator ∉ cs) (hc : c ∈ cs.reverse) :
    (c != separator) = true := by
  rw [bne_iff_ne]
  rintro rfl
  exact hcs (List.mem_reverse.1 hc)

/-- The cut is at the last occurrence of the separator. -/
theorem cutLast_append (hright : separator ∉ right) :
    cutLast separator (left ++ separator :: right) = some (left, right) := by
  have hreverse : (left ++ separator :: right).reverse =
      right.reverse ++ separator :: left.reverse := by simp
  have hother : ∀ c ∈ right.reverse, (c != separator) = true := fun _ => bne_of_mem_reverse hright
  rw [cutLast, hreverse, List.dropWhile_append_of_pos hother, List.takeWhile_append_of_pos hother]
  simp

theorem cutLast_eq_none (hcs : separator ∉ cs) : cutLast separator cs = none := by
  have hother : ∀ c ∈ cs.reverse, (c != separator) = true := fun _ => bne_of_mem_reverse hcs
  rw [cutLast, List.dropWhile_eq_nil_iff.2 hother]

theorem eq_append_of_cutLast (hcut : cutLast separator cs = some (left, right)) :
    cs = left ++ separator :: right := by
  by_cases hmem : separator ∈ cs
  · obtain ⟨after, before, hreverse, hafter⟩ :=
      List.eq_append_cons_of_mem (List.mem_reverse.2 hmem)
    have hcs : cs = before.reverse ++ separator :: after.reverse := by
      rw [← List.reverse_reverse cs, hreverse]
      simp
    have hright : separator ∉ after.reverse := fun hafter' => hafter (List.mem_reverse.1 hafter')
    rw [hcs, cutLast_append hright] at hcut
    cases hcut
    exact hcs
  · rw [cutLast_eq_none hmem] at hcut
    cases hcut

theorem eq_append_of_cut (hcut : (cutLast '#' cs).or (cutLast ':' cs) = some (left, right)) :
    ∃ separator, (separator = '#' ∨ separator = ':') ∧ cs = left ++ separator :: right := by
  rcases Option.or_eq_some_iff.1 hcut with hhash | ⟨_, hcolon⟩
  · exact ⟨'#', .inl rfl, eq_append_of_cutLast hhash⟩
  · exact ⟨':', .inr rfl, eq_append_of_cutLast hcolon⟩

/-- A separator between two texts without separators is where the text is cut. -/
theorem cut_append (hseparator : separator = '#' ∨ separator = ':')
    (hleft : ∀ c ∈ left, IsPlain c) (hright : ∀ c ∈ right, IsPlain c) :
    (cutLast '#' (left ++ separator :: right)).or (cutLast ':' (left ++ separator :: right)) =
      some (left, right) := by
  have hhash : '#' ∉ left := fun hmem => (hleft '#' hmem).1 rfl
  rcases hseparator with rfl | rfl
  · rw [cutLast_append fun hmem => (hright '#' hmem).1 rfl, Option.some_or]
  · have hnone : '#' ∉ left ++ ':' :: right := by
      rw [List.mem_append, List.mem_cons]
      rintro (hmem | hmem | hmem)
      · exact hhash hmem
      · exact absurd hmem (by decide)
      · exact (hright '#' hmem).1 rfl
    rw [cutLast_eq_none hnone, Option.none_or,
      cutLast_append fun hmem => (hright ':' hmem).2 rfl]

/-! ### Reading -/

theorem ofChars?_eq_some_iff :
    ofChars? cs = some stub ↔
      ∃ left right,
        (cutLast '#' (Text.trim cs)).or (cutLast ':' (Text.trim cs)) = some (left, right) ∧
          Text.trim left = stub.type.toList ∧ NamesType stub.type.toList ∧
          Decimal.Numeral (Text.trim right) stub.id ∧ Decimal.InRange stub.id := by
  have hname : ∀ name : List Char, (name ≠ [] ∧ name.all isTypeChar = true) ↔ NamesType name :=
    fun name => and_congr_right' List.all_eq_true
  rw [ofChars?]
  dsimp only
  cases hcut : (cutLast '#' (Text.trim cs)).or (cutLast ':' (Text.trim cs)) with
  | none => simp
  | some parts =>
    obtain ⟨left, right⟩ := parts
    simp only [Option.some.injEq, Prod.mk.injEq]
    constructor
    · intro hread
      split at hread
      · next htype =>
        obtain ⟨id, hid, rfl⟩ := Option.map_eq_some_iff.1 hread
        obtain ⟨hnumber, hrange⟩ := Decimal.read?_eq_some_iff.1 hid
        refine ⟨left, right, ⟨rfl, rfl⟩, ?_, ?_, hnumber, hrange⟩
        · rw [String.toList_ofList]
        · rwa [String.toList_ofList, ← hname]
      · cases hread
    · rintro ⟨_, _, ⟨rfl, rfl⟩, hleft, htype, hnumber⟩
      rw [hleft, if_pos ((hname _).2 htype), Decimal.read?_eq_some_iff.2 hnumber, Option.map_some,
        String.ofList_toList]

/-- Between the blanks at its ends a reference starts with its type and ends with its number. -/
theorem Spelling.ofChars? (hspelling : Spelling cs stub) : ofChars? cs = some stub := by
  cases hspelling with
  | @parts before between padding number after separator _ htype hseparator hnumber hrange hbefore
      hbetween hpadding hafter =>
    have hbareType : ∀ c ∈ stub.type.toList, Text.isBlank c = false :=
      fun c hc => Text.isBlank_of_isAlphanum (htype.2 c hc)
    have hbareNumber : ∀ c ∈ number, Text.isBlank c = false :=
      fun c hc => hnumber.isBlank_eq_false hc
    have hinner : Text.trim (before ++ stub.type.toList ++ between ++
        separator :: (padding ++ number ++ after)) =
          stub.type.toList ++ between ++ separator :: (padding ++ number) := by
      have hends := Text.Bare.enclosed (between ++ separator :: padding) htype.1 hnumber.ne_nil
        hbareType hbareNumber
      have htrim := Text.trim_surrounded hbefore hends hafter (by simp)
      simpa only [List.append_assoc, List.cons_append] using htrim
    refine ofChars?_eq_some_iff.2 ⟨stub.type.toList ++ between, padding ++ number, ?_, ?_, htype, ?_,
      hrange⟩
    · rw [hinner]
      refine cut_append hseparator (fun c hc => ?_) (fun c hc => ?_)
      · rcases List.mem_append.1 hc with hc | hc
        · exact htype.plain hc
        · exact plain_of_isBlank (hbetween c hc)
      · rcases List.mem_append.1 hc with hc | hc
        · exact plain_of_isBlank (hpadding c hc)
        · exact plain_of_numeral hnumber hc
    · have htrim := Text.trim_surrounded Text.blank_nil (Text.Bare.of_forall hbareType) hbetween
        htype.1
      rwa [List.nil_append] at htrim
    · have htrim := Text.trim_surrounded hpadding (Text.Bare.of_forall hbareNumber) Text.blank_nil
        hnumber.ne_nil
      rw [List.append_nil] at htrim
      rwa [htrim]

theorem spelling_of_ofChars? (hread : Stub.ofChars? cs = some stub) : Spelling cs stub := by
  obtain ⟨left, right, hcut, hleft, htype, hnumber, hrange⟩ := ofChars?_eq_some_iff.1 hread
  obtain ⟨separator, hseparator, hinner⟩ := eq_append_of_cut hcut
  obtain ⟨before, after, hbefore, hafter, hcs⟩ := Text.exists_surrounded cs
  obtain ⟨beforeType, between, hbeforeType, hbetween, htypeText⟩ := Text.exists_surrounded left
  obtain ⟨padding, afterNumber, hpadding, hafterNumber, hnumberText⟩ :=
    Text.exists_surrounded right
  generalize Text.trim right = number at hnumber hnumberText
  have hparts := Spelling.parts htype hseparator hnumber hrange (hbefore.append hbeforeType)
    hbetween hpadding (hafterNumber.append hafter)
  convert hparts using 1
  rw [hcs, hinner, htypeText, hnumberText, hleft]
  simp only [List.append_assoc, List.cons_append]

theorem Spelling.proper (hspelling : Spelling cs stub) :
    NamesType stub.type.toList ∧ Decimal.InRange stub.id := by
  cases hspelling with
  | parts htype _ _ hrange => exact ⟨htype, hrange⟩

theorem ofChars?_eq_some_iff_spelling : Stub.ofChars? cs = some stub ↔ Spelling cs stub :=
  ⟨spelling_of_ofChars?, Spelling.ofChars?⟩

theorem parse_eq_ok_iff {text : String} : parse text = .ok stub ↔ Spelling text.toList stub := by
  rw [← ofChars?_eq_some_iff_spelling, parse]
  cases Stub.ofChars? text.toList with
  | none => simp
  | some found => simp

/-- The text of a reference has no blanks. -/
theorem spelling_text (htype : NamesType stub.type.toList) (hrange : Decimal.InRange stub.id) :
    Spelling stub.text.toList stub := by
  have hnumeral := Decimal.readInt?_eq_some_iff.1 (Decimal.readInt?_write stub.id)
  have hparts := Spelling.parts htype (.inl rfl) hnumeral hrange Text.blank_nil Text.blank_nil
    Text.blank_nil Text.blank_nil
  simpa [text, Decimal.text] using hparts

/-- Reading accepts just the spellings of references, and gives the reference that is spelled.  So
it undoes writing for the references whose type is a name. -/
theorem parse_accepts_spellings :
    (∀ text stub, parse text = .ok stub ↔ Spelling text.toList stub) ∧
      ∀ stub : Stub, parse stub.text = .ok stub ↔
        NamesType stub.type.toList ∧ Decimal.InRange stub.id := by
  refine ⟨fun text stub => parse_eq_ok_iff, fun stub => ?_⟩
  rw [parse_eq_ok_iff]
  exact ⟨Spelling.proper, fun hproper => spelling_text hproper.1 hproper.2⟩

/-- Blanks beyond ASCII, a sign and leading zeros are read, and not written. -/
example : parse "\u2003Control :\u00A0+0042 " = .ok ⟨"Control", 42⟩ := by decide

end Stub

end RecordGraph
