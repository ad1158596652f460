import RecordGraph.Json.Quoted

/-!
# Reading back quoted strings

A string is written with its quotes, backslashes and control characters escaped.  Reading finds the
closing quote again whatever the string holds, and what stands before it stands for the string.
-/

namespace RecordGraph.Json

/-- The three ways to write a character: with a one-letter escape, with its number, and as it is. -/
theorem escapeChar_cases (c : Char) :
    (∃ letter, escapeChar c = ['\\', letter] ∧ letter ≠ 'u' ∧ shortEscape? letter = some c) ∨
      (∃ high low, escapeChar c = ['\\', 'u', '0', '0', high, low] ∧
        hexUnit? '0' '0' high low = some c.toNat ∧ c.toNat < 32) ∨
      (escapeChar c = [c] ∧ c ≠ '"' ∧ c ≠ '\\' ∧ 32 ≤ c.toNat) := by
  have hchar : ∀ number, c.toNat = number → c = Char.ofNat number := by
    intro number hnumber
    rw [← hnumber, Char.ofNat_toNat]
  rw [escapeChar]
  split
  · next hc => exact .inl ⟨'"', rfl, by decide, by rw [hc]; decide⟩
  split
  · next hc => exact .inl ⟨'\\', rfl, by decide, by rw [hc]; decide⟩
  split
  · next hc => exact .inl ⟨'n', rfl, by decide, by rw [hc]; decide⟩
  split
  · next hc => exact .inl ⟨'r', rfl, by decide, by rw [hc]; decide⟩
  split
  · next hc => exact .inl ⟨'t', rfl, by decide, by rw [hc]; decide⟩
  split
  · next hc => exact .inl ⟨'b', rfl, by decide, by rw [hchar 8 hc]; decide⟩
  split
  · next hc => exact .inl ⟨'f', rfl, by decide, by rw [hchar 12 hc]; decide⟩
  split
  · next hsmall =>
    have hhigh := hexValue?_hexDigit (show c.toNat / 16 < 16 by omega)
    have hlow := hexValue?_hexDigit (show c.toNat % 16 < 16 by omega)
    have hzero : hexValue? '0' = some 0 := by decide
    refine .inr (.inl ⟨_, _, rfl, ?_, hsmall⟩)
    simp only [hexUnit?, hzero, hhigh, hlow, Option.some.injEq]
    omega
  · next hquote hslash _ _ _ _ _ hlarge =>
    exact .inr (.inr ⟨rfl, hquote, hslash, Nat.not_lt.1 hlarge⟩)

/-! ## Finding the closing quote -/

theorem scanQuoted_escapeChar (c : Char) (rest : List Char) :
    scanQuoted (escapeChar c ++ rest) =
      (scanQuoted rest).map fun (body, after) => (escapeChar c ++ body, after) := by
  rcases escapeChar_cases c with ⟨letter, hletter, hunit, hshort⟩ | ⟨high, low, hnumber, hhex, _⟩ |
    ⟨hplain, hquote, hslash, hlarge⟩
  · have hsome : (shortEscape? letter).isSome = true := by rw [hshort, Option.isSome_some]
    simp only [hletter, List.cons_append, List.nil_append]
    rw [scanQuoted, if_pos hsome]
    intro a b c d tail hletter _
    exact hunit hletter
  · have hsome : (hexUnit? '0' '0' high low).isSome = true := by rw [hhex, Option.isSome_some]
    simp only [hnumber, List.cons_append, List.nil_append]
    rw [scanQuoted, if_pos hsome]
  · have hbare : ¬ (c = '\\' ∨ c.toNat < 32) := by
      rintro (hc | hc)
      · exact hslash hc
      · omega
    simp only [hplain, List.cons_append, List.nil_append]
    rw [scanQuoted, if_neg hbare]
    · exact hquote
    · intro a b c d tail hc _
      exact hslash hc
    · intro letter tail hc _
      exact hslash hc

/-- The body of a written string ends at its closing quote. -/
theorem scanQuoted_escape (cs rest : List Char) :
    scanQuoted (escape cs ++ '"' :: rest) = some (escape cs, rest) := by
  induction cs with
  | nil => rw [escape, List.flatMap_nil, List.nil_append, scanQuoted]
  | cons c cs ih =>
    have hhead : escape (c :: cs) = escapeChar c ++ escape cs := List.flatMap_cons
    rw [hhead, List.append_assoc, scanQuoted_escapeChar, ih]
    rfl

/-! ## Undoing the escapes -/

theorem unescape?_no_unit {a b c d : Char} (hunit : hexUnit? a b c d = none) (rest : List Char) :
    unescape? ('\\' :: 'u' :: a :: b :: c :: d :: rest) = none := by
  by_cases hpair : ∃ e f g h tail, rest = '\\' :: 'u' :: e :: f :: g :: h :: tail
  · obtain ⟨e, f, g, h, tail, rfl⟩ := hpair
    simp [unescape?, hunit]
  · rw [unescape?, hunit]
    intro e f g h tail hrest
    exact hpair ⟨e, f, g, h, tail, hrest⟩

/-- A number that is no surrogate stands for its character, whatever follows. -/
theorem unescape?_unit {a b c d : Char} {unit : Nat} (hunit : hexUnit? a b c d = some unit)
    (hhigh : isHighSurrogate unit = false) (hlow : isLowSurrogate unit = false)
    (rest : List Char) :
    unescape? ('\\' :: 'u' :: a :: b :: c :: d :: rest) =
      (unescape? rest).map (Char.ofNat unit :: ·) := by
  by_cases hpair : ∃ e f g h tail, rest = '\\' :: 'u' :: e :: f :: g :: h :: tail
  · -- Another number follows; with a surrogate here the two would be read together.
    obtain ⟨e, f, g, h, tail, rfl⟩ := hpair
    rw [unescape?, hunit]
    cases hnext : hexUnit? e f g h with
    | none => simp [unescape?_no_unit hnext]
    | some next => simp [hhigh, hlow]
  · rw [unescape?, hunit]
    · simp [hhigh, hlow]
    · intro e f g h tail hrest
      exact hpair ⟨e, f, g, h, tail, hrest⟩

theorem unescape?_escapeChar (c : Char) (rest : List Char) :
    unescape? (escapeChar c ++ rest) = (unescape? rest).map (c :: ·) := by
  rcases escapeChar_cases c with ⟨letter, hletter, hunit, hshort⟩ |
    ⟨high, low, hnumber, hhex, hsmall⟩ | ⟨hplain, hquote, hslash, hlarge⟩
  · simp only [hletter, List.cons_append, List.nil_append]
    rw [unescape?, hshort]
    · intro a b c d e f g h tail hletter _
      exact hunit hletter
    · intro a b c d tail hletter _
      exact hunit hletter
  · have hhigh : isHighSurrogate c.toNat = false := by
      simp only [isHighSurrogate, Bool.and_eq_false_iff, decide_eq_false_iff_not]
      omega
    have hlow : isLowSurrogate c.toNat = false := by
      simp only [isLowSurrogate, Bool.and_eq_false_iff, decide_eq_false_iff_not]
      omega
    simp only [hnumber, List.cons_append, List.nil_append]
    rw [unescape?_unit hhex hhigh hlow, Char.ofNat_toNat]
  · simp only [hplain, List.cons_append, List.nil_append]
    rw [unescape?]
    · intro a b c d e f g h tail hc _
      exact hslash hc
    · intro a b c d tail hc _
      exact hslash hc
    · intro letter tail hc _
      exact hslash hc

/-- A written string stands for itself. -/
@[simp]
theorem unescape?_escape (cs : List Char) : unescape? (escape cs) = some cs := by
  induction cs with
  | nil => rw [escape, List.flatMap_nil, unescape?]
  | cons c cs ih =>
    have hhead : escape (c :: cs) = escapeChar c ++ escape cs := List.flatMap_cons
    rw [hhead, unescape?_escapeChar, ih]
    rfl

end RecordGraph.Json
