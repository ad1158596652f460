import RecordGraph.Json.Raw
import RecordGraph.Json.Write
import RecordGraph.Proofs.QuotedStrings
import RecordGraph.Proofs.WrittenFloats

/-!
# Reading back documents

The text of a document holds its structure: the first step of reading finds it whatever the document
is.  The second step then fails only on numbers that no document holds, and on nesting.  So the text
of a document can be read exactly when the document is nested no deeper than a reader goes.
-/

namespace RecordGraph

namespace Json

/-! ## Structure -/

mutual

/-- The structure of the text of a document. -/
def toRaw : Json → Raw
  | .null => .null
  | .bool value => .bool value
  | .int value => .number (Lexeme.ofInt value)
  | .float value => .number value.lexeme
  | .str value => .string (escape value.toList)
  | .arr items => .array (toRawItems items)
  | .obj fields => .object (toRawFields fields)

def toRawItems : List Json → List Raw
  | [] => []
  | item :: rest => item.toRaw :: toRawItems rest

def toRawFields : List (String × Json) → List (List Char × Raw)
  | [] => []
  | (key, value) :: rest => (escape key.toList, value.toRaw) :: toRawFields rest

end

namespace Raw

theorem skipSpace_cons {c : Char} (hc : isSpace c = false) (rest : List Char) :
    skipSpace (c :: rest) = c :: rest := by
  simp [skipSpace, hc]

theorem isSpace_of_number {c : Char} (hc : c.isDigit = true ∨ c = '-') : isSpace c = false := by
  have hother : ∀ space : Char, space.isDigit = false → space ≠ '-' → c ≠ space := by
    rintro space hdigit hminus rfl
    rcases hc with hc | hc
    · rw [hc] at hdigit
      cases hdigit
    · exact hminus hc
  simp [isSpace, hother ' ' (by decide) (by decide), hother '\n' (by decide) (by decide),
    hother '\r' (by decide) (by decide), hother '\t' (by decide) (by decide)]

/-- What starts like a number is read as one. -/
theorem readValue_number {c : Char} (hc : c.isDigit = true ∨ c = '-') (fuel : ℕ)
    (rest : List Char) :
    readValue (fuel + 1) (c :: rest) =
      (Lexeme.scan (c :: rest)).map fun (lexeme, after) => (number lexeme, after) := by
  have hother : ∀ letter : Char, letter.isDigit = false → letter ≠ '-' → c ≠ letter := by
    rintro letter hdigit hminus rfl
    rcases hc with hc | hc
    · rw [hc] at hdigit
      cases hdigit
    · exact hminus hc
  rw [readValue, skipSpace_cons (isSpace_of_number hc)]
  split
  · next heq => exact absurd (List.cons.inj heq).1 (hother 'n' (by decide) (by decide))
  · next heq => exact absurd (List.cons.inj heq).1 (hother 't' (by decide) (by decide))
  · next heq => exact absurd (List.cons.inj heq).1 (hother 'f' (by decide) (by decide))
  · next heq => exact absurd (List.cons.inj heq).1 (hother '"' (by decide) (by decide))
  · next heq => exact absurd (List.cons.inj heq).1 (hother '[' (by decide) (by decide))
  · next heq => exact absurd (List.cons.inj heq).1 (hother '{' (by decide) (by decide))
  · rfl

theorem readValue_lexeme {lexeme : Lexeme} (hproper : lexeme.Proper) (fuel : ℕ) {rest : List Char}
    (hrest : EndsNumber rest) :
    readValue (fuel + 1) (lexeme.text ++ rest) = some (number lexeme, rest) := by
  obtain ⟨c, tail, htext, hc⟩ := Lexeme.text_head hproper
  have hscan := Lexeme.scan_append hproper hrest
  rw [htext, List.cons_append] at hscan ⊢
  rw [readValue_number hc, hscan]
  rfl

theorem readValue_quote (cs : List Char) (fuel : ℕ) (rest : List Char) :
    readValue (fuel + 1) (quote cs ++ rest) = some (string (escape cs), rest) := by
  have hspace : isSpace '"' = false := by decide
  simp [quote, readValue, skipSpace_cons hspace, scanQuoted_escape]

/-! ### Items and fields -/

variable {fuel : ℕ} {cs tail rest : List Char}

theorem readValue_array {c : Char} {items : List Raw} (hspace : skipSpace cs = c :: tail)
    (hclose : c ≠ ']') (hitems : readItems fuel (c :: tail) = some (items, rest)) :
    readValue (fuel + 1) ('[' :: cs) = some (array items, rest) := by
  have hopen : isSpace '[' = false := by decide
  simp [readValue, skipSpace_cons hopen, hspace, hclose, hitems]

theorem readItems_last {item : Raw} (hitem : readValue fuel cs = some (item, tail))
    (hspace : skipSpace tail = ']' :: rest) : readItems (fuel + 1) cs = some ([item], rest) := by
  simp [readItems, hitem, hspace]

theorem readItems_more {item : Raw} {items : List Raw}
    (hitem : readValue fuel cs = some (item, ',' :: tail))
    (hitems : readItems fuel tail = some (items, rest)) :
    readItems (fuel + 1) cs = some (item :: items, rest) := by
  have hspace : isSpace ',' = false := by decide
  simp [readItems, hitem, skipSpace_cons hspace, hitems]

theorem readValue_object {key : List Char} {fields : List (List Char × Raw)}
    (hfields : readFields fuel (quote key ++ cs) = some (fields, rest)) :
    readValue (fuel + 1) ('{' :: (quote key ++ cs)) = some (object fields, rest) := by
  have hbrace : isSpace '{' = false := by decide
  have hquote : isSpace '"' = false := by decide
  rw [quote, List.cons_append, List.cons_append] at hfields ⊢
  rw [readValue, skipSpace_cons hbrace]
  simp only [skipSpace_cons hquote]
  split
  · next heq => exact absurd (List.cons.inj heq).1 (by decide)
  · rw [hfields, Option.map_some]

theorem readFields_last {key : List Char} {value : Raw}
    (hvalue : readValue fuel cs = some (value, '}' :: rest)) :
    readFields (fuel + 1) (quote key ++ ':' :: cs) = some ([(escape key, value)], rest) := by
  have hquote : isSpace '"' = false := by decide
  have hcolon : isSpace ':' = false := by decide
  have hbrace : isSpace '}' = false := by decide
  simp [readFields, quote, skipSpace_cons hquote, skipSpace_cons hcolon, skipSpace_cons hbrace,
    scanQuoted_escape, hvalue]

theorem readFields_more {key : List Char} {value : Raw} {fields : List (List Char × Raw)}
    (hvalue : readValue fuel cs = some (value, ',' :: tail))
    (hfields : readFields fuel tail = some (fields, rest)) :
    readFields (fuel + 1) (quote key ++ ':' :: cs) =
      some ((escape key, value) :: fields, rest) := by
  have hquote : isSpace '"' = false := by decide
  have hcolon : isSpace ':' = false := by decide
  have hcomma : isSpace ',' = false := by decide
  simp [readFields, quote, skipSpace_cons hquote, skipSpace_cons hcolon, skipSpace_cons hcomma,
    scanQuoted_escape, hvalue, hfields]

end Raw

/-- The text of a document starts neither with space nor with a closing bracket. -/
theorem write_head (document : Json) :
    ∃ c rest, document.write = c :: rest ∧ Raw.isSpace c = false ∧ c ≠ ']' := by
  have hnumber : ∀ lexeme : Lexeme, lexeme.Proper →
      ∃ c rest, lexeme.text = c :: rest ∧ Raw.isSpace c = false ∧ c ≠ ']' := by
    intro lexeme hproper
    obtain ⟨c, rest, htext, hc⟩ := Lexeme.text_head hproper
    refine ⟨c, rest, htext, Raw.isSpace_of_number hc, ?_⟩
    rintro rfl
    exact absurd hc (by decide)
  cases document with
  | null => exact ⟨'n', _, rfl, by decide, by decide⟩
  | bool value =>
    cases value with
    | true => exact ⟨'t', _, rfl, by decide, by decide⟩
    | false => exact ⟨'f', _, rfl, by decide, by decide⟩
  | int value =>
    rw [write, ← Lexeme.text_ofInt]
    exact hnumber _ (Lexeme.proper_ofInt value)
  | float value =>
    rw [write, ← Binary64.text_lexeme]
    exact hnumber _ (Binary64.denotes_lexeme value).proper
  | str value => exact ⟨'"', _, rfl, by decide, by decide⟩
  | arr items => exact ⟨'[', _, rfl, by decide, by decide⟩
  | obj fields => exact ⟨'{', _, rfl, by decide, by decide⟩

theorem isEmpty_compact (document : Json) : document.compact.isEmpty = false := by
  obtain ⟨c, rest, htext, _⟩ := document.write_head
  simp [compact, htext]

/-- The text of items starts as that of the first one. -/
theorem writeItems_head (item : Json) (items : List Json) :
    ∃ c rest, writeItems (item :: items) = c :: rest ∧ Raw.isSpace c = false ∧ c ≠ ']' := by
  obtain ⟨c, rest, htext, hc⟩ := item.write_head
  cases items with
  | nil => exact ⟨c, rest, htext, hc⟩
  | cons next items =>
    refine ⟨c, rest ++ ',' :: writeItems (next :: items), ?_, hc⟩
    rw [writeItems, htext, List.cons_append]
    exact List.cons_ne_nil _ _

/-- The text of a field and of those after it. -/
theorem writeFields_cons (key : String) (value : Json) (fields : List (String × Json)) :
    ∃ rest, writeFields ((key, value) :: fields) =
        quote key.toList ++ ':' :: (value.write ++ rest) ∧
      (fields = [] ∧ rest = [] ∨ fields ≠ [] ∧ rest = ',' :: writeFields fields) := by
  cases fields with
  | nil => exact ⟨[], by rw [writeFields, List.append_nil], .inl ⟨rfl, rfl⟩⟩
  | cons field fields =>
    refine ⟨',' :: writeFields (field :: fields), ?_, .inr ⟨List.cons_ne_nil _ _, rfl⟩⟩
    rw [writeFields, List.append_assoc, List.cons_append]
    exact List.cons_ne_nil _ _

theorem endsNumber_comma (rest : List Char) : EndsNumber (',' :: rest) :=
  endsNumber_cons rest (by decide)

theorem endsNumber_bracket (rest : List Char) : EndsNumber (']' :: rest) :=
  endsNumber_cons rest (by decide)

theorem endsNumber_brace (rest : List Char) : EndsNumber ('}' :: rest) :=
  endsNumber_cons rest (by decide)

mutual

/-- Two steps for each character are enough to read a document, whatever follows it. -/
theorem readValue_write (document : Json) {fuel : ℕ} {rest : List Char}
    (hfuel : 2 * document.write.length ≤ fuel) (hrest : EndsNumber rest) :
    Raw.readValue fuel (document.write ++ rest) = some (document.toRaw, rest) := by
  obtain ⟨fuel, rfl⟩ : ∃ less, fuel = less + 1 := by
    obtain ⟨c, tail, htext, _⟩ := document.write_head
    rw [htext, List.length_cons] at hfuel
    exact ⟨fuel - 1, by omega⟩
  cases document with
  | null => rfl
  | bool value =>
    cases value with
    | true => rfl
    | false => rfl
  | int value =>
    rw [write, ← Lexeme.text_ofInt]
    exact Raw.readValue_lexeme (Lexeme.proper_ofInt value) fuel hrest
  | float value =>
    rw [write, ← Binary64.text_lexeme]
    exact Raw.readValue_lexeme (Binary64.denotes_lexeme value).proper fuel hrest
  | str value => exact Raw.readValue_quote value.toList fuel rest
  | arr items =>
    cases items with
    | nil => rfl
    | cons item items =>
      simp only [write, List.length_append, List.length_cons, List.length_nil] at hfuel
      have hread := readItems_write (item :: items) (List.cons_ne_nil _ _) rest
        (show 2 * (writeItems (item :: items)).length + 1 ≤ fuel by omega)
      obtain ⟨c, tail, htext, hspace, hclose⟩ := writeItems_head item items
      rw [write, toRaw, List.append_assoc, List.cons_append]
      rw [htext] at hread ⊢
      exact Raw.readValue_array (Raw.skipSpace_cons hspace _) hclose hread
  | obj fields =>
    cases fields with
    | nil => rfl
    | cons field fields =>
      obtain ⟨key, value⟩ := field
      simp only [write, List.length_append, List.length_cons, List.length_nil] at hfuel
      have hread := readFields_write ((key, value) :: fields) (List.cons_ne_nil _ _) rest
        (show 2 * (writeFields ((key, value) :: fields)).length + 1 ≤ fuel by omega)
      obtain ⟨tail, htext, _⟩ := writeFields_cons key value fields
      rw [write, toRaw, List.append_assoc, List.cons_append]
      rw [htext, List.append_assoc] at hread ⊢
      exact Raw.readValue_object hread

theorem readItems_write (items : List Json) (hitems : items ≠ []) {fuel : ℕ} (rest : List Char)
    (hfuel : 2 * (writeItems items).length + 1 ≤ fuel) :
    Raw.readItems fuel (writeItems items ++ ']' :: rest) = some (toRawItems items, rest) := by
  obtain ⟨fuel, rfl⟩ : ∃ less, fuel = less + 1 := ⟨fuel - 1, by omega⟩
  match items with
  | [] => exact absurd rfl hitems
  | [item] =>
    exact Raw.readItems_last
      (readValue_write item (Nat.le_of_succ_le_succ hfuel) (endsNumber_bracket rest))
      (Raw.skipSpace_cons (by decide) rest)
  | item :: next :: items =>
    have htext : writeItems (item :: next :: items) =
        item.write ++ ',' :: writeItems (next :: items) := by
      rw [writeItems]
      exact List.cons_ne_nil _ _
    simp only [htext, List.length_append, List.length_cons] at hfuel
    have hitem := readValue_write item (show 2 * item.write.length ≤ fuel by omega)
      (endsNumber_comma (writeItems (next :: items) ++ ']' :: rest))
    have hnext := readItems_write (next :: items) (List.cons_ne_nil _ _) rest
      (show 2 * (writeItems (next :: items)).length + 1 ≤ fuel by omega)
    rw [htext, List.append_assoc, List.cons_append]
    exact Raw.readItems_more hitem hnext

theorem readFields_write (fields : List (String × Json)) (hfields : fields ≠ []) {fuel : ℕ}
    (rest : List Char) (hfuel : 2 * (writeFields fields).length + 1 ≤ fuel) :
    Raw.readFields fuel (writeFields fields ++ '}' :: rest) = some (toRawFields fields, rest) := by
  obtain ⟨fuel, rfl⟩ : ∃ less, fuel = less + 1 := ⟨fuel - 1, by omega⟩
  match fields with
  | [] => exact absurd rfl hfields
  | (key, value) :: fields =>
    obtain ⟨tail, htext, hend⟩ := writeFields_cons key value fields
    rw [htext] at hfuel ⊢
    simp only [List.length_append, List.length_cons] at hfuel
    simp only [List.append_assoc, List.cons_append]
    rcases hend with ⟨rfl, rfl⟩ | ⟨hmore, rfl⟩
    · exact Raw.readFields_last
        (readValue_write value (show 2 * value.write.length ≤ fuel by omega)
          (endsNumber_brace rest))
    · rw [List.length_cons] at hfuel
      have hvalue := readValue_write value (show 2 * value.write.length ≤ fuel by omega)
        (endsNumber_comma (writeFields fields ++ '}' :: rest))
      have hnext := readFields_write fields hmore rest
        (show 2 * (writeFields fields).length + 1 ≤ fuel by omega)
      exact Raw.readFields_more hvalue hnext

end

/-- Reading the text of a document finds its structure. -/
theorem ofChars?_write (document : Json) : Raw.ofChars? document.write = some document.toRaw := by
  have henough : 2 * document.write.length ≤ 2 * document.write.length + 2 := Nat.le_add_right _ 2
  have hread := readValue_write document henough endsNumber_nil
  rw [List.append_nil] at hread
  rw [Raw.ofChars?, hread]
  rfl

/-! ## Numbers and nesting -/

mutual

/-- Every number of the document is one that documents hold. -/
def NumbersInRange : Json → Prop
  | .int value => IntegerInRange value
  | .float value => value.InFormat
  | .arr items => NumbersInRangeItems items
  | .obj fields => NumbersInRangeFields fields
  | _ => True

def NumbersInRangeItems : List Json → Prop
  | [] => True
  | item :: rest => item.NumbersInRange ∧ NumbersInRangeItems rest

def NumbersInRangeFields : List (String × Json) → Prop
  | [] => True
  | (_, value) :: rest => value.NumbersInRange ∧ NumbersInRangeFields rest

end

mutual

/-- The structure of a document can be turned into one, unless the nesting is too deep. -/
theorem isSome_toRaw_toJson? (document : Json) (hnumbers : document.NumbersInRange) (levels : ℕ) :
    (document.toRaw.toJson? levels).isSome = true ↔ document.depth ≤ levels := by
  cases document with
  | null => simp [toRaw, Raw.toJson?, depth]
  | bool value => simp [toRaw, Raw.toJson?, depth]
  | int value =>
    rw [NumbersInRange] at hnumbers
    simp [toRaw, Raw.toJson?, depth, Lexeme.toJson?_ofInt hnumbers]
  | float value =>
    rw [NumbersInRange] at hnumbers
    simp [toRaw, Raw.toJson?, depth, Binary64.toJson?_lexeme_isSome hnumbers]
  | str value => simp [toRaw, Raw.toJson?, depth]
  | arr items =>
    rw [NumbersInRange] at hnumbers
    cases levels with
    | zero => simp [toRaw, Raw.toJson?, depth]
    | succ levels =>
      simp [toRaw, Raw.toJson?, depth, isSome_toRawItems items hnumbers levels]
  | obj fields =>
    rw [NumbersInRange] at hnumbers
    cases levels with
    | zero => simp [toRaw, Raw.toJson?, depth]
    | succ levels =>
      simp [toRaw, Raw.toJson?, depth, isSome_toRawFields fields hnumbers levels]

theorem isSome_toRawItems (items : List Json) (hnumbers : NumbersInRangeItems items) (levels : ℕ) :
    (Raw.itemsToJson? levels (toRawItems items)).isSome = true ↔ itemsDepth items ≤ levels := by
  match items with
  | [] => simp [toRawItems, Raw.itemsToJson?, itemsDepth]
  | item :: rest =>
    rw [NumbersInRangeItems] at hnumbers
    have hitem := isSome_toRaw_toJson? item hnumbers.1 levels
    have hrest := isSome_toRawItems rest hnumbers.2 levels
    rw [itemsDepth, max_le_iff, ← hitem, ← hrest, toRawItems, Raw.itemsToJson?]
    cases item.toRaw.toJson? levels <;> cases Raw.itemsToJson? levels (toRawItems rest) <;> simp

theorem isSome_toRawFields (fields : List (String × Json)) (hnumbers : NumbersInRangeFields fields)
    (levels : ℕ) :
    (Raw.fieldsToJson? levels (toRawFields fields)).isSome = true ↔
      fieldsDepth fields ≤ levels := by
  match fields with
  | [] => simp [toRawFields, Raw.fieldsToJson?, fieldsDepth]
  | (key, value) :: rest =>
    rw [NumbersInRangeFields] at hnumbers
    have hvalue := isSome_toRaw_toJson? value hnumbers.1 levels
    have hrest := isSome_toRawFields rest hnumbers.2 levels
    rw [fieldsDepth, max_le_iff, ← hvalue, ← hrest, toRawFields, Raw.fieldsToJson?,
      unescape?_escape]
    cases value.toRaw.toJson? levels <;> cases Raw.fieldsToJson? levels (toRawFields rest) <;> simp

end

/-- The text of a document can be read exactly when the document is nested no deeper than a reader
goes. -/
theorem parse?_compact_isSome {document : Json} (hnumbers : document.NumbersInRange) :
    (parse? document.compact).isSome = true ↔ document.depth ≤ maxDepth := by
  rw [parse?, compact, String.toList_ofList, ofChars?, ofChars?_write]
  exact isSome_toRaw_toJson? document hnumbers maxDepth

theorem depth_nestedArrays (levels : ℕ) : (nestedArrays levels).depth = levels + 1 := by
  induction levels with
  | zero => rfl
  | succ levels ih => simp [nestedArrays, depth, itemsDepth, ih]

theorem numbersInRange_nestedArrays (levels : ℕ) : (nestedArrays levels).NumbersInRange := by
  induction levels with
  | zero => exact trivial
  | succ levels ih => exact ⟨ih, trivial⟩

/-! ## Fields in order -/

theorem fieldBefore_iff {left right : String × Json} :
    fieldBefore left right = true ↔ left.1 < right.1 := by
  rw [fieldBefore, decide_eq_true_eq]

theorem fieldBefore_trans {first second third : String × Json}
    (hfirst : fieldBefore first second = true) (hsecond : fieldBefore second third = true) :
    fieldBefore first third = true :=
  fieldBefore_iff.2 (String.lt_trans (fieldBefore_iff.1 hfirst) (fieldBefore_iff.1 hsecond))

/-- Fields that are put in order one after the other, behind some that are in order. -/
theorem pairwise_foldl_replace (fields : List (String × Json)) {sorted : List (String × Json)}
    (hsorted : sorted.Pairwise fun left right => fieldBefore left right = true) :
    (fields.foldl (fun sorted field => Ordered.replace fieldBefore field sorted) sorted).Pairwise
      fun left right => fieldBefore left right = true := by
  induction fields generalizing sorted with
  | nil => exact hsorted
  | cons field rest ih =>
    refine ih (Ordered.pairwise_replace fieldBefore_trans ?_ hsorted)
    intro head other hfield hhead hother
    simp only [fieldBefore, decide_eq_false_iff_not, decide_eq_true_eq] at hfield hhead hother ⊢
    rwa [String.le_antisymm hhead hfield]

theorem pairwise_sortFields (fields : List (String × Json)) :
    (sortFields fields).Pairwise fun left right => left.1 < right.1 := by
  simp only [← fieldBefore_iff]
  exact pairwise_foldl_replace fields List.Pairwise.nil

/-! ## What is read -/

theorem numbersInRangeItems_iff {items : List Json} :
    NumbersInRangeItems items ↔ ∀ item ∈ items, item.NumbersInRange := by
  induction items with
  | nil => simp [NumbersInRangeItems]
  | cons item rest ih => simp [NumbersInRangeItems, ih]

theorem itemsDepth_le_iff {items : List Json} {levels : ℕ} :
    itemsDepth items ≤ levels ↔ ∀ item ∈ items, item.depth ≤ levels := by
  induction items with
  | nil => simp [itemsDepth]
  | cons item rest ih => simp [itemsDepth, ih]

theorem numbersInRangeFields_iff {fields : List (String × Json)} :
    NumbersInRangeFields fields ↔ ∀ field ∈ fields, field.2.NumbersInRange := by
  induction fields with
  | nil => simp [NumbersInRangeFields]
  | cons field rest ih => simp [NumbersInRangeFields, ih]

theorem canonicalFields_iff {fields : List (String × Json)} :
    CanonicalFields fields ↔ ∀ field ∈ fields, field.2.Canonical := by
  induction fields with
  | nil => simp [CanonicalFields]
  | cons field rest ih => simp [CanonicalFields, ih]

theorem fieldsDepth_le_iff {fields : List (String × Json)} {levels : ℕ} :
    fieldsDepth fields ≤ levels ↔ ∀ field ∈ fields, field.2.depth ≤ levels := by
  induction fields with
  | nil => simp [fieldsDepth]
  | cons field rest ih => simp [fieldsDepth, ih]

/-- Putting fields in order makes up none. -/
theorem mem_of_mem_sortFields {field : String × Json} {fields : List (String × Json)}
    (hfield : field ∈ sortFields fields) : field ∈ fields := by
  have hfold : ∀ (fields sorted : List (String × Json)),
      field ∈ fields.foldl (fun sorted field => Ordered.replace fieldBefore field sorted) sorted →
        field ∈ sorted ∨ field ∈ fields := by
    intro fields
    induction fields with
    | nil => exact fun sorted hmem => .inl hmem
    | cons first rest ih =>
      intro sorted hmem
      rcases ih _ hmem with hmem | hmem
      · rcases Ordered.mem_of_mem_replace hmem with rfl | hmem
        · exact .inr List.mem_cons_self
        · exact .inl hmem
      · exact .inr (List.mem_cons_of_mem first hmem)
  exact (hfold fields [] hfield).resolve_left List.not_mem_nil

mutual

/-- What is read holds numbers that documents hold and fields in order, and is nested no deeper than
a reader goes. -/
theorem of_toJson? (raw : Raw) {levels : ℕ} {document : Json}
    (hdocument : raw.toJson? levels = some document) :
    document.NumbersInRange ∧ document.Canonical ∧ document.depth ≤ levels := by
  cases raw with
  | null =>
    cases hdocument
    exact ⟨trivial, trivial, Nat.zero_le levels⟩
  | bool value =>
    cases hdocument
    exact ⟨trivial, trivial, Nat.zero_le levels⟩
  | number lexeme =>
    rcases Lexeme.toJson?_cases hdocument with ⟨value, rfl, hrange⟩ | ⟨number, rfl, hformat⟩
    · exact ⟨hrange, hrange, Nat.zero_le levels⟩
    · exact ⟨hformat, trivial, Nat.zero_le levels⟩
  | string body =>
    obtain ⟨cs, _, rfl⟩ := Option.map_eq_some_iff.1 hdocument
    exact ⟨trivial, trivial, Nat.zero_le levels⟩
  | array items =>
    cases levels with
    | zero => cases hdocument
    | succ levels =>
      obtain ⟨read, hread, rfl⟩ := Option.map_eq_some_iff.1 hdocument
      obtain ⟨hnumbers, hcanonical, hdepth⟩ := of_itemsToJson? items hread
      exact ⟨hnumbers, hcanonical, Nat.succ_le_succ hdepth⟩
  | object fields =>
    cases levels with
    | zero => cases hdocument
    | succ levels =>
      obtain ⟨read, hread, rfl⟩ := Option.map_eq_some_iff.1 hdocument
      have hall : ∀ field ∈ sortFields read, field.2.NumbersInRange ∧ field.2.Canonical ∧
          field.2.depth ≤ levels := fun field hfield =>
        of_fieldsToJson? fields hread field (mem_of_mem_sortFields hfield)
      refine ⟨numbersInRangeFields_iff.2 fun field hfield => (hall field hfield).1,
        ⟨canonicalFields_iff.2 fun field hfield => (hall field hfield).2.1,
          pairwise_sortFields read⟩, Nat.succ_le_succ ?_⟩
      exact fieldsDepth_le_iff.2 fun field hfield => (hall field hfield).2.2

theorem of_itemsToJson? (items : List Raw) {levels : ℕ} {read : List Json}
    (hread : Raw.itemsToJson? levels items = some read) :
    NumbersInRangeItems read ∧ CanonicalItems read ∧ itemsDepth read ≤ levels := by
  match items with
  | [] =>
    cases hread
    exact ⟨trivial, trivial, Nat.zero_le levels⟩
  | item :: rest =>
    rw [Raw.itemsToJson?] at hread
    split at hread
    · next first others hfirst hothers =>
      cases hread
      obtain ⟨hnumbers, hcanonical, hdepth⟩ := of_toJson? item hfirst
      obtain ⟨hrest, hcanonicals, hdepths⟩ := of_itemsToJson? rest hothers
      exact ⟨⟨hnumbers, hrest⟩, ⟨hcanonical, hcanonicals⟩, max_le hdepth hdepths⟩
    · cases hread

theorem of_fieldsToJson? (fields : List (List Char × Raw)) {levels : ℕ}
    {read : List (String × Json)} (hread : Raw.fieldsToJson? levels fields = some read) :
    ∀ field ∈ read, field.2.NumbersInRange ∧ field.2.Canonical ∧ field.2.depth ≤ levels := by
  match fields with
  | [] =>
    cases hread
    simp
  | (key, value) :: rest =>
    rw [Raw.fieldsToJson?] at hread
    split at hread
    · next name first others _ hfirst hothers =>
      cases hread
      intro field hfield
      rcases List.mem_cons.1 hfield with rfl | hfield
      · exact of_toJson? value hfirst
      · exact of_fieldsToJson? rest hothers field hfield
    · cases hread

end

/-- As many items are read as are written. -/
theorem length_of_itemsToJson? {items : List Raw} {levels : ℕ} {read : List Json}
    (hread : Raw.itemsToJson? levels items = some read) : read.length = items.length := by
  induction items generalizing read with
  | nil =>
    cases hread
    rfl
  | cons item rest ih =>
    rw [Raw.itemsToJson?] at hread
    split at hread
    · next first others _ hothers =>
      cases hread
      rw [List.length_cons, List.length_cons, ih hothers]
    · cases hread

theorem of_parse? {text : String} {document : Json} (hdocument : parse? text = some document) :
    document.NumbersInRange ∧ document.Canonical ∧ document.depth ≤ maxDepth := by
  rw [parse?, ofChars?] at hdocument
  split at hdocument
  · next raw _ => exact of_toJson? raw hdocument
  · cases hdocument

/-- A document that was read can be written and read again. -/
theorem parse?_compact_of_parse? {text : String} {document : Json}
    (hdocument : parse? text = some document) : (parse? document.compact).isSome = true := by
  obtain ⟨hnumbers, _, hdepth⟩ := of_parse? hdocument
  exact (parse?_compact_isSome hnumbers).2 hdepth

end Json

end RecordGraph
