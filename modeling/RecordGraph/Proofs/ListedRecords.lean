import RecordGraph.Document.Archive
import RecordGraph.Output.Listing
import RecordGraph.Proofs.BulkReads
import RecordGraph.Proofs.DocumentText

/-!
# Reading back a listing

A listing as an array has one document on each line, with commas and line breaks between them.  It
is the text of one array, and the documents in it are those of the items, in order.  The document of
a record holds each of its fields once, and no field for an origin that it does not have, so the
records are read back as they were listed.
-/

namespace RecordGraph

open Json (Raw)

namespace Json

/-! ## The lines of an array -/

namespace Raw

variable {fuel : ℕ} {c : Char} {cs : List Char}

theorem skipSpace_space (hc : isSpace c = true) : skipSpace (c :: cs) = skipSpace cs := by
  rw [skipSpace, List.dropWhile_cons_of_pos hc, skipSpace]

/-- Space before a document is not read. -/
theorem readValue_space (hc : isSpace c = true) : readValue fuel (c :: cs) = readValue fuel cs := by
  cases fuel with
  | zero => rfl
  | succ fuel => rw [readValue, readValue, skipSpace_space hc]

theorem readItems_space (hc : isSpace c = true) : readItems fuel (c :: cs) = readItems fuel cs := by
  cases fuel with
  | zero => rfl
  | succ fuel => rw [readItems, readItems, readValue_space hc]

end Raw

variable {α : Type} [Showable α]

/-- The text of some items after the line break in front of the first one. -/
theorem toList_arrayLines (item : α) (items : List α) :
    ∃ rest, (arrayLines (item :: items)).toList =
        '\n' :: ((Showable.document item).write ++ rest) ∧
      (items = [] ∧ rest = [] ∨ items ≠ [] ∧ rest = ',' :: (arrayLines items).toList) := by
  cases items with
  | nil =>
    refine ⟨[], ?_, .inl ⟨rfl, rfl⟩⟩
    simp [arrayLines, compact]
  | cons next items =>
    refine ⟨',' :: (arrayLines (next :: items)).toList, ?_, .inr ⟨List.cons_ne_nil _ _, rfl⟩⟩
    simp [arrayLines, compact]

theorem endsNumber_newline (rest : List Char) : EndsNumber ('\n' :: rest) :=
  endsNumber_cons rest (by decide)

/-- The lines are read as items up to the bracket on the last line. -/
theorem readItems_arrayLines (items : List α) (hitems : items ≠ []) {fuel : ℕ} (rest : List Char)
    (hfuel : 2 * (arrayLines items).toList.length ≤ fuel) :
    Raw.readItems fuel ((arrayLines items).toList ++ '\n' :: ']' :: rest) =
      some (items.map fun item => (Showable.document item).toRaw, rest) := by
  induction items generalizing fuel with
  | nil => exact absurd rfl hitems
  | cons item items ih =>
    obtain ⟨tail, htext, htail⟩ := toList_arrayLines item items
    rw [htext, List.length_cons, List.length_append] at hfuel
    obtain ⟨fuel, rfl⟩ : ∃ less, fuel = less + 1 := ⟨fuel - 1, by omega⟩
    rw [htext, List.cons_append, List.append_assoc, Raw.readItems_space (by decide)]
    rcases htail with ⟨rfl, rfl⟩ | ⟨hmore, rfl⟩
    · have hread := readValue_write (Showable.document item)
        (show 2 * (Showable.document item).write.length ≤ fuel by omega)
        (endsNumber_newline (']' :: rest))
      exact Raw.readItems_last hread rfl
    · rw [List.length_cons] at hfuel
      have hread := readValue_write (Showable.document item)
        (show 2 * (Showable.document item).write.length ≤ fuel by omega)
        (endsNumber_comma ((arrayLines items).toList ++ '\n' :: ']' :: rest))
      exact Raw.readItems_more hread (ih hmore (by omega))

/-- A listing is the text of one array of the documents of the items. -/
theorem ofChars?_showList (items : List α) :
    Raw.ofChars? (showList .json items).toList =
      some (.array (items.map fun item => (Showable.document item).toRaw)) := by
  have htext : (showList .json items).toList =
      '[' :: ((arrayLines items).toList ++ ['\n', ']', '\n']) := by
    simp [showList]
  have hread : ∀ fuel, 2 * (arrayLines items).toList.length ≤ fuel →
      Raw.readValue (fuel + 1) ('[' :: ((arrayLines items).toList ++ ['\n', ']', '\n'])) =
        some (.array (items.map fun item => (Showable.document item).toRaw), ['\n']) := by
    intro fuel hfuel
    cases items with
    | nil => rfl
    | cons item items =>
      have hitems := readItems_arrayLines (item :: items) (List.cons_ne_nil _ _) ['\n'] hfuel
      -- The first document follows the line break behind the bracket.
      obtain ⟨tail, hlines, _⟩ := toList_arrayLines item items
      obtain ⟨c, rest, hdocument, hspace, hclose⟩ := (Showable.document item).write_head
      rw [hlines, hdocument] at hitems ⊢
      simp only [List.cons_append] at hitems ⊢
      rw [Raw.readItems_space (by decide)] at hitems
      refine Raw.readValue_array ?_ hclose hitems
      rw [Raw.skipSpace_space (by decide), Raw.skipSpace_cons hspace]
  rw [Raw.ofChars?, htext, hread]
  · rfl
  · simp only [List.length_cons, List.length_append]
    omega

/-- A listing can be read as an array of as many documents as there are items. -/
theorem parse?_showList {items : List α}
    (hnumbers : ∀ item ∈ items, (Showable.document item).NumbersInRange)
    (hdepth : ∀ item ∈ items, (Showable.document item).depth < maxDepth) :
    ∃ documents, parse? (showList .json items) = some (.arr documents) ∧
      documents.length = items.length := by
  have hraw : (items.map fun item => (Showable.document item).toRaw) =
      toRawItems (items.map Showable.document) := by
    rw [toRawItems_eq_map, List.map_map]
    rfl
  have hread : (Raw.itemsToJson? 126 (toRawItems (items.map Showable.document))).isSome = true := by
    rw [isSome_toRawItems, itemsDepth_le_iff, List.forall_mem_map]
    · exact fun item hitem => Nat.le_of_lt_succ (hdepth item hitem)
    · rw [numbersInRangeItems_iff, List.forall_mem_map]
      exact hnumbers
  obtain ⟨documents, hdocuments⟩ := Option.isSome_iff_exists.1 hread
  refine ⟨documents, ?_, ?_⟩
  · rw [parse?, ofChars?, ofChars?_showList, hraw]
    simp only [maxDepth, Raw.toJson?, hdocuments, Option.map_some]
  · rw [length_of_itemsToJson? hdocuments, toRawItems_eq_map, List.length_map, List.length_map]

/-! ## Fields -/

theorem Raw.readKeys?_toRawFields (fields : List (String × Json)) :
    readKeys? (toRawFields fields) = some (fields.map fun field => (field.1, field.2.toRaw)) := by
  induction fields with
  | nil => rfl
  | cons field rest ih =>
    rw [toRawFields, readKeys?, unescape?_escape, ih]
    simp only [String.ofList_toList, List.map_cons]

theorem lookup_map_toRaw (fields : List (String × Json)) (name : String) :
    (fields.map fun field => (field.1, field.2.toRaw)).lookup name =
      (fields.lookup name).map toRaw := by
  induction fields with
  | nil => rfl
  | cons field rest ih =>
    rw [List.map_cons, List.lookup_cons, List.lookup_cons, ih]
    cases name == field.1 <;> rfl

/-- Fields of different names are found under their names. -/
theorem Raw.record?_toRaw {fields : List (String × Json)} (hfields : (fields.map Prod.fst).Nodup)
    (names : List String) :
    (obj fields).toRaw.record? names =
      some (names.map fun name => (fields.lookup name).map toRaw) := by
  have honce : ∀ name, countKey (fields.map fun field => (field.1, field.2.toRaw)) name ≤ 1 := by
    intro name
    have hcount := List.nodup_iff_count_le_one.1 hfields name
    rw [List.count, List.countP_map] at hcount
    rw [countKey, List.countP_map]
    exact hcount
  have htwice : names.any (fun name => decide
      (1 < countKey (fields.map fun field => (field.1, field.2.toRaw)) name)) = false :=
    List.any_eq_false.2 fun name _ => by simpa using honce name
  rw [toRaw, record?, readKeys?_toRawFields]
  simp only [htwice, lookup_map_toRaw]
  rfl

theorem integerInRange_of_inRange {id : Int} (hid : Decimal.InRange id) : IntegerInRange id := by
  obtain ⟨hleast, hgreatest⟩ := hid
  rw [Decimal.minId] at hleast
  rw [Decimal.maxId] at hgreatest
  constructor
  · rw [minInteger]
    omega
  · rw [maxInteger]
    omega

theorem Lexeme.toId?_ofInt {id : Int} (hid : Decimal.InRange id) :
    (Lexeme.ofInt id).toId? = some id := by
  simp only [toId?, toJson?_ofInt (integerInRange_of_inRange hid), if_pos hid]

theorem Raw.id?_toRaw {id : Int} (hid : Decimal.InRange id) : (int id).toRaw.id? = some id := by
  rw [toRaw, id?, Lexeme.toId?_ofInt hid]

end Json

/-! ## Records -/

namespace Stub

variable {stub : Stub}

theorem ofRaw?_toRaw (hid : Decimal.InRange stub.id) : ofRaw? stub.toJson.toRaw = some stub := by
  rw [ofRaw?, toJson, Raw.record?_toRaw (by simp)]
  simp [List.lookup_cons, Raw.text?_toRaw, Raw.id?_toRaw hid]

/-- A reference is not written as if it were absent. -/
theorem optional_toRaw (hid : Decimal.InRange stub.id) :
    stub.toJson.toRaw.optional ofRaw? = some (some stub) := by
  have hread := ofRaw?_toRaw hid
  rw [toJson, Json.toRaw] at hread ⊢
  simp only [Raw.optional, hread, Option.map_some]

end Stub

namespace Object

/-- The numbers of the record are 64-bit ones. -/
structure InRange (object : Object) : Prop where
  id : Decimal.InRange object.id
  origin : ∀ origin ∈ object.origin, Decimal.InRange origin.id
  createdAt : Decimal.InRange object.createdAt
  updatedAt : Decimal.InRange object.updatedAt

variable {object : Object}

theorem nodup_documentFields (object : Object) : (object.documentFields.map Prod.fst).Nodup := by
  rw [documentFields]
  cases object.origin <;> simp

/-- Reading the document of a record gives the record, with the origin that it has or has not. -/
theorem ofRaw?_toRaw (hrange : object.InRange) : ofRaw? object.toJson.toRaw = some object := by
  obtain ⟨type, id, title, origin, createdAt, updatedAt⟩ := object
  obtain ⟨hid, horigin, hcreated, hupdated⟩ := hrange
  rw [ofRaw?, toJson, Raw.record?_toRaw (nodup_documentFields _)]
  cases origin with
  | none =>
    simp [documentFields, List.lookup_cons, Raw.text?_toRaw, Raw.id?_toRaw hid,
      Raw.id?_toRaw hcreated, Raw.id?_toRaw hupdated, Raw.optional]
  | some origin =>
    simp [documentFields, List.lookup_cons, Raw.text?_toRaw, Raw.id?_toRaw hid,
      Raw.id?_toRaw hcreated, Raw.id?_toRaw hupdated, Stub.optional_toRaw (horigin origin rfl)]

theorem numbersInRange_toJson (hrange : object.InRange) : object.toJson.NumbersInRange := by
  have hid := Json.integerInRange_of_inRange hrange.id
  have hcreated := Json.integerInRange_of_inRange hrange.createdAt
  have hupdated := Json.integerInRange_of_inRange hrange.updatedAt
  rw [toJson, Json.NumbersInRange, documentFields]
  cases horigin : object.origin with
  | none => exact ⟨trivial, hid, trivial, hcreated, hupdated, trivial⟩
  | some origin =>
    have hchild := Json.integerInRange_of_inRange (hrange.origin origin horigin)
    exact ⟨trivial, hid, trivial, ⟨trivial, hchild, trivial⟩, hcreated, hupdated, trivial⟩

theorem depth_toJson_lt (object : Object) : object.toJson.depth < Json.maxDepth := by
  rw [toJson, documentFields]
  cases object.origin with
  | none => simp [Json.depth, Json.fieldsDepth, Json.maxDepth]
  | some origin => simp [Stub.toJson, Json.depth, Json.fieldsDepth, Json.maxDepth]

theorem list?_toRaw {objects : List Object} (hrange : ∀ object ∈ objects, object.InRange) :
    (Raw.array (objects.map fun object => object.toJson.toRaw)).list? ofRaw? = some objects := by
  rw [Raw.list?]
  induction objects with
  | nil => rfl
  | cons object rest ih =>
    obtain ⟨hobject, hrest⟩ := List.forall_mem_cons.1 hrange
    simp [ofRaw?_toRaw hobject, ih hrest]

end Object

/-- The listing of records as an array can be read, and reading the records in it one after the
other gives the records that were listed. -/
theorem listed_records_read_back {objects : List Object}
    (hrange : ∀ object ∈ objects, object.InRange) :
    (∃ documents, Json.parse? (showList .json objects) = some (.arr documents) ∧
      documents.length = objects.length) ∧
      (Raw.ofChars? (showList .json objects).toList).bind (Raw.list? Object.ofRaw?) =
        some objects := by
  constructor
  · apply Json.parse?_showList
    · exact fun object hobject => Object.numbersInRange_toJson (hrange object hobject)
    · exact fun object _ => object.depth_toJson_lt
  · rw [Json.ofChars?_showList]
    exact Object.list?_toRaw hrange

/-- A snapshot with the least number and a title of quotes, control characters and a character
beyond `FFFF`, and a record without an origin. -/
def oddRecords : List Object :=
  [{ type := "a\"\\ü", id := Decimal.minId, title := "\"\u0001\n😀\\"
     origin := some ⟨"", Decimal.maxId⟩, createdAt := Decimal.maxId, updatedAt := -1 },
    Object.draft "Control" 1 ""]

theorem odd_records_read_back :
    (∀ object ∈ oddRecords, object.InRange) ∧
      (Raw.ofChars? (showList .json oddRecords).toList).bind (Raw.list? Object.ofRaw?) =
        some oddRecords := by
  have hrange : ∀ object ∈ oddRecords, object.InRange := by
    rw [oddRecords, List.forall_mem_cons, List.forall_mem_singleton]
    exact ⟨⟨by decide, by simp; decide, by decide, by decide⟩,
      ⟨by decide, by simp [Object.draft], by decide, by decide⟩⟩
  exact ⟨hrange, (listed_records_read_back hrange).2⟩

end RecordGraph
