import RecordGraph.Proofs.DocumentText

/-!
# Documents without fractions

A document whose numbers are integers is read back as it was written, if it is nested no deeper than
a reader goes: its strings and keys are unescaped to what they were, its integers stay integers
over both 64-bit ranges, and fields that stand in order stay where they are.
-/

namespace RecordGraph.Json

/-! ## Fields in order -/

/-- Fields that come after others in order are put behind them one after the other. -/
theorem foldl_replace_of_pairwise (sorted fields : List (String × Json))
    (hordered : (sorted ++ fields).Pairwise fun left right => left.1 < right.1) :
    fields.foldl (fun sorted field => Ordered.replace fieldBefore field sorted) sorted =
      sorted ++ fields := by
  induction fields generalizing sorted with
  | nil => exact (List.append_nil sorted).symm
  | cons field rest ih =>
    have hlast : ∀ other ∈ sorted, fieldBefore field other = false ∧
        fieldBefore other field = true := by
      intro other hother
      have hless := (List.pairwise_append.1 hordered).2.2 other hother field List.mem_cons_self
      exact ⟨decide_eq_false (String.lt_asymm hless), decide_eq_true hless⟩
    rw [List.foldl_cons, Ordered.replace_of_last hlast, ih, List.append_assoc,
      List.singleton_append]
    rwa [List.append_assoc, List.singleton_append]

/-- Fields in order stay where they are. -/
theorem sortFields_of_pairwise {fields : List (String × Json)}
    (hordered : fields.Pairwise fun left right => left.1 < right.1) :
    sortFields fields = fields :=
  foldl_replace_of_pairwise [] fields hordered

/-! ## Reading what was written -/

mutual

theorem toJson?_toRaw (document : Json) (hcanonical : document.Canonical)
    (hintegers : document.FloatFree) {levels : ℕ} (hdepth : document.depth ≤ levels) :
    document.toRaw.toJson? levels = some document := by
  cases document with
  | null => rfl
  | bool value => rfl
  | int value => exact Lexeme.toJson?_ofInt hcanonical
  | float value => exact hintegers.elim
  | str value => simp [toRaw, Raw.toJson?, unescape?_escape]
  | arr items =>
    cases levels with
    | zero => cases hdepth
    | succ levels =>
      rw [toRaw, Raw.toJson?,
        itemsToJson?_toRawItems items hcanonical hintegers (Nat.le_of_succ_le_succ hdepth)]
      rfl
  | obj fields =>
    cases levels with
    | zero => cases hdepth
    | succ levels =>
      obtain ⟨hfields, hordered⟩ := hcanonical
      rw [toRaw, Raw.toJson?,
        fieldsToJson?_toRawFields fields hfields hintegers (Nat.le_of_succ_le_succ hdepth),
        Option.map_some, sortFields_of_pairwise hordered]

theorem itemsToJson?_toRawItems (items : List Json) (hcanonical : CanonicalItems items)
    (hintegers : FloatFreeItems items) {levels : ℕ} (hdepth : itemsDepth items ≤ levels) :
    Raw.itemsToJson? levels (toRawItems items) = some items := by
  match items with
  | [] => rfl
  | item :: rest =>
    obtain ⟨hitem, hrest⟩ := max_le_iff.1 hdepth
    rw [toRawItems, Raw.itemsToJson?, toJson?_toRaw item hcanonical.1 hintegers.1 hitem,
      itemsToJson?_toRawItems rest hcanonical.2 hintegers.2 hrest]

theorem fieldsToJson?_toRawFields (fields : List (String × Json))
    (hcanonical : CanonicalFields fields) (hintegers : FloatFreeFields fields) {levels : ℕ}
    (hdepth : fieldsDepth fields ≤ levels) :
    Raw.fieldsToJson? levels (toRawFields fields) = some fields := by
  match fields with
  | [] => rfl
  | (key, value) :: rest =>
    obtain ⟨hvalue, hrest⟩ := max_le_iff.1 hdepth
    rw [toRawFields, Raw.fieldsToJson?, unescape?_escape,
      toJson?_toRaw value hcanonical.1 hintegers.1 hvalue,
      fieldsToJson?_toRawFields rest hcanonical.2 hintegers.2 hrest]
    simp only [String.ofList_toList]

end

/-- An integer document that is nested no deeper than a reader goes is read back as it was
written. -/
theorem parse?_compact {document : Json} (hcanonical : document.Canonical)
    (hintegers : document.FloatFree) (hdepth : document.depth ≤ maxDepth) :
    parse? document.compact = some document := by
  rw [parse?, compact, String.toList_ofList, ofChars?, ofChars?_write]
  exact toJson?_toRaw document hcanonical hintegers hdepth

end RecordGraph.Json
