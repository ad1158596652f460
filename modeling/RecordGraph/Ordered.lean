/-!
# Lists in order

Tables, registries and sets of references are lists in the strict order of a key.  `before` is
that order; two items of which neither is before the other have one key.
-/

namespace RecordGraph.Ordered

variable {α : Type}

/-- Put `item` at its place.  An item that has the key already stays. -/
def insert (before : α → α → Bool) (item : α) : List α → List α
  | [] => [item]
  | head :: tail =>
    if before item head then item :: head :: tail
    else if before head item then head :: insert before item tail
    else head :: tail

/-- Put `item` at its place.  An item that has the key already is replaced. -/
def replace (before : α → α → Bool) (item : α) : List α → List α
  | [] => [item]
  | head :: tail =>
    if before item head then item :: head :: tail
    else if before head item then head :: replace before item tail
    else item :: tail

/-- The items in order, one for each key. -/
def ofList (before : α → α → Bool) (items : List α) : List α :=
  items.foldl (fun sorted item => insert before item sorted) []

/-- Whatever is in the list after an insertion was there before or is the item. -/
theorem mem_of_mem_insert {before : α → α → Bool} {item other : α} {items : List α}
    (hmem : other ∈ insert before item items) : other = item ∨ other ∈ items := by
  induction items with
  | nil => simpa [insert] using hmem
  | cons head tail ih =>
    simp only [insert] at hmem
    split at hmem
    · simpa using hmem
    · split at hmem
      · rcases List.mem_cons.1 hmem with rfl | htail
        · simp
        · rcases ih htail with heq | hold
          · exact .inl heq
          · exact .inr (List.mem_cons_of_mem _ hold)
      · exact .inr hmem

/-- An insertion removes nothing. -/
theorem mem_insert_of_mem {before : α → α → Bool} {item other : α} {items : List α}
    (hmem : other ∈ items) : other ∈ insert before item items := by
  induction items with
  | nil => cases hmem
  | cons head tail ih =>
    simp only [insert]
    split
    · exact List.mem_cons_of_mem _ hmem
    · split
      · rcases List.mem_cons.1 hmem with rfl | htail
        · simp
        · exact List.mem_cons_of_mem _ (ih htail)
      · exact hmem

/-- Where equal keys mean equal items, the inserted item is in the list. -/
theorem mem_insert_self {before : α → α → Bool} {item : α} {items : List α}
    (htotal : ∀ other, before item other = false → before other item = false → item = other) :
    item ∈ insert before item items := by
  induction items with
  | nil => simp [insert]
  | cons head tail ih =>
    simp only [insert]
    split
    · simp
    · next hitem =>
      split
      · exact List.mem_cons_of_mem _ ih
      · next hhead => simp [htotal head (by simpa using hitem) (by simpa using hhead)]

/-- Whatever is in the list after a replacement was there before or is the item. -/
theorem mem_of_mem_replace {before : α → α → Bool} {item other : α} {items : List α}
    (hmem : other ∈ replace before item items) : other = item ∨ other ∈ items := by
  induction items with
  | nil => exact .inl (List.mem_singleton.1 hmem)
  | cons head tail ih =>
    simp only [replace] at hmem
    split at hmem
    · exact List.mem_cons.1 hmem
    · split at hmem
      · rcases List.mem_cons.1 hmem with rfl | htail
        · exact .inr List.mem_cons_self
        · exact (ih htail).imp id (List.mem_cons_of_mem head)
      · exact (List.mem_cons.1 hmem).imp id (List.mem_cons_of_mem head)

/-- An item whose key is after all others goes to the end. -/
theorem replace_of_last {before : α → α → Bool} {item : α} {items : List α}
    (hlast : ∀ other ∈ items, before item other = false ∧ before other item = true) :
    replace before item items = items ++ [item] := by
  induction items with
  | nil => rfl
  | cons head tail ih =>
    obtain ⟨hitem, hhead⟩ := hlast head List.mem_cons_self
    have hrest := ih fun other hother => hlast other (List.mem_cons_of_mem head hother)
    rw [replace, hitem, hhead, hrest]
    rfl

/-- A replacement keeps the order, where an item comes before whatever comes after another one of
its key. -/
theorem pairwise_replace {before : α → α → Bool} {item : α} {items : List α}
    (htrans : ∀ {first second third}, before first second = true →
      before second third = true → before first third = true)
    (hkey : ∀ {head other}, before item head = false → before head item = false →
      before head other = true → before item other = true)
    (hordered : items.Pairwise fun left right => before left right = true) :
    (replace before item items).Pairwise fun left right => before left right = true := by
  induction items with
  | nil => exact List.pairwise_singleton _ item
  | cons head tail ih =>
    obtain ⟨hhead, htail⟩ := List.pairwise_cons.1 hordered
    simp only [replace]
    split
    · next hitem =>
      refine List.pairwise_cons.2 ⟨?_, hordered⟩
      intro other hother
      rcases List.mem_cons.1 hother with rfl | hlater
      · exact hitem
      · exact htrans hitem (hhead other hlater)
    · next hitem =>
      split
      · next hafter =>
        refine List.pairwise_cons.2 ⟨?_, ih htail⟩
        intro other hother
        rcases mem_of_mem_replace hother with rfl | hlater
        · exact hafter
        · exact hhead other hlater
      · next hafter =>
        refine List.pairwise_cons.2 ⟨?_, htail⟩
        intro other hother
        exact hkey (Bool.eq_false_iff.2 hitem) (Bool.eq_false_iff.2 hafter) (hhead other hother)

end RecordGraph.Ordered
