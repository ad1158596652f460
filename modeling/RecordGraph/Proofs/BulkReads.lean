import Mathlib.Data.List.Dedup
import RecordGraph.Proofs.ByteOrder
import RecordGraph.Proofs.DocumentText
import RecordGraph.Proofs.Rows
import RecordGraph.Store.Lookup

/-!
# Reading many records at once

The store finds the records that a list of references names through a text, in which the types may
hold any character.  Reading that text gives the references again.  So what is found is what single
look-ups find, in the order of the table, whatever is listed twice or not stored.
-/

namespace RecordGraph

/-! ## The text of a list -/

namespace Json

theorem toRawItems_eq_map (items : List Json) : toRawItems items = items.map toRaw := by
  induction items with
  | nil => rfl
  | cons item rest ih => rw [toRawItems, ih, List.map_cons]

theorem Lexeme.toWhole?_ofInt (id : Int) : (Lexeme.ofInt id).toWhole? = some id := by
  cases id with
  | ofNat value => simp [ofInt, toWhole?]
  | negSucc value => simp [ofInt, toWhole?, Int.negSucc_eq]

theorem Raw.text?_toRaw (value : String) : (str value).toRaw.text? = some value := by
  rw [toRaw, text?, unescape?_escape, Option.map_some, String.ofList_toList]

/-- A list whose items are read one by one is read. -/
theorem ofListText?_compact {α : Type} {item? : Raw → Option α} {encode : α → Json}
    (hitem : ∀ item, item? (encode item).toRaw = some item) (items : List α) :
    ofListText? item? (arr (items.map encode)).compact = some items := by
  have hitems : (toRawItems (items.map encode)).filterMap item? = items := by
    rw [toRawItems_eq_map, List.map_map, List.filterMap_map]
    calc items.filterMap (fun item => item? (encode item).toRaw)
      _ = items.filterMap some := List.filterMap_congr fun item _ => hitem item
      _ = items := List.filterMap_some
  rw [ofListText?, compact, String.toList_ofList, ofChars?_write, toRaw]
  exact congrArg some hitems

end Json

namespace Stub

theorem ofItem?_toRaw (stub : Stub) :
    ofItem? (Json.arr [.str stub.type, .int stub.id]).toRaw = some stub := by
  simp only [Json.toRaw, Json.toRawItems, ofItem?, Json.unescape?_escape,
    Json.Lexeme.toWhole?_ofInt, String.ofList_toList]

/-- Listing references loses none of them and nothing of them. -/
theorem ofListText?_listText (stubs : List Stub) : ofListText? (listText stubs) = some stubs :=
  Json.ofListText?_compact ofItem?_toRaw stubs

theorem listed_eq (stubs : List Stub) : listed stubs = stubs := by
  rw [listed, ofListText?_listText, Option.getD_some]

/-- The order of tables: by the bytes of the type, then by number. -/
def Precedes (left right : Stub) : Prop :=
  Text.bytes left.type < Text.bytes right.type ∨ left.type = right.type ∧ left.id < right.id

theorem before_iff_precedes {left right : Stub} :
    left.before right = true ↔ left.Precedes right := by
  rw [before_iff, Precedes, Text.bytes_lt_iff]

end Stub

namespace TypeName

theorem listed_eq (names : List String) : listed names = names := by
  rw [listed, listDocument, Json.ofListText?_compact Json.Raw.text?_toRaw, Option.getD_some]

end TypeName

/-! ## Records in order -/

/-- Items of different keys are put in order, each once. -/
theorem Ordered.ofList_perm {α : Type} {before : α → α → Bool} {items : List α}
    (hkeys : items.Pairwise fun left right => before left right = true ∨ before right left = true) :
    (Ordered.ofList before items).Perm items := by
  have hfold : ∀ sorted : List α,
      (∀ item ∈ items, ∀ other ∈ sorted, before item other = true ∨ before other item = true) →
      (items.foldl (fun sorted item => Ordered.insert before item sorted) sorted).Perm
        (items ++ sorted) := by
    induction items with
    | nil => exact fun sorted _ => List.Perm.refl sorted
    | cons item rest ih =>
      intro sorted hsorted
      obtain ⟨hitem, hrest⟩ := List.pairwise_cons.1 hkeys
      obtain ⟨hfresh, hlater⟩ := List.forall_mem_cons.1 hsorted
      have hinserted := Ordered.insert_perm hfresh
      refine (ih hrest _ fun later hlaterMem other hother => ?_).trans ?_
      · rcases Ordered.mem_of_mem_insert hother with rfl | hold
        · exact (hitem later hlaterMem).symm
        · exact hlater later hlaterMem other hold
      · exact (hinserted.append_left rest).trans List.perm_middle
  have hsorted := hfold [] fun _ _ _ hother => absurd hother List.not_mem_nil
  rwa [List.append_nil] at hsorted

namespace Object

variable {objects others : List Object}

theorem sorted_perm (hkeys : objects.Pairwise fun left right => left.stub ≠ right.stub) :
    (sorted objects).Perm objects := by
  apply Ordered.ofList_perm
  refine hkeys.imp fun {left right} hne => ?_
  by_contra hneither
  simp only [not_or, Bool.not_eq_true] at hneither
  exact hne (Stub.eq_of_not_before hneither.1 hneither.2)

theorem pairwise_sorted (objects : List Object) :
    (sorted objects).Pairwise fun left right => left.stub.before right.stub = true :=
  Ordered.pairwise_ofList objects Stub.before_trans

/-- The same records in order are the same list. -/
theorem eq_of_perm (hperm : objects.Perm others)
    (hobjects : objects.Pairwise fun left right => left.stub.before right.stub = true)
    (hothers : others.Pairwise fun left right => left.stub.before right.stub = true) :
    objects = others := by
  apply hperm.eq_of_pairwise _ hobjects hothers
  intro left right _ _ hbefore hafter
  exact absurd (Stub.before_trans hbefore hafter) (Stub.not_before_self left.stub)

/-- Choosing some records commutes with putting them in order. -/
theorem sorted_filter (hkeys : objects.Pairwise fun left right => left.stub ≠ right.stub)
    (chosen : Object → Bool) : sorted (objects.filter chosen) = (sorted objects).filter chosen := by
  have hfirst : (sorted (objects.filter chosen)).Perm (objects.filter chosen) :=
    sorted_perm (hkeys.filter chosen)
  have hlast : ((sorted objects).filter chosen).Perm (objects.filter chosen) :=
    (sorted_perm hkeys).filter chosen
  apply eq_of_perm (hfirst.trans hlast.symm)
  · exact pairwise_sorted _
  · exact (pairwise_sorted objects).filter chosen

end Object

/-! ## Bulk reads and single reads -/

namespace Store

variable {store : Store} {stubs : List Stub} {object : Object}

/-- The records of the table that one of the references names, in the order of the table. -/
def objectsNamed (store : Store) (stubs : List Stub) : List Object :=
  store.objects.filter (fun object => stubs.contains object.stub)

theorem getObjects?_eq (store : Store) (stubs : List Stub) :
    store.getObjects? stubs = some (Object.sorted (store.objectsNamed stubs)) := by
  rw [getObjects?]
  split
  · next hnone =>
    rw [List.isEmpty_iff.1 hnone, objectsNamed]
    simp [Object.sorted, Ordered.ofList]
  · rw [Stub.ofListText?_listText, Option.map_some, objectsNamed]

/-- What is read at once are the records that the references name. -/
theorem getObjects?_perm
    (hkeys : store.objects.Pairwise fun left right => left.stub ≠ right.stub)
    (stubs : List Stub) : ((store.getObjects? stubs).getD []).Perm (store.objectsNamed stubs) := by
  rw [getObjects?_eq, Option.getD_some]
  exact Object.sorted_perm (hkeys.filter _)

theorem object?_eq_some_iff
    (hkeys : store.objects.Pairwise fun left right => left.stub ≠ right.stub) {stub : Stub} :
    store.object? stub = some object ↔ object ∈ store.objects ∧ object.stub = stub :=
  find?_key_eq_some_iff (List.pairwise_map.2 hkeys)

/-- The records that are found for references: those of the table that one of them names, which
single reads find too. -/
structure FoundFor (store : Store) (stubs : List Stub) (found : List Object) : Prop where
  chosen : found = (store.listObjects none).filter fun object => object.stub ∈ stubs
  mem_iff : ∀ object, object ∈ found ↔ ∃ stub ∈ stubs, store.object? stub = some object
  once : ∀ object ∈ found, found.count object = 1
  length_le : found.length ≤ stubs.dedup.length

/-- Reading many records gives what reading single records gives. -/
structure ReadsInBulk (store : Store) : Prop where
  /-- Every record is listed once. -/
  listed : (store.listObjects none).Perm store.objects
  ordered : (store.listObjects none).Pairwise fun left right => left.stub.Precedes right.stub
  ofType : ∀ type,
    store.listObjects (some type) = (store.listObjects none).filter fun object => object.type = type
  found : ∀ stubs, ∃ found, store.getObjects? stubs = some found ∧ store.FoundFor stubs found

theorem foundFor_sorted (hkeys : store.objects.Pairwise fun left right => left.stub ≠ right.stub)
    (stubs : List Stub) : store.FoundFor stubs (Object.sorted (store.objectsNamed stubs)) := by
  have hnamed : (store.objectsNamed stubs).Pairwise fun left right => left.stub ≠ right.stub :=
    hkeys.filter _
  have hperm := Object.sorted_perm hnamed
  have hstubs : ((Object.sorted (store.objectsNamed stubs)).map Object.stub).Nodup :=
    (hperm.map Object.stub).nodup_iff.2 (List.pairwise_map.2 hnamed)
  constructor
  · rw [objectsNamed, Object.sorted_filter hkeys, listObjects]
    simp only [List.contains_eq_mem]
  · intro object
    rw [hperm.mem_iff, objectsNamed, List.mem_filter, List.contains_iff_mem]
    simp only [object?_eq_some_iff hkeys]
    constructor
    · rintro ⟨hstored, hlisted⟩
      exact ⟨object.stub, hlisted, hstored, rfl⟩
    · rintro ⟨_, hlisted, hstored, rfl⟩
      exact ⟨hstored, hlisted⟩
  · intro object hobject
    exact List.count_eq_one_of_mem hstubs.of_map hobject
  · rw [← List.length_map Object.stub]
    apply hstubs.length_le_of_subset
    intro stub hstub
    obtain ⟨object, hobject, rfl⟩ := List.mem_map.1 hstub
    have hchosen := (List.mem_filter.1 (hperm.mem_iff.1 hobject)).2
    exact List.mem_dedup.2 (List.contains_iff_mem.1 hchosen)

/-- In a table of which every reference names one record, bulk reads agree with single reads. -/
theorem reads_in_bulk (store : Store)
    (hkeys : store.objects.Pairwise fun left right => left.stub ≠ right.stub) :
    store.ReadsInBulk where
  listed := Object.sorted_perm hkeys
  ordered := (Object.pairwise_sorted store.objects).imp Stub.before_iff_precedes.1
  ofType type := by
    rw [listObjects, listObjects, Object.sorted_filter hkeys]
    rfl
  found stubs := ⟨_, store.getObjects?_eq stubs, foundFor_sorted hkeys stubs⟩

/-- Types with a quote, a backslash and a letter of two bytes, not in order. -/
def oddTypes : Store :=
  { objects := [Object.draft "é" 1 "third", Object.draft "a\"\\" 2 "second",
      Object.draft "a\"\\" (-2) "first"] }

/-- One of the references is given twice, and one names no record. -/
theorem odd_types_found :
    oddTypes.ReadsInBulk ∧
      ∃ found, oddTypes.getObjects? [⟨"é", 1⟩, ⟨"a\"\\", 2⟩, ⟨"é", 7⟩, ⟨"é", 1⟩] = some found ∧
        found.map Object.title = ["second", "third"] := by
  have hreads : oddTypes.ReadsInBulk := reads_in_bulk oddTypes (by decide)
  obtain ⟨found, hget, hfound⟩ :=
    hreads.found [⟨"é", 1⟩, ⟨"a\"\\", 2⟩, ⟨"é", 7⟩, ⟨"é", 1⟩]
  refine ⟨hreads, found, hget, ?_⟩
  rw [hfound.chosen]
  decide

end Store

end RecordGraph
