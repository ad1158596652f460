import Mathlib.Algebra.GroupWithZero.Nat
import Mathlib.Data.List.Basic
import RecordGraph.Graph.Records
import RecordGraph.Output.Listing

/-!
# The lines of a table

A table is read line by line.  Its rows hold titles and types as they are stored, and a row takes
one line more for each line break in them.  So every item has one line of its own, in order after
the line of headers, exactly when no text that is shown has a line break in it.
-/

namespace RecordGraph

/-! ## Lines -/

namespace Text

/-- What stands in front of each line break. -/
def lines (cs : List Char) : List (List Char) := (cs.splitOn '\n').dropLast

/-- The line breaks in some texts. -/
def breaks (texts : List String) : Nat := (texts.map fun text => text.toList.count '\n').sum

variable {cs : List Char} {texts : List String}

theorem splitOn_append_newline (cs rest : List Char) :
    (cs ++ '\n' :: rest).splitOn '\n' = cs.splitOn '\n' ++ rest.splitOn '\n' := by
  simp only [List.splitOn_eq_splitOnP]
  exact List.splitOnP_append_cons cs rest rfl

theorem length_splitOn (cs : List Char) : (cs.splitOn '\n').length = cs.count '\n' + 1 := by
  rw [List.splitOn_eq_splitOnP]
  induction cs with
  | nil => rfl
  | cons c rest ih =>
    rw [List.splitOnP_cons_eq_if_modifyHead, List.count_cons]
    split
    · next hbreak => rw [List.length_cons, ih]
    · next hplain => rw [List.length_modifyHead, ih, Nat.add_zero]

theorem splitOn_of_notMem (hcs : '\n' ∉ cs) : cs.splitOn '\n' = [cs] := by
  rw [List.splitOn_eq_splitOnP]
  apply List.splitOnP_eq_singleton
  rintro c hc
  rw [beq_eq_false_iff_ne]
  rintro rfl
  exact hcs hc

/-! ### Rows that end with line breaks -/

variable (rows : List (List Char))

/-- Such rows are split at the line breaks inside them. -/
theorem lines_flatMap :
    lines (rows.flatMap fun row => row ++ ['\n']) = rows.flatMap fun row => row.splitOn '\n' := by
  -- The last row ends with a line break too, and so the last piece is empty.
  have hsplit : (rows.flatMap fun row => row ++ ['\n']).splitOn '\n' =
      (rows.flatMap fun row => row.splitOn '\n') ++ [[]] := by
    induction rows with
    | nil => rfl
    | cons row rest ih =>
      rw [List.flatMap_cons, List.flatMap_cons, List.append_assoc, List.singleton_append,
        splitOn_append_newline, ih, List.append_assoc]
  rw [lines, hsplit, List.dropLast_concat]

theorem length_lines_flatMap :
    (lines (rows.flatMap fun row => row ++ ['\n'])).length =
      rows.length + (rows.map fun row => row.count '\n').sum := by
  rw [lines_flatMap]
  induction rows with
  | nil => rfl
  | cons row rest ih =>
    rw [List.flatMap_cons, List.length_append, ih, length_splitOn, List.length_cons, List.map_cons,
      List.sum_cons]
    omega

/-- Each row is one line exactly when no row has a line break in it. -/
theorem lines_flatMap_eq_iff :
    lines (rows.flatMap fun row => row ++ ['\n']) = rows ↔ ∀ row ∈ rows, '\n' ∉ row := by
  constructor
  · intro hlines row hrow
    have hlength := length_lines_flatMap rows
    rw [hlines, Nat.left_eq_add, List.sum_eq_zero_iff_forall_eq_nat, List.forall_mem_map] at hlength
    exact List.count_eq_zero.1 (hlength row hrow)
  · intro hrows
    rw [lines_flatMap]
    calc (rows.flatMap fun row => row.splitOn '\n')
      _ = rows.flatMap fun row => [row] :=
        List.flatMap_congr fun row hrow => splitOn_of_notMem (hrows row hrow)
      _ = rows := List.flatMap_singleton' rows

/-! ### Texts -/

theorem breaks_eq_zero_iff : breaks texts = 0 ↔ ∀ text ∈ texts, '\n' ∉ text.toList := by
  induction texts with
  | nil => simp [breaks]
  | cons text rest ih =>
    rw [breaks] at ih
    rw [breaks, List.map_cons, List.sum_cons, Nat.add_eq_zero_iff, ih, List.count_eq_zero,
      List.forall_mem_cons]

/-- There is no line break between cells. -/
theorem count_cells (texts : List String) : (cells texts).toList.count '\n' = breaks texts := by
  have hjoin : ∀ pieces : List (List Char), ([' ', ' '].intercalate pieces).count '\n' =
      (pieces.map fun piece => piece.count '\n').sum := by
    intro pieces
    induction pieces with
    | nil => rfl
    | cons piece rest ih =>
      cases rest with
      | nil => simp
      | cons next rest => simp_all
  rw [cells, String.toList_intercalate, breaks]
  have hspaces : "  ".toList = [' ', ' '] := rfl
  rw [hspaces, hjoin, List.map_map]
  rfl

theorem count_decimal (value : Int) : (Decimal.text value).toList.count '\n' = 0 := by
  rw [List.count_eq_zero, Decimal.text, String.toList_ofList]
  intro hmem
  cases value with
  | ofNat value => exact absurd (Decimal.isDigit_of_mem_digits hmem) (by decide)
  | negSucc value =>
    rcases List.mem_cons.1 hmem with hminus | hdigit
    · exact absurd hminus (by decide)
    · exact absurd (Decimal.isDigit_of_mem_digits hdigit) (by decide)

end Text

/-! ## Tables -/

section

variable {α : Type} [Showable α] {line : α → String} {texts : α → List String}

/-- A row is one line as far as the texts in it are, and the headers are a line. -/
structure RowsOfTexts (line : α → String) (texts : α → List String) : Prop where
  row : ∀ item, Showable.row item = line item ++ "\n"
  breaks : ∀ item, (line item).toList.count '\n' = Text.breaks (texts item)
  headers : '\n' ∉ (cells (Showable.headers α)).toList

/-- Nothing for no items; otherwise the line of headers and one line for each item, in order. -/
def framed (line : α → String) : List α → List String
  | [] => []
  | item :: items => cells (Showable.headers α) :: (item :: items).map line

/-- How a table is read line by line. -/
structure ReadByLines (line : α → String) (texts : α → List String) (items : List α) : Prop where
  /-- There is nothing but the rows, and each row ends with a line break. -/
  rows : (showList .text items).toList =
    ((framed line items).map String.toList).flatMap fun row => row ++ ['\n']
  /-- Each row is one line exactly when no text that is shown has a line break in it. -/
  framed_iff : Text.lines (showList .text items).toList = (framed line items).map String.toList ↔
    ∀ item ∈ items, ∀ text ∈ texts item, '\n' ∉ text.toList
  /-- Each line break in a text makes one line more. -/
  length_eq : (Text.lines (showList .text items).toList).length =
    (framed line items).length + (items.map fun item => Text.breaks (texts item)).sum

namespace RowsOfTexts

variable (hrows : RowsOfTexts line texts) (items : List α)

include hrows

theorem toList_showList :
    (showList .text items).toList =
      ((framed line items).map String.toList).flatMap fun row => row ++ ['\n'] := by
  have hjoin : ∀ items : List α, (String.join (items.map Showable.row)).toList =
      ((items.map line).map String.toList).flatMap fun row => row ++ ['\n'] := by
    intro items
    rw [String.toList_join, List.flatMap_map, List.flatMap_map, List.flatMap_map]
    refine List.flatMap_congr fun item _ => ?_
    rw [hrows.row, String.toList_append]
    rfl
  rw [showList, table]
  cases items with
  | nil => rfl
  | cons item items =>
    rw [List.isEmpty_cons, if_neg Bool.false_ne_true, String.toList_append, String.toList_append,
      hjoin (item :: items)]
    rfl

theorem notMem_line_iff (item : α) :
    '\n' ∉ (line item).toList ↔ ∀ text ∈ texts item, '\n' ∉ text.toList := by
  rw [← Text.breaks_eq_zero_iff, ← hrows.breaks, List.count_eq_zero]

theorem forall_framed_iff :
    (∀ row ∈ (framed line items).map String.toList, '\n' ∉ row) ↔
      ∀ item ∈ items, ∀ text ∈ texts item, '\n' ∉ text.toList := by
  rw [List.forall_mem_map]
  simp only [← hrows.notMem_line_iff]
  cases items with
  | nil => simp [framed]
  | cons item items =>
    rw [framed, List.forall_mem_cons, List.forall_mem_map, and_iff_right hrows.headers]

theorem sum_count_framed :
    (((framed line items).map String.toList).map fun row => row.count '\n').sum =
      (items.map fun item => Text.breaks (texts item)).sum := by
  cases items with
  | nil => rfl
  | cons item items =>
    rw [framed, List.map_cons, List.map_cons, List.sum_cons, List.count_eq_zero.2 hrows.headers,
      Nat.zero_add, List.map_map, List.map_map]
    exact congrArg List.sum (List.map_congr_left fun item _ => hrows.breaks item)

theorem readByLines : ReadByLines line texts items where
  rows := hrows.toList_showList items
  framed_iff := by
    rw [hrows.toList_showList, Text.lines_flatMap_eq_iff, hrows.forall_framed_iff]
  length_eq := by
    rw [hrows.toList_showList, Text.length_lines_flatMap, hrows.sum_count_framed, List.length_map]

end RowsOfTexts

end

/-! ## Records and jobs -/

namespace Object

/-- The cells of a record. -/
def line (object : Object) : String :=
  cells [object.type, Decimal.text object.id,
    match object.origin with
      | some origin => origin.text
      | none => "-", object.title]

/-- The stored texts that the row of a record shows. -/
def texts (object : Object) : List String :=
  [object.type] ++ object.origin.toList.map Stub.type ++ [object.title]

theorem rowsOfTexts : RowsOfTexts line texts where
  row object := rfl
  breaks object := by
    rw [line, Text.count_cells, texts]
    cases object.origin with
    | none => simp [Text.breaks, Text.count_decimal]
    | some origin => simp [Text.breaks, Text.count_decimal, Stub.text]
  headers := by decide

end Object

namespace JobLog

/-- The cells of a job. -/
def line (log : JobLog) : String :=
  cells [Decimal.text log.id, log.kind.name, log.status.name, log.title.getD "-"]

/-- The stored texts that the row of a job shows. -/
def texts (log : JobLog) : List String := log.title.toList

theorem rowsOfTexts : RowsOfTexts line texts where
  row log := rfl
  breaks log := by
    have hkind : log.kind.name.toList.count '\n' = 0 := by
      cases log.kind <;> decide
    have hstatus : log.status.name.toList.count '\n' = 0 := by
      cases log.status <;> decide
    rw [line, Text.count_cells, texts]
    cases log.title with
    | none => simp [Text.breaks, Text.count_decimal, hkind, hstatus]
    | some title => simp [Text.breaks, Text.count_decimal, hkind, hstatus]
  headers := by decide

end JobLog

/-- A list of records, and a list of jobs, is nothing or a line of headers and one line for each
item in order, exactly when no title and no type in it has a line break; each line break makes one
line more. -/
theorem tables_read_by_lines (objects : List Object) (logs : List JobLog) :
    ReadByLines Object.line Object.texts objects ∧ ReadByLines JobLog.line JobLog.texts logs :=
  ⟨Object.rowsOfTexts.readByLines objects, JobLog.rowsOfTexts.readByLines logs⟩

/-- A control whose title has a line break, in front of a risk. -/
def splitControl : List Object := [Object.draft "Control" 1 "a\nb", Object.draft "Risk" 2 "c"]

/-- The store takes the control, and the line where the risk belongs holds the rest of the title. -/
theorem split_control_listed :
    (Graph.insertObject .builtin 0 (Object.draft "Control" 1 "a\nb") {}).result =
        .ok (Object.draft "Control" 1 "a\nb") ∧
      Text.lines (showList .text splitControl).toList =
        ["type  id  child  title", "Control  1  -  a", "b", "Risk  2  -  c"].map String.toList ∧
      Text.lines (showList .text splitControl).toList ≠
        (framed Object.line splitControl).map String.toList := by
  refine ⟨rfl, by decide +kernel, fun hlines => ?_⟩
  have hplain := (tables_read_by_lines splitControl []).1.framed_iff.1 hlines
  exact hplain _ List.mem_cons_self "a\nb" (by decide) (by decide)

end RecordGraph
