import RecordGraph.Document.Write
import RecordGraph.Output.Layout
import RecordGraph.Output.Mode

/-!
# Showing records, edges and jobs

Each kind of item has a form for people, a row of a table and a document.  Lists are shown item by
item, as a table with a line of headers, or as an array with one item on each line.
-/

namespace RecordGraph

/-- The forms in which an item is shown. -/
class Showable (α : Type) where
  human : α → String
  row : α → String
  document : α → Json
  headers : List String

/-- A time in microseconds as people read it; a time beyond the calendar as the number. -/
def microsText (micros : Int) : String :=
  match Timestamp.ofMicros? micros with
  | some time => time.plainText
  | none => Decimal.text micros

def timeText : Option Timestamp → String
  | some time => time.plainText
  | none => "-"

/-- The cells of a row with two spaces between them. -/
def cells (texts : List String) : String := "  ".intercalate texts

namespace Object

def human (object : Object) : String :=
  Layout.headed (object.stub.text ++ "  " ++ object.title) ++
    (match object.origin with
      | some origin => Layout.keyValue "Snapshot of" origin.text
      | none => "") ++
    Layout.keyValue "Created" (microsText object.createdAt) ++
    Layout.keyValue "Updated" (microsText object.updatedAt) ++ "\n"

def row (object : Object) : String :=
  let origin := match object.origin with
    | some origin => origin.text
    | none => "-"
  cells [object.type, Decimal.text object.id, origin, object.title] ++ "\n"

instance : Showable Object := ⟨human, row, toJson, ["type", "id", "child", "title"]⟩

end Object

def boolText (value : Bool) : String := if value then "true" else "false"

namespace Relationship

def human (edge : Relationship) : String :=
  "#" ++ Layout.padRight 6 (Decimal.text edge.id) ++ " " ++ edge.displayName ++
    (if edge.external then "  [external]" else "") ++
    (match edge.parentId with
      | some parent => "  (from #" ++ Decimal.text parent ++ ")"
      | none => "") ++ "\n"

def row (edge : Relationship) : String :=
  cells [Decimal.text edge.id, edge.source.text, edge.destination.text, boolText edge.external]
    ++ "\n"

instance : Showable Relationship :=
  ⟨human, row, toJson, ["id", "source", "destination", "external"]⟩

end Relationship

namespace JobLog

def human (log : JobLog) : String :=
  Layout.headed ("Job " ++ Decimal.text log.id ++ "  " ++ log.title.getD "(untitled)") ++
    Layout.keyValue "Type" log.kind.name ++
    Layout.keyValue "Status" log.status.name ++
    Layout.keyValue "Created" (timeText log.createdAt) ++
    Layout.keyValue "Started" (timeText log.startAt) ++
    Layout.keyValue "Ended" (timeText log.endAt) ++
    (match log.results with
      | some results => Layout.keyValue "Results" results.compact
      | none => "") ++ "\n"

def row (log : JobLog) : String :=
  cells [Decimal.text log.id, log.kind.name, log.status.name, log.title.getD "-"] ++ "\n"

instance : Showable JobLog := ⟨human, row, toJson, ["id", "type", "status", "title"]⟩

end JobLog

section

variable {α : Type} [Showable α]

def showItem (mode : OutputMode) (item : α) : String :=
  match mode with
  | .pretty => Showable.human item
  | .text => Showable.row item
  | .json => (Showable.document item).compact ++ "\n"

/-- The lines of an array, one item on each, with commas between them. -/
def arrayLines : List α → String
  | [] => ""
  | [item] => "\n" ++ (Showable.document item).compact
  | item :: rest => "\n" ++ (Showable.document item).compact ++ "," ++ arrayLines rest

/-- The rows of a table under a line of headers; nothing where there is no row. -/
def table (items : List α) : String :=
  if items.isEmpty then ""
  else cells (Showable.headers α) ++ "\n" ++ String.join (items.map Showable.row)

def showList (mode : OutputMode) (items : List α) : String :=
  match mode with
  | .pretty => String.join (items.map Showable.human)
  | .text => table items
  | .json => "[" ++ arrayLines items ++ "\n]\n"

end

end RecordGraph
