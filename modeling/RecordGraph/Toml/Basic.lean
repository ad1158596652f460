/-!
# TOML documents

Values of a configuration file.  Tables remember how they came about, for that decides what may
still be added to them: a table that a header or a dotted key only passed through is implicit, and
one that a dotted key made is dotted.  An inline table is complete as it stands.
-/

namespace RecordGraph

inductive Toml where
  | string (text : String)
  | integer (value : Int)
  | float
  | boolean (value : Bool)
  | datetime
  | array (items : List Toml)
  | inline (entries : List (String × Toml))
  | table (implicit dotted : Bool) (entries : List (String × Toml))
  /-- An array of tables, the last one first. -/
  | tables (elements : List (List (String × Toml)))
deriving Repr, Inhabited

namespace Toml

abbrev Entries := List (String × Toml)

/-- Put a value in the place of the one with the same key. -/
def setEntry (key : String) (value : Toml) (entries : Entries) : Entries :=
  entries.map (fun entry => if entry.1 == key then (key, value) else entry)

/-- Change the table at the end of a path.  Missing tables on the way are made.  A path of a header
passes through tables and the last element of arrays of tables; a dotted key passes only through
tables that are implicit.  `change` is told whether it is given a dotted table. -/
def changeAt (dotted : Bool) (change : Bool → Entries → Option Entries) :
    List String → Bool → Entries → Option Entries
  | [], isDotted, entries => change isDotted entries
  | key :: rest, _, entries =>
    match entries.lookup key with
    | none =>
      (changeAt dotted change rest dotted []).map
        (fun inner => entries ++ [(key, .table true dotted inner)])
    | some (.table implicit isDotted inner) =>
      if dotted && !implicit then none
      else
        (changeAt dotted change rest isDotted inner).map
          (fun inner => setEntry key (.table implicit isDotted inner) entries)
    | some (.tables (last :: older)) =>
      (changeAt dotted change rest false last).map
        (fun last => setEntry key (.tables (last :: older)) entries)
    | some _ => none

/-- Add an entry under a dotted key.  A key without dots belongs to a table that was not made by a
dotted key, and one with dots to one that was; no key is given twice. -/
def addEntry (path : List String) (key : String) (value : Toml) (entries : Entries) :
    Option Entries :=
  changeAt true
    (fun isDotted inner =>
      if isDotted == path.isEmpty then none
      else if (inner.lookup key).isSome then none
      else some (inner ++ [(key, value)]))
    path false entries

/-- Open the table of a header: a new one, or one that headers of its parts made. -/
def openTable (path : List String) (key : String) (entries : Entries) : Option Entries :=
  changeAt false
    (fun _ inner =>
      match inner.lookup key with
      | none => some (inner ++ [(key, .table false false [])])
      | some (.table true false kept) => some (setEntry key (.table false false kept) inner)
      | some _ => none)
    path false entries

/-- Open the next element of an array of tables. -/
def openElement (path : List String) (key : String) (entries : Entries) : Option Entries :=
  changeAt false
    (fun _ inner =>
      match inner.lookup key with
      | none => some (inner ++ [(key, .tables [[]])])
      | some (.tables elements) => some (setEntry key (.tables ([] :: elements)) inner)
      | some _ => none)
    path false entries

end Toml

end RecordGraph
