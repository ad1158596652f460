import RecordGraph.Toml.Scalar

/-!
# Whole documents

A document is a sequence of lines: entries, headers of tables, and blank ones.  Entries go into the
table of the last header.
-/

namespace RecordGraph.Toml

mutual

/-- Read a value, within a number of steps; `depth` values may still lie in each other. -/
def readValue : Nat → Nat → List Char → Read Toml
  | 0, _, _ => none
  | fuel + 1, depth, cs =>
    match cs with
    | '"' :: _ => (readString cs).map (fun (text, rest) => (.string text, rest))
    | '\'' :: _ => (readString cs).map (fun (text, rest) => (.string text, rest))
    | '[' :: rest =>
      match depth with
      | 0 => none
      | depth + 1 =>
        (readItems fuel depth rest).map (fun (items, rest) => (.array items, rest))
    | '{' :: rest =>
      match depth, skipSpace rest with
      | 0, _ => none
      | _ + 1, '}' :: rest => some (.inline [], rest)
      | depth + 1, rest =>
        (readPairs fuel depth [] rest).map (fun (entries, rest) => (.inline entries, rest))
    | 't' :: 'r' :: 'u' :: 'e' :: rest => some (.boolean true, rest)
    | 'f' :: 'a' :: 'l' :: 's' :: 'e' :: rest => some (.boolean false, rest)
    | 'i' :: 'n' :: 'f' :: rest => some (.float, rest)
    | 'n' :: 'a' :: 'n' :: rest => some (.float, rest)
    | _ => readNumeric cs

/-- Read the items of an array and its closing bracket.  A comma may follow the last item. -/
def readItems : Nat → Nat → List Char → Read (List Toml)
  | 0, _, _ => none
  | fuel + 1, depth, cs =>
    match skipBlank cs with
    | ']' :: rest => some ([], rest)
    | rest =>
      match readValue fuel depth rest with
      | none => none
      | some (item, rest) =>
        match skipBlank rest with
        | ',' :: rest =>
          (readItems fuel depth rest).map (fun (items, after) => (item :: items, after))
        | ']' :: rest => some ([item], rest)
        | _ => none

/-- Read the entries of an inline table and its closing brace, after those read already. -/
def readPairs : Nat → Nat → Entries → List Char → Read Entries
  | 0, _, _, _ => none
  | fuel + 1, depth, entries, cs =>
    match readKey cs with
    | some ((path, key), '=' :: rest) =>
      match readValue fuel depth (skipSpace rest) with
      | none => none
      | some (value, rest) =>
        match addEntry path key value entries with
        | none => none
        | some entries =>
          match skipSpace rest with
          | ',' :: rest => readPairs fuel depth entries rest
          | '}' :: rest => some (entries, rest)
          | _ => none
    | _ => none

end

/-- What is read so far, and the path of the table that entries go into. -/
structure Progress where
  root : Entries := []
  header : List String := []

/-- Add an entry to the table of the last header. -/
def Progress.add (progress : Progress) (path : List String) (key : String) (value : Toml) :
    Option Progress :=
  (changeAt false (fun _ entries => addEntry path key value entries) progress.header false
    progress.root).map (fun root => { progress with root })

/-- Read the header of a table after its bracket. -/
def Progress.readTable (progress : Progress) (cs : List Char) : Read Progress :=
  match readKey cs with
  | some ((path, key), ']' :: rest) =>
    (openTable path key progress.root).map (fun root => (⟨root, path ++ [key]⟩, rest))
  | _ => none

/-- Read the header of an element of an array of tables after its brackets. -/
def Progress.readElement (progress : Progress) (cs : List Char) : Read Progress :=
  match readKey cs with
  | some ((path, key), ']' :: ']' :: rest) =>
    (openElement path key progress.root).map (fun root => (⟨root, path ++ [key]⟩, rest))
  | _ => none

def Progress.readEntry (progress : Progress) (cs : List Char) : Read Progress :=
  match readKey cs with
  | some ((path, key), '=' :: rest) =>
    match readValue (2 * rest.length + 2) maxDepth (skipSpace rest) with
    | some (value, rest) => (progress.add path key value).map (fun after => (after, rest))
    | none => none
  | _ => none

/-- Read what a line holds before its end. -/
def Progress.readLine (progress : Progress) (cs : List Char) : Read Progress :=
  match cs with
  | [] => some (progress, [])
  | '[' :: '[' :: rest => progress.readElement rest
  | '[' :: rest => progress.readTable rest
  | c :: _ =>
    if c == '#' || c == '\n' || c == '\r' then some (progress, cs) else progress.readEntry cs

/-- Read the lines of a document, at most `fuel` of them. -/
def readLines : Nat → Progress → List Char → Option Entries
  | 0, _, _ => none
  | fuel + 1, progress, cs =>
    match progress.readLine (skipSpace cs) with
    | none => none
    | some (progress, rest) =>
      match skipComment (skipSpace rest) with
      | [] => some progress.root
      | rest =>
        match newline? rest with
        | some rest => readLines fuel progress rest
        | none => none

/-- Read a document.  A byte order mark in front of it does not count. -/
def ofChars? (cs : List Char) : Option Entries :=
  match cs with
  | c :: rest =>
    if c.toNat == 0xFEFF then readLines (rest.length + 1) {} rest
    else readLines (cs.length + 1) {} cs
  | [] => some []

def parse? (text : String) : Option Entries := ofChars? text.toList

end RecordGraph.Toml
