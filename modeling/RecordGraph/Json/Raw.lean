import RecordGraph.Json.Number
import RecordGraph.Json.Quoted

/-!
# The text of a document

Reading has two steps.  The first finds the structure of a text and keeps numbers and strings as
they are written.  The second turns that structure into a document; it refuses numbers beyond the
floating-point range, lone surrogates and documents nested deeper than 127 levels.  Parts of a text
that nobody asks for take only the first step.
-/

namespace RecordGraph.Json

/-- A document as it is written. -/
inductive Raw where
  | null
  | bool (value : Bool)
  | number (lexeme : Lexeme)
  | string (body : List Char)
  | array (items : List Raw)
  | object (fields : List (List Char × Raw))
deriving Repr, Inhabited

namespace Raw

def isSpace (c : Char) : Bool := c == ' ' || c == '\n' || c == '\r' || c == '\t'

def skipSpace (cs : List Char) : List Char := cs.dropWhile isSpace

mutual

/-- Read one document, after any space, within the given number of steps. -/
def readValue : Nat → List Char → Option (Raw × List Char)
  | 0, _ => none
  | fuel + 1, cs =>
    match skipSpace cs with
    | 'n' :: 'u' :: 'l' :: 'l' :: rest => some (null, rest)
    | 't' :: 'r' :: 'u' :: 'e' :: rest => some (bool true, rest)
    | 'f' :: 'a' :: 'l' :: 's' :: 'e' :: rest => some (bool false, rest)
    | '"' :: rest => (scanQuoted rest).map (fun (body, after) => (string body, after))
    | '[' :: rest =>
      match skipSpace rest with
      | ']' :: rest => some (array [], rest)
      | rest => (readItems fuel rest).map (fun (items, after) => (array items, after))
    | '{' :: rest =>
      match skipSpace rest with
      | '}' :: rest => some (object [], rest)
      | rest => (readFields fuel rest).map (fun (fields, after) => (object fields, after))
    | rest => (Lexeme.scan rest).map (fun (lexeme, after) => (number lexeme, after))

/-- Read one or more items and the closing bracket. -/
def readItems : Nat → List Char → Option (List Raw × List Char)
  | 0, _ => none
  | fuel + 1, cs =>
    match readValue fuel cs with
    | none => none
    | some (item, rest) =>
      match skipSpace rest with
      | ',' :: rest => (readItems fuel rest).map (fun (items, after) => (item :: items, after))
      | ']' :: rest => some ([item], rest)
      | _ => none

/-- Read one or more fields and the closing brace. -/
def readFields : Nat → List Char → Option (List (List Char × Raw) × List Char)
  | 0, _ => none
  | fuel + 1, cs =>
    match skipSpace cs with
    | '"' :: rest =>
      match scanQuoted rest with
      | none => none
      | some (key, rest) =>
        match skipSpace rest with
        | ':' :: rest =>
          match readValue fuel rest with
          | none => none
          | some (value, rest) =>
            match skipSpace rest with
            | ',' :: rest =>
              (readFields fuel rest).map (fun (fields, after) => ((key, value) :: fields, after))
            | '}' :: rest => some ([(key, value)], rest)
            | _ => none
        | _ => none
    | _ => none

end

/-- The text that a written string stands for. -/
def text? : Raw → Option String
  | .string body => (unescape? body).map String.ofList
  | _ => none

/-- Read a text that holds one document and space around it.  Two steps for each character are
enough, for every second step takes a character off the text. -/
def ofChars? (cs : List Char) : Option Raw :=
  match readValue (2 * cs.length + 2) cs with
  | some (raw, rest) => if skipSpace rest = [] then some raw else none
  | none => none

mutual

/-- The document that a written one stands for, if it is nested within `depth` levels. -/
def toJson? (depth : Nat) : Raw → Option Json
  | .null => some .null
  | .bool value => some (.bool value)
  | .number lexeme => lexeme.toJson?
  | .string body => (unescape? body).map (fun cs => .str (String.ofList cs))
  | .array items =>
    match depth with
    | 0 => none
    | depth + 1 => (itemsToJson? depth items).map .arr
  | .object fields =>
    match depth with
    | 0 => none
    | depth + 1 => (fieldsToJson? depth fields).map (fun fields => .obj (sortFields fields))

def itemsToJson? (depth : Nat) : List Raw → Option (List Json)
  | [] => some []
  | item :: rest =>
    match toJson? depth item, itemsToJson? depth rest with
    | some item, some rest => some (item :: rest)
    | _, _ => none

def fieldsToJson? (depth : Nat) : List (List Char × Raw) → Option (List (String × Json))
  | [] => some []
  | (key, value) :: rest =>
    match unescape? key, toJson? depth value, fieldsToJson? depth rest with
    | some key, some value, some rest => some ((String.ofList key, value) :: rest)
    | _, _, _ => none

end

end Raw

/-- The deepest nesting that is read. -/
def maxDepth : Nat := 127

/-- Read a document. -/
def ofChars? (cs : List Char) : Option Json :=
  match Raw.ofChars? cs with
  | some raw => raw.toJson? maxDepth
  | none => none

def parse? (text : String) : Option Json := ofChars? text.toList

end RecordGraph.Json
