import RecordGraph.Json.Basic
import RecordGraph.Json.Quoted
import RecordGraph.Json.Shortest

/-!
# Writing documents

A document is written without any space, or over several lines with two spaces for each level.
-/

namespace RecordGraph.Json

mutual

/-- The text without space. -/
def write : Json → List Char
  | .null => ['n', 'u', 'l', 'l']
  | .bool true => ['t', 'r', 'u', 'e']
  | .bool false => ['f', 'a', 'l', 's', 'e']
  | .int value => Decimal.write value
  | .float value => value.write
  | .str value => quote value.toList
  | .arr items => '[' :: writeItems items ++ [']']
  | .obj fields => '{' :: writeFields fields ++ ['}']

def writeItems : List Json → List Char
  | [] => []
  | [item] => item.write
  | item :: rest => item.write ++ ',' :: writeItems rest

def writeFields : List (String × Json) → List Char
  | [] => []
  | [(key, value)] => quote key.toList ++ ':' :: value.write
  | (key, value) :: rest => quote key.toList ++ ':' :: value.write ++ ',' :: writeFields rest

end

/-- A line break and the indentation of a level. -/
def newline (level : Nat) : List Char := '\n' :: List.replicate (2 * level) ' '

mutual

/-- The text over several lines; `level` counts the documents around this one. -/
def writeLines (level : Nat) : Json → List Char
  | .arr [] => ['[', ']']
  | .arr items => '[' :: writeItemLines (level + 1) items ++ newline level ++ [']']
  | .obj [] => ['{', '}']
  | .obj fields => '{' :: writeFieldLines (level + 1) fields ++ newline level ++ ['}']
  | .null => ['n', 'u', 'l', 'l']
  | .bool true => ['t', 'r', 'u', 'e']
  | .bool false => ['f', 'a', 'l', 's', 'e']
  | .int value => Decimal.write value
  | .float value => value.write
  | .str value => quote value.toList

def writeItemLines (level : Nat) : List Json → List Char
  | [] => []
  | [item] => newline level ++ item.writeLines level
  | item :: rest => newline level ++ item.writeLines level ++ ',' :: writeItemLines level rest

def writeFieldLines (level : Nat) : List (String × Json) → List Char
  | [] => []
  | [(key, value)] => newline level ++ quote key.toList ++ [':', ' '] ++ value.writeLines level
  | (key, value) :: rest =>
    newline level ++ quote key.toList ++ [':', ' '] ++ value.writeLines level ++
      ',' :: writeFieldLines level rest

end

def compact (document : Json) : String := String.ofList document.write

def pretty (document : Json) : String := String.ofList (document.writeLines 0)

end RecordGraph.Json
