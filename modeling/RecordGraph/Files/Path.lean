/-!
# Paths and places

A path is a text of parts between slashes.  It leads to a place, which is named by the way there
from the top directory.  Two paths that lead to one place name one file.
-/

namespace RecordGraph

/-- The names on the way from the top directory to a place. -/
abbrev Place := List String

/-- A path below a directory; an absolute path stands for itself. -/
def joinPath (directory path : String) : String :=
  if path.toList.head? = some '/' then path
  else if directory.toList.getLast? = some '/' then directory ++ path
  else directory ++ "/" ++ path

namespace Path

/-- The parts of a path between its slashes. -/
def parts : List Char → List (List Char)
  | [] => [[]]
  | '/' :: rest => [] :: parts rest
  | c :: rest =>
    match parts rest with
    | [] => [[c]]
    | part :: parts => (c :: part) :: parts

/-- Whether a part leads no further. -/
def isIdle (part : List Char) : Bool := part == [] || part == ['.']

/-- Whether a part leads back to the directory around. -/
def leadsBack (part : List Char) : Bool := part == ['.', '.']

/-- Follow one part of a path; `names` are those passed so far, the last one first. -/
def follow (names : List String) (part : List Char) : List String :=
  if isIdle part then names
  else if leadsBack part then names.tail
  else String.ofList part :: names

/-- What the parts of a path pass after `names`, its end last. -/
def passed (names : List String) : List (List Char) → List (List String)
  | [] => []
  | part :: rest => follow names part :: passed (follow names part) rest

/-- The places on the way of a path, its end last. -/
def placesOnWay (path : String) : List Place := (passed [] (parts path.toList)).map List.reverse

/-- The place that a path leads to. -/
def place (path : String) : Place := ((parts path.toList).foldl follow []).reverse

/-- The parts up to the last one that leads further. -/
def trimIdle (parts : List (List Char)) : List (List Char) :=
  (parts.reverse.dropWhile isIdle).reverse

/-- The directory part of a path: what stands before the last part that leads further. -/
def directoryParts (path : String) : List (List Char) :=
  trimIdle (trimIdle (parts path.toList)).dropLast

def ofParts (parts : List (List Char)) : String := "/".intercalate (parts.map String.ofList)

/-- The bytes of a place written as an absolute path. -/
def byteLength (place : Place) : Nat :=
  place.foldl (fun length name => length + 1 + name.utf8ByteSize) 0

end Path

end RecordGraph
