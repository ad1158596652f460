import RecordGraph.Files.Path
import RecordGraph.Store.Basic

/-!
# Files and directories

A tree tells what stands at each place.  Directories come into being on the way to a file; what
stands at a place already is never taken away.
-/

namespace RecordGraph

/-- What stands at a place. -/
inductive FileEntry where
  | directory
  | text (content : String)
  | store (store : Store)
deriving DecidableEq, Repr, Inhabited

structure FileTree where
  /-- A directory that is there from the start, as are those around it. -/
  base : Place := []
  /-- Everything else, the newest first. -/
  entries : List (Place × FileEntry) := []
deriving Repr, Inhabited

/-- Why a directory cannot be made. -/
inductive DirectoryFault where
  /-- Something that is no directory stands there. -/
  | fileExists
  /-- Something that is no directory stands on the way. -/
  | notDirectory
  | nameTooLong
  /-- The path holds the character that ends a path. -/
  | nulInPath
deriving DecidableEq, Repr, Inhabited

namespace DirectoryFault

def message : DirectoryFault → String
  | fileExists => "File exists (os error 17)"
  | notDirectory => "Not a directory (os error 20)"
  | nameTooLong => "File name too long (os error 36)"
  | nulInPath => "file name contained an unexpected NUL byte"

end DirectoryFault

namespace FileTree

def find? (tree : FileTree) (place : Place) : Option FileEntry :=
  if place.isPrefixOf tree.base then some .directory else tree.entries.lookup place

def put (tree : FileTree) (place : Place) (entry : FileEntry) : FileTree :=
  { tree with entries := (place, entry) :: tree.entries.filter (fun kept => kept.1 != place) }

theorem lookup_filter_ne {place other : Place} (h : other ≠ place)
    (entries : List (Place × FileEntry)) :
    (entries.filter (fun kept => kept.1 != place)).lookup other = entries.lookup other := by
  induction entries with
  | nil => rfl
  | cons head tail ih =>
    obtain ⟨kept, entry⟩ := head
    by_cases hkept : kept = place
    · have hother : (other == kept) = false := by simp [hkept, h]
      rw [List.lookup_cons, hother, ← ih]
      simp [hkept]
    · rw [List.lookup_cons, ← ih]
      simp [hkept, List.lookup_cons]

/-- A new entry changes nothing elsewhere. -/
theorem find?_put_of_ne (tree : FileTree) (entry : FileEntry) {place other : Place}
    (h : other ≠ place) : (tree.put place entry).find? other = tree.find? other := by
  have hother : (other == place) = false := by simp [h]
  simp [find?, put, List.lookup_cons, hother, lookup_filter_ne h]

/-- A new entry stands at its place, unless that is a directory from the start. -/
theorem find?_put_self (tree : FileTree) (entry : FileEntry) {place : Place}
    (h : place.isPrefixOf tree.base = false) : (tree.put place entry).find? place = some entry := by
  simp [find?, put, h]

def isDirectory (tree : FileTree) (place : Place) : Bool :=
  match tree.find? place with
  | some .directory => true
  | _ => false

/-- The longest name of a file or directory, in bytes. -/
def maxName : Nat := 255

/-- The longest path to a directory, in bytes. -/
def maxPath : Nat := 4095

/-- Make the directories on a way that are missing, from the directory named by `names`.  A file
that ends the way or that is met after a directory was made stands in the place of a directory; one
that is met earlier stands in the way of the rest. -/
def makeOnWay (tree : FileTree) (made : Bool) (names : List String) :
    List (List Char) → Option DirectoryFault × FileTree
  | [] => (none, tree)
  | part :: rest =>
    let names := Path.follow names part
    match tree.find? names.reverse with
    | some .directory => tree.makeOnWay made names rest
    | some _ => (some (if made || rest.isEmpty then .fileExists else .notDirectory), tree)
    | none =>
      if (String.ofList part).utf8ByteSize ≤ maxName then
        (tree.put names.reverse .directory).makeOnWay true names rest
      else (some .nameTooLong, tree)

/-- Make the directory that a path of these parts leads to, and those around it. -/
def makeDirectories (tree : FileTree) (parts : List (List Char)) :
    Option DirectoryFault × FileTree :=
  if parts.any (fun part => part.contains (Char.ofNat 0)) then (some .nulInPath, tree)
  else if maxPath < (Path.ofParts parts).utf8ByteSize then (some .nameTooLong, tree)
  else tree.makeOnWay false [] parts

end FileTree

end RecordGraph
