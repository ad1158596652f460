import RecordGraph.Files.Tree
import RecordGraph.Text.Decimal

/-!
# Files that hold stores

A store is opened by its path.  The directories on the way are made, and where nothing stands a new
store begins.  While a store is written other files stand beside it, whose names are longer by an
ending; these names and the whole path have to be short enough, and no directory may bear them.
-/

namespace RecordGraph

/-- Why a store cannot be opened. -/
inductive StoreFault where
  | noDirectory (directory : String) (fault : DirectoryFault)
  | nulInPath (path : String)
  /-- The path is too long or leads to a directory. -/
  | notOpened (path : String)
  | notDatabase
  /-- The log beside the store cannot be cleared away. -/
  | logInWay
  /-- The journal beside the store cannot be written. -/
  | noJournal
deriving DecidableEq, Repr, Inhabited

namespace StoreFault

/-- The bytes before the first character that ends a path. -/
def nulPosition (path : String) : Nat :=
  (String.ofList (path.toList.takeWhile (· != Char.ofNat 0))).utf8ByteSize

/-- What was being done, and what went wrong. -/
def context : StoreFault → String
  | noDirectory directory _ => "create store directory " ++ directory
  | nulInPath path => "open store " ++ path
  | notOpened path => "open store " ++ path
  | notDatabase => "configure sqlite pragmas"
  | logInWay => "configure sqlite pragmas"
  | noJournal => "configure sqlite pragmas"

/-- The words for what went wrong. -/
def cause : StoreFault → String
  | noDirectory _ fault => fault.message
  | nulInPath path =>
    let found := "nul byte found in provided data at position: " ++
      Decimal.text (nulPosition path)
    found ++ ": " ++ found
  | notOpened path =>
    "unable to open database file: " ++ path ++ ": Error code 14: Unable to open the database file"
  | notDatabase =>
    "file is not a database: Error code 26: File opened that is not a database file"
  | logInWay => "disk I/O error: Error code 2570: I/O error within xDelete of a VFS object"
  | noJournal =>
    "unable to open database file: Error code 14: Unable to open the database file"

end StoreFault

namespace FileTree

/-- The ending of the journal's name, the longest ending there is. -/
def journalEnding : String := "-journal"

def logEnding : String := "-wal"

/-- The longest path to a store and to the files beside it, in bytes. -/
def maxStorePath : Nat := 512

/-- Whether a path is short enough all the way, and at its end leaves room for the files beside. -/
def fitsStore (path : String) : Bool :=
  (Path.placesOnWay path).all (fun place => Path.byteLength place < maxStorePath) &&
    Path.byteLength (Path.place path) + journalEnding.utf8ByteSize ≤ maxStorePath

/-- The name that a place ends with. -/
def nameOf (place : Place) : String := place.getLast?.getD ""

/-- The place beside a file whose name has an ending more. -/
def beside (place : Place) (ending : String) : Place := place.dropLast ++ [nameOf place ++ ending]

/-- Begin a store where nothing is written yet. -/
def beginStore (tree : FileTree) (place : Place) : Except StoreFault Store × FileTree :=
  if tree.isDirectory (beside place logEnding) then (.error .logInWay, tree.put place (.text ""))
  else if tree.isDirectory (beside place journalEnding) ||
      maxName < (nameOf place ++ journalEnding).utf8ByteSize then
    (.error .noJournal, tree.put place (.text ""))
  else (.ok {}, tree.put place (.store {}))

/-- Open the file at the end of a path, the directory being there. -/
def openFile (tree : FileTree) (path : String) : Except StoreFault Store × FileTree :=
  let place := Path.place path
  match tree.find? place with
  | some .directory => (.error (.notOpened path), tree)
  | some (.store store) => (.ok store, tree)
  | some (.text content) =>
    if content.isEmpty then tree.beginStore place else (.error .notDatabase, tree)
  | none =>
    if (nameOf place).utf8ByteSize ≤ maxName then tree.beginStore place
    else (.error (.notOpened path), tree)

/-- Open the store at a path.  The directories that were made on the way stay, whatever happens. -/
def openStore (tree : FileTree) (path : String) : Except StoreFault Store × FileTree :=
  let directory := Path.directoryParts path
  match tree.makeDirectories directory with
  | (some fault, after) => (.error (.noDirectory (Path.ofParts directory) fault), after)
  | (none, after) =>
    if path.toList.contains (Char.ofNat 0) then (.error (.nulInPath path), after)
    else if fitsStore path then after.openFile path
    else (.error (.notOpened path), after)

/-- The store kept at a path. -/
def store? (tree : FileTree) (path : String) : Option Store :=
  match tree.find? (Path.place path) with
  | some (.store store) => some store
  | _ => none

def keepStore (tree : FileTree) (path : String) (store : Store) : FileTree :=
  tree.put (Path.place path) (.store store)

end FileTree

end RecordGraph
