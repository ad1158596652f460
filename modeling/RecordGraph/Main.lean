import RecordGraph.Command.Run
import RecordGraph.Document.Archive
import Std.Time.DateTime.Timestamp

/-!
# The command line

Reads the files around the working directory, runs the command line on them and writes back what it
changed.
-/

namespace RecordGraph

/-- The directory that holds the user's configurations. -/
def userConfigDirectory : IO String := do
  match ← IO.getEnv "XDG_CONFIG_HOME" with
  | some directory => if directory.startsWith "/" then return directory else homeDirectory
  | none => homeDirectory
where
  homeDirectory : IO String := do
    return joinPath ((← IO.getEnv "HOME").getD "/") ".config"

/-- A place as an absolute path. -/
def pathOf (place : Place) : String := "/" ++ "/".intercalate place

/-- What stands at a place. -/
def readEntry (place : Place) : IO (Option FileEntry) := do
  let file := (← IO.currentDir) / pathOf place
  if ← file.isDir then return some .directory
  else if ← file.pathExists then
    let text ← IO.FS.readFile file
    match Store.ofArchive? text with
    | some store => return some (.store store)
    | none => return some (.text text)
  else return none

/-- Take in what stands at some places. -/
def look (workspace : Workspace) (places : List Place) : IO Workspace := do
  let mut files := workspace.files
  for place in places do
    if (files.find? place).isNone then
      if let some entry ← readEntry place then
        files := files.put place entry
  return { workspace with files }

/-- The files where a run may look for a store: that of the project as it is, and that of a project
that follows the template. -/
def storePaths (workspace : Workspace) : List String :=
  let template := ({} : ProjectConfig).storePath workspace.root
  match workspace.projectConfiguration with
  | .ok config => [config.storePath workspace.root, template]
  | .error _ => [template]

/-- What a run finds in the working directory. -/
def readWorkspace : IO Workspace := do
  let root := (← IO.currentDir).toString
  let userConfigPath := joinPath (← userConfigDirectory) "relgraph/config.toml"
  let bare := Workspace.ofConfigs root userConfigPath none none
  let configured ← look bare
    ([bare.configPath, bare.ignorePath, userConfigPath].flatMap Path.placesOnWay)
  look configured ((storePaths configured).flatMap Path.placesOnWay)

/-- Put an entry where it belongs. -/
def writeEntry (place : Place) (entry : FileEntry) : IO Unit :=
  match entry with
  | .directory => IO.FS.createDirAll (pathOf place)
  | .text content => IO.FS.writeFile (pathOf place) content
  | .store store => IO.FS.writeFile (pathOf place) store.archive

/-- Write what a run has changed, the oldest first. -/
def writeWorkspace (before after : Workspace) : IO Unit := do
  for (place, entry) in after.files.entries.reverse do
    if before.files.find? place != some entry then
      writeEntry place entry

/-- The time in microseconds. -/
def currentMicros : IO Int := do
  let moment ← Std.Time.Timestamp.now
  return moment.toNanosecondsSinceUnixEpoch.toInt / 1000

end RecordGraph

open RecordGraph in
def main (line : List String) : IO UInt32 := do
  let workspace ← readWorkspace
  let (reply, after) := workspace.run (← IO.getEnv "FORMAT") (← currentMicros) line
  writeWorkspace workspace after
  IO.print reply.output
  IO.eprint reply.complaint
  return UInt32.ofNat reply.exitCode
