import Std.Time.DateTime.Timestamp
import WorkloadIdentity.Command.Run

/-!
# The program

The files that a command may touch are read before it runs, and what it changed is written
afterwards; everything in between is a value.
-/

namespace WorkloadIdentity
namespace Main

/-- What stands at a path. -/
def nodeAt (path : String) : IO (Option FileNode) := do
  try
    let content ← IO.FS.readBinFile path
    return some (.file content.toList FileTree.defaultMode)
  catch fault =>
    match fault with
    | .noFileOrDirectory .. => return none
    | .inappropriateType .. => return some .directory
    | _ => throw fault

/-- The tree with what stands at a place and in the directories that its path leads through. -/
def observe (files : FileTree) (place : Place) : IO FileTree := do
  let mut files := files
  for names in place.through ++ [place.names] do
    if (files.node? names).isNone ∧ files.node? names.dropLast = some .directory then
      if let some node ← nodeAt (Place.pathTo names) then
        files := files.put names node
  return files

/-- The rights that stand for a file's mode: those of the owner, and with the usual mode those of
everybody to read. -/
def rightsOf (mode : Nat) : IO.FileRight :=
  let others : IO.AccessRight := ⟨mode = FileTree.defaultMode, false, false⟩
  ⟨⟨true, true, false⟩, others, others⟩

/-- A file is written beside its place and then moved there. -/
def writeFile (names : List String) (content : Bytes) (mode : Nat) : IO Unit := do
  let path := Place.pathTo names
  let staging := path ++ ".new"
  IO.FS.writeBinFile staging content.toByteArray
  IO.setAccessRights staging (rightsOf mode)
  IO.FS.rename staging path

/-- The changes from one tree to another are made. -/
def apply (before after : FileTree) : IO Unit := do
  for (names, node) in after.entries do
    if before.entries.lookup names ≠ some node then
      match node with
      | .directory => IO.FS.createDirAll (Place.pathTo names)
      | .file content mode => writeFile names content mode
  for (names, _) in before.entries do
    if (after.entries.lookup names).isNone then
      IO.FS.removeFile (Place.pathTo names)

def environment : IO (List (String × String)) := do
  let content ← IO.FS.readBinFile "/proc/self/environ"
  let parts := ((Lossy.text content.toList).splitOn "\x00").filter (· ≠ "")
  return parts.map fun part =>
    let name := part.toList.takeWhile (· ≠ '=')
    (String.ofList name, String.ofList (part.toList.drop (name.length + 1)))

/-- The time, in seconds since 1970. -/
def now : IO UInt64 := do
  let time ← Std.Time.Timestamp.now
  return UInt64.ofNat time.toSecondsSinceUnixEpoch.val.toNat

def entropy : IO Entropy := do
  return Entropy.ofSeed (← IO.getRandomBytes 64).toList

/-- The places that the settings name. -/
def placesOf (settings : Settings) : List Place :=
  let paths := [settings.credentialsFile, settings.masterKeyFile].filterMap Place.ofPath?
  paths ++ paths.map (Place.withExtension StoreFile.stagingExtension)

/-- The files that an invocation may touch. -/
def filesOf (found : List (String × String)) (invocation : Invocation) : IO FileTree := do
  let files ← (Settings.candidates invocation.config).foldlM observe FileTree.empty
  match Settings.load files found invocation.config with
  | .error _ => return files
  | .ok settings => (placesOf settings).foldlM observe files

/-- What a report says is printed; the result is the exit code. -/
def finish (report : Report) : IO UInt32 := do
  IO.print report.output
  match report.ending with
  | .done => return 0
  | .failed fault =>
      IO.eprint fault.report
      return 1
  | .serving address =>
      IO.eprint (CommandFault.address address).report
      return 1

/-- An invocation is run. -/
def perform (invocation : Invocation) : IO UInt32 := do
  let found ← environment
  let files ← filesOf found invocation
  let around : Surroundings := ⟨files, found, ← now⟩
  let (report, _) := (Command.runInvocation around invocation).run (← entropy)
  apply files report.files
  finish report

def run (arguments : List String) : IO UInt32 :=
  match Command.read arguments with
  | .ok invocation => perform invocation
  | .error .usage => do
      IO.eprint Command.helpText
      return 2
  | .error .help => do
      IO.print Command.helpText
      return 0
  | .error .version => do
      IO.print Command.versionText
      return 0

end Main
end WorkloadIdentity

/-- Runs the command that the arguments spell. -/
def main (arguments : List String) : IO UInt32 :=
  WorkloadIdentity.Main.run arguments
