import TestForge.FileSystem.Tree
import TestForge.Framework.MarkerScan

/-!
# The disk

The tree of files below the current directory is read before the program works on it, and what has
changed is written afterwards. A file that names its interpreter counts as executable; links to
directories and the directories of tools are passed over.
-/

namespace TestForge.Disk

def passedOver : List String :=
  MarkerScan.skippedDirectories.filter (· ≠ ".testsmith")

def namesInterpreter (content : ByteArray) : Bool :=
  content.toList.take 2 == [35, 33]

def entryOf (content : ByteArray) : Entry :=
  .file content (namesInterpreter content)

/-- The entry of a name, and all that lies below it. -/
partial def below (base : Location) (e : IO.FS.DirEntry) : IO (List (Location × Entry)) := do
  let place := base ++ [e.fileName]
  let linked := (← e.path.symlinkMetadata).type == .symlink
  if ← e.path.isDir then
    if linked || passedOver.contains e.fileName then return []
    let inner ← (← e.path.readDir).toList.mapM (below place)
    return (place, .directory) :: inner.flatten
  else if ← e.path.pathExists then
    return [(place, entryOf (← IO.FS.readBinFile e.path))]
  else return []

/-- The directories on the way to a location. -/
def wayTo (place : Location) : List (Location × Entry) :=
  (List.range place.length).map fun n => (place.take (n + 1), .directory)

/-- The tree below the current directory. -/
def load : IO FileSystem := do
  let here ← IO.currentDir
  let place := (here.toString.splitOn "/").filter (· ≠ "")
  let inner ← (← here.readDir).toList.mapM (below place)
  return ⟨wayTo place ++ inner.flatten, place⟩

def pathOf (place : Location) : String :=
  "/" ++ "/".intercalate place

def saveEntry (place : Location) : Entry → IO Unit
  | .directory => IO.FS.createDirAll (pathOf place)
  | .file content _ => do
    IO.FS.createDirAll (pathOf place.dropLast)
    IO.FS.writeBinFile (pathOf place) content
  | .link _ => pure ()

/-- Writes what differs between two trees. -/
def save (old new : FileSystem) : IO Unit := do
  for (place, e) in new.entries do
    if old.get? place ≠ some e then saveEntry place e
  for (place, e) in old.entries do
    match e, new.get? place with
    | .file _ _, none => IO.FS.removeFile (pathOf place)
    | _, _ => pure ()

/-- Seconds since 1970, as a new file shows them. -/
def now : IO Nat := do
  let (_, path) ← IO.FS.createTempFile
  let seconds := (← path.metadata).modified.sec
  IO.FS.removeFile path
  return seconds.toNat

end TestForge.Disk
