import TestForge.FileSystem.Operations

/-!
# Scanning for a framework entrypoint

A project is Spring-based if some Kotlin source in it holds a marker. Build output and tool
directories are not searched, and links are not followed except at the root.
-/

namespace TestForge.MarkerScan

def skippedDirectories : List String :=
  ["build", ".gradle", ".git", ".idea", "node_modules", ".testsmith"]

/-- Whether a directory name keeps what lies below it from being searched. -/
def isSkipped (name : String) : Bool :=
  skippedDirectories.contains name

/-- Whether a scan from `base` comes past the directories of these names. -/
def reaches (fs : FileSystem) (base : Location) : List String → Bool
  | [] => true
  | name :: names =>
    fs.get? (base ++ [name]) == some .directory && !isSkipped name &&
      reaches fs (base ++ [name]) names

def holdsMarker (marker : String) (content : ByteArray) : Bool :=
  match String.fromUTF8? content with
  | some text => Text.occursIn marker.toList text.toList
  | none => false

def isKotlin (path : String) : Bool :=
  Path.extension? path.toList == some ['k', 't']

/-- Whether a path is fit to be opened: too long a path is not. -/
def canBeOpened (path : String) : Bool :=
  (FileSystem.checkPath path).toBool

/-- The path of an entry below a root. -/
def pathBelow (root : String) (names : List String) : String :=
  names.foldl Path.join root

/-- The first marked source below a directory. -/
def findBelow? (fs : FileSystem) (marker root : String) (base : Location) : Option String :=
  ((fs.filesBelow base).find? fun (names, content) =>
    reaches fs base names.dropLast && isKotlin (pathBelow root names) &&
      canBeOpened (pathBelow root names) && holdsMarker marker content).map fun found =>
    pathBelow root found.1

/-- A Kotlin source at or below the root that holds the marker. -/
def find? (fs : FileSystem) (root marker : String) : Option String :=
  match fs.resolve root false with
  | .error _ => none
  | .ok place =>
    match fs.get? place with
    | none => none
    | some (.file content _) =>
      if isKotlin root && holdsMarker marker content then some root else none
    | some .directory => findBelow? fs marker root place
    | some (.link _) =>
      match fs.canonical root with
      | .error _ => none
      | .ok target => if fs.isDirectory root then findBelow? fs marker root target else none

def hasEntrypoint (fs : FileSystem) (root marker : String) : Bool :=
  (find? fs root marker).isSome

end TestForge.MarkerScan
