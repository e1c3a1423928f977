import TestForge.FileSystem.Error
import TestForge.FileSystem.Tree
import TestForge.Path

/-!
# From path names to locations

A relative path starts at the working directory. Links are followed on the way, at most forty of
them; a link at the very end is followed on demand. The last name need not exist.
-/

namespace TestForge.FileSystem

/-! ## Limits -/

def maxLinks : Nat := 40

def maxNameBytes : Nat := 255

def maxPathBytes : Nat := 4095

/-! ## Walking -/

/-- The pieces of a path between its slashes. -/
def pieces (path : String) : List String :=
  (Text.splitAtChar '/' path.toList).map String.ofList

/-- What keeps a location from being walked through. -/
def requireDirectory (fs : FileSystem) (place : Location) : Except FileError Unit :=
  match fs.get? place with
  | some .directory => .ok ()
  | some _ => .error .notDirectory
  | none => .error .notFound

/-- Where the target of a link starts. -/
def linkStart (here : Location) (target : String) : Location :=
  if Path.isAbsolute target.toList then [] else here

/-- Walks along the pieces of a path, with a number of links that may still be followed. -/
def walk (fs : FileSystem) (followLast : Bool) (links : Nat) (here : Location) :
    List String → Except FileError Location
  | [] => .ok here
  | piece :: rest =>
    match fs.requireDirectory here with
    | .error e => .error e
    | .ok () =>
      if piece = "" ∨ piece = "." then fs.walk followLast links here rest
      else if piece = ".." then fs.walk followLast links here.dropLast rest
      else if piece.utf8ByteSize > maxNameBytes then .error .nameTooLong
      else
        match fs.get? (here ++ [piece]) with
        | some (.link target) =>
          if rest.isEmpty && !followLast then .ok (here ++ [piece])
          else
            match links with
            | 0 => .error .tooManyLinks
            | links + 1 =>
              fs.walk followLast links (linkStart here target) (pieces target ++ rest)
        | _ => fs.walk followLast links (here ++ [piece]) rest
  termination_by pieces => (links, pieces.length)

/-- Where a path begins. -/
def start (fs : FileSystem) (path : String) : Location :=
  if Path.isAbsolute path.toList then [] else fs.workingDirectory

/-- Whether a path can be looked up at all. -/
def checkPath (path : String) : Except FileError Unit :=
  if path.toList.contains (Char.ofNat 0) then .error .nulInPath
  else if path.isEmpty then .error .notFound
  else if path.utf8ByteSize > maxPathBytes then .error .nameTooLong
  else .ok ()

/-- The location a path names; its last name need not exist. -/
def resolve (fs : FileSystem) (path : String) (followLast : Bool) : Except FileError Location :=
  match checkPath path with
  | .error e => .error e
  | .ok () => fs.walk followLast maxLinks (fs.start path) (pieces path)

end TestForge.FileSystem
