import TestForge.FileSystem.Resolution

/-!
# File operations

Reading, writing and creating by path name, with the errors an operating system gives. An operation
that fails leaves every file as it was.
-/

namespace TestForge.FileSystem

/-! ## Looking -/

/-- The entry a path names, links followed. -/
def status (fs : FileSystem) (path : String) : Except FileError Entry :=
  match fs.resolve path true with
  | .error e => .error e
  | .ok place =>
    match fs.get? place with
    | some entry => .ok entry
    | none => .error .notFound

/-- The location of what a path names, free of links. -/
def canonical (fs : FileSystem) (path : String) : Except FileError Location :=
  match fs.resolve path true with
  | .error e => .error e
  | .ok place => if (fs.get? place).isSome then .ok place else .error .notFound

def isDirectory (fs : FileSystem) (path : String) : Bool :=
  match fs.status path with
  | .ok .directory => true
  | _ => false

def exists? (fs : FileSystem) (path : String) : Bool :=
  match fs.status path with
  | .ok _ => true
  | .error _ => false

/-! ## Reading -/

def readBytes (fs : FileSystem) (path : String) : Except FileError ByteArray :=
  match fs.status path with
  | .error e => .error e
  | .ok (.file content _) => .ok content
  | .ok _ => .error .isDirectory

def readText (fs : FileSystem) (path : String) : Except FileError String :=
  match fs.readBytes path with
  | .error e => .error e
  | .ok content =>
    match String.fromUTF8? content with
    | some text => .ok text
    | none => .error .notText

/-! ## Writing -/

/-- Whether a path says by a slash at its end that it names a directory. -/
def endsInSlash (path : String) : Bool :=
  path.toList.getLast? == some '/'

def dropSlashes (path : String) : String :=
  String.ofList (path.toList.reverse.dropWhile (· == '/')).reverse

/-- Where a file that is written goes: a path that can only name a directory has no place. -/
def writePlace (fs : FileSystem) (path : String) : Except FileError Location :=
  if endsInSlash path then
    match checkPath path with
    | .error e => .error e
    | .ok () =>
      match fs.walk true maxLinks (fs.start path) (pieces (dropSlashes path)).dropLast with
      | .error e => .error e
      | .ok place =>
        match fs.requireDirectory place with
        | .error e => .error e
        | .ok () => .error .isDirectory
  else fs.resolve path true

/-- Writes a file, new or in place of the old content. -/
def writeBytes (fs : FileSystem) (path : String) (content : ByteArray) :
    Except FileError FileSystem :=
  match fs.writePlace path with
  | .error e => .error e
  | .ok place =>
    match fs.get? place with
    | some (.file _ executable) => .ok (fs.put place (.file content executable))
    | some _ => .error .isDirectory
    | none => .ok (fs.put place (.file content false))

def writeText (fs : FileSystem) (path text : String) : Except FileError FileSystem :=
  fs.writeBytes path text.toUTF8

/-- Removes a file or a link. -/
def removeFile (fs : FileSystem) (path : String) : Except FileError FileSystem :=
  match fs.resolve path false with
  | .error e => .error e
  | .ok place =>
    match fs.get? place with
    | none => .error .notFound
    | some .directory => .error .isDirectory
    | some _ => .ok (fs.remove place)

/-! ## Creating directories -/

def createDirectory (fs : FileSystem) (path : String) : Except FileError FileSystem :=
  let bare := dropSlashes path
  match fs.resolve (if bare.isEmpty then path else bare) false with
  | .error e => .error e
  | .ok place =>
    match fs.get? place with
    | some _ => .error .exists
    | none => .ok (fs.put place .directory)

/-- A path and those above it, nearest first. -/
def lineage : Nat → String → List String
  | 0, path => [path]
  | fuel + 1, path =>
    match Path.parent? path with
    | some up => path :: lineage fuel up
    | none => [path]

/--
Creates the first of the paths, and before it those above that are missing. What was created stays
if a later one cannot be. The empty path is there already.
-/
def createLineage (fs : FileSystem) : List String → Except FileError Unit × FileSystem
  | [] => (.error .noTree, fs)
  | path :: above =>
    if path.isEmpty then (.ok (), fs)
    else
      match fs.createDirectory path with
      | .ok made => (.ok (), made)
      | .error .notFound =>
        match fs.createLineage above with
        | (.error e, made) => (.error e, made)
        | (.ok (), made) =>
          match made.createDirectory path with
          | .ok whole => (.ok (), whole)
          | .error e => (if made.isDirectory path then .ok () else .error e, made)
      | .error e => (if fs.isDirectory path then .ok () else .error e, fs)

/-- Creates a directory and all those above it. -/
def createDirectories (fs : FileSystem) (path : String) : Except FileError Unit × FileSystem :=
  fs.createLineage (lineage path.length path)

end TestForge.FileSystem
