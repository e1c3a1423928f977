/-!
# Trees of files

A tree assigns entries to locations, which are lists of names from its root. The root is always a
directory, and what lies at a location lies in the directory before its last name.
-/

namespace TestForge

abbrev Location := List String

inductive Entry where
  | file (content : ByteArray) (executable : Bool)
  | directory
  | link (target : String)

namespace Entry

/-- Files are equal if their bytes are and both or neither can be executed. -/
def same : Entry → Entry → Bool
  | .file ⟨a⟩ x, .file ⟨b⟩ y => a.toList == b.toList && x == y
  | .directory, .directory => true
  | .link s, .link t => s == t
  | _, _ => false

theorem same_iff (a b : Entry) : a.same b = true ↔ a = b := by
  cases a with
  | file a x => obtain ⟨a⟩ := a; cases b with
    | file b y => obtain ⟨b⟩ := b; simp [same]
    | _ => simp [same]
  | directory => cases b <;> simp [same]
  | link s => cases b <;> simp [same]

instance : DecidableEq Entry := fun a b => decidable_of_iff _ (same_iff a b)

end Entry

structure FileSystem where
  entries : List (Location × Entry)
  workingDirectory : Location
  deriving DecidableEq

namespace FileSystem

/-! ## Entries -/

def find? (place : Location) : List (Location × Entry) → Option Entry
  | [] => none
  | (key, e) :: rest => if key = place then some e else find? place rest

/-- What lies at a location. -/
def get? (fs : FileSystem) (place : Location) : Option Entry :=
  if place = [] then some .directory else find? place fs.entries

def setEntry (place : Location) (e : Entry) : List (Location × Entry) → List (Location × Entry)
  | [] => [(place, e)]
  | (key, old) :: rest =>
    if key = place then (place, e) :: rest else (key, old) :: setEntry place e rest

/-- Puts an entry at a location, in place of what lay there. -/
def put (fs : FileSystem) (place : Location) (e : Entry) : FileSystem :=
  { fs with entries := setEntry place e fs.entries }

def remove (fs : FileSystem) (place : Location) : FileSystem :=
  { fs with entries := fs.entries.filter fun entry => entry.1 ≠ place }

/-! ## Laws -/

theorem find?_setEntry (place other : Location) (e : Entry) (entries : List (Location × Entry)) :
    find? other (setEntry place e entries) = if place = other then some e else find? other entries := by
  induction entries with
  | nil => simp [setEntry, find?]
  | cons head rest ih =>
    obtain ⟨key, old⟩ := head
    by_cases h : key = place
    · subst h
      by_cases ho : key = other <;> simp [setEntry, find?, ho]
    · by_cases ho : key = other
      · subst ho
        simp [setEntry, find?, h, Ne.symm h]
      · simp [setEntry, find?, h, ho, ih]

theorem get?_put (fs : FileSystem) (place other : Location) (e : Entry) (h : place ≠ []) :
    (fs.put place e).get? other = if place = other then some e else fs.get? other := by
  by_cases ho : other = []
  · subst ho
    simp [get?, h]
  · simp [get?, put, ho, find?_setEntry]

/-! ## Views -/

/-- The file at a location. -/
def content? (fs : FileSystem) (place : Location) : Option ByteArray :=
  match fs.get? place with
  | some (.file content _) => some content
  | _ => none

/-- The names that lead from one location to another below it. -/
def below? : Location → Location → Option (List String)
  | [], place => some place
  | _ :: _, [] => none
  | b :: base, p :: place => if b = p then below? base place else none

/-- The entries below a location, by the names that lead to them. -/
def below (fs : FileSystem) (base : Location) : List (List String × Entry) :=
  fs.entries.filterMap fun (place, e) =>
    match below? base place with
    | some (name :: names) => some (name :: names, e)
    | _ => none

/-- The regular files below a location. -/
def filesBelow (fs : FileSystem) (base : Location) : List (List String × ByteArray) :=
  (fs.below base).filterMap fun (names, e) =>
    match e with
    | .file content _ => some (names, content)
    | _ => none

end FileSystem

end TestForge
