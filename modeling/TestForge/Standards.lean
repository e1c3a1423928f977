import TestForge.FileSystem.Operations

/-!
# Testing standards

Two documents in a directory. Each is read when it is first asked for and kept from then on; one
that cannot be read is empty.
-/

namespace TestForge

inductive StandardsDocument where
  | testStandards
  | validationLoop
  deriving DecidableEq

def StandardsDocument.fileName : StandardsDocument → String
  | .testStandards => "TEST_STANDARDS.md"
  | .validationLoop => "VALIDATION_LOOP.md"

/-- The documents of a directory, as far as they have been read. -/
structure Standards where
  directory : String
  testStandards : Option String
  validationLoop : Option String
  deriving DecidableEq

namespace Standards

def ofDirectory (directory : String) : Standards :=
  ⟨directory, none, none⟩

def kept? (s : Standards) : StandardsDocument → Option String
  | .testStandards => s.testStandards
  | .validationLoop => s.validationLoop

def keep (s : Standards) (d : StandardsDocument) (text : String) : Standards :=
  match d with
  | .testStandards => { s with testStandards := some text }
  | .validationLoop => { s with validationLoop := some text }

/-- What the file of a document holds, or nothing. -/
def load (s : Standards) (fs : FileSystem) (d : StandardsDocument) : String :=
  match fs.readText (Path.join s.directory d.fileName) with
  | .ok text => text
  | .error _ => ""

/-- The text of a document, which is kept. -/
def read (s : Standards) (fs : FileSystem) (d : StandardsDocument) : String × Standards :=
  match s.kept? d with
  | some text => (text, s)
  | none =>
    let text := s.load fs d
    (text, s.keep d text)

end Standards

end TestForge
