import TestForge.Text.HexDigit
import TestForge.Yaml.Cursor
import TestForge.Yaml.Token

/-!
# Anchors, tags and directives

What stands in front of nodes and documents. Each function reads from the place behind the sign that
announces it and has no result if the text is malformed.
-/

namespace TestForge.Yaml

def nameRun (c : Cursor) : List Char :=
  c.rest.takeWhile isNameChar

/-! ## Anchors -/

/-- Characters that may follow the name of an anchor besides a space. -/
def endsAnchor (c : Char) : Bool :=
  ['?', ':', ',', ']', '\x7d', '%', '@', '\x60'].contains c

def anchorName (c : Cursor) : Option (String × Cursor) :=
  let name := nameRun c
  let after := c.skip name.length
  if name.isEmpty || !(after.spaceAt 0 || after.rest.head?.any endsAnchor) then none
  else some (String.ofList name, after)

/-! ## Tags -/

/-- Characters of a tag; the last three only between angle brackets and in directives. -/
def isTagChar (wide : Bool) (c : Char) : Bool :=
  isNameChar c || [';', '/', '?', ':', '@', '&', '=', '+', '$', '.', '%', '!', '~', '*', '\'', '(',
    ')'].contains c || (wide && [',', '[', ']'].contains c)

/-- The byte behind a percent sign. -/
def escapedByte? : List Char → Option Nat
  | '%' :: a :: b :: _ =>
    match Text.hexValue? a, Text.hexValue? b with
    | some a, some b => some (16 * a + b)
    | _, _ => none
  | _ => none

/-- The continuation bytes of an escaped character. -/
def escapedTail : Nat → Nat → List Char → Option Nat
  | 0, n, _ => some n
  | k + 1, n, s =>
    match escapedByte? s with
    | some b => if b / 0x40 = 2 then escapedTail k (n * 0x40 + b % 0x40) (s.drop 3) else none
    | none => none

/-- A character whose bytes are escaped, and how many bytes it has. -/
def escapedChar? (s : List Char) : Option (Char × Nat) :=
  match escapedByte? s with
  | none => none
  | some b =>
    let read (k n : Nat) := (escapedTail k n (s.drop 3)).map fun n => (Char.ofNat n, k + 1)
    if b < 0x80 then read 0 b
    else if b / 0x20 = 6 then read 1 (b % 0x20)
    else if b / 0x10 = 14 then read 2 (b % 0x10)
    else if b / 0x08 = 30 then read 3 (b % 0x08)
    else none

/-- The characters of a tag with escapes read. -/
def tagRun (wide : Bool) : Nat → Cursor → Option (List Char × Cursor)
  | 0, _ => none
  | fuel + 1, c =>
    match c.rest with
    | [] => some ([], c)
    | x :: _ =>
      if !isTagChar wide x then some ([], c)
      else if x = '%' then
        match escapedChar? c.rest with
        | some (y, bytes) => (tagRun wide fuel (c.skip (3 * bytes))).map fun (s, c) => (y :: s, c)
        | none => none
      else (tagRun wide fuel (c.skip 1)).map fun (s, c) => (x :: s, c)

/-- The text of a tag; without one in front of it, it must not be empty. -/
def tagText (wide : Bool) (before : List Char) (c : Cursor) : Option (List Char × Cursor) :=
  match tagRun wide (c.rest.length + 1) c with
  | some (s, after) => if before.isEmpty && s.isEmpty then none else some (before.drop 1 ++ s, after)
  | none => none

/-- A handle: an exclamation mark, a name, and another mark if it is there. -/
def handleHere (c : Cursor) : Option (List Char × Cursor) :=
  if !c.is '!' then none
  else
    let name := nameRun (c.skip 1)
    let after := c.skip (name.length + 1)
    if after.is '!' then some ('!' :: name ++ ['!'], after.skip 1) else some ('!' :: name, after)

def isShorthand (handle : List Char) : Bool :=
  handle.length > 1 && handle.getLast? = some '!'

/-- The two parts of a tag, from its first mark. A tag in angle brackets has no handle. -/
def tagParts (c : Cursor) : Option (Token × Cursor) :=
  let token (handle suffix : List Char) := Token.tag (String.ofList handle) (String.ofList suffix)
  if c.at? 1 = some '<' then
    match tagText true [] (c.skip 2) with
    | some (s, c) => if c.is '>' then some (token [] s, c.skip 1) else none
    | none => none
  else
    match handleHere c with
    | none => none
    | some (handle, c) =>
      if isShorthand handle then (tagText false [] c).map fun (s, c) => (token handle s, c)
      else
        match tagText false handle c with
        | some ([], c) => some (token [] ['!'], c)
        | some (s, c) => some (token ['!'] s, c)
        | none => none

/-- A tag with what must follow it. -/
def tagHere (flow : Bool) (c : Cursor) : Option (Token × Cursor) :=
  match tagParts c with
  | some (t, c) => if c.spaceAt 0 || (flow && c.is ',') then some (t, c) else none
  | none => none

/-! ## Directives -/

def versionNumber (c : Cursor) : Option (Nat × Cursor) :=
  let digits := c.rest.takeWhile Char.isDigit
  if digits.isEmpty || digits.length > 9 then none
  else some ((String.ofList digits).toNat?.getD 0, c.skip digits.length)

def versionHere (c : Cursor) : Option (Token × Cursor) :=
  match versionNumber (c.skipWhile isBlank) with
  | some (major, c) =>
    if c.is '.' then (versionNumber (c.skip 1)).map fun (minor, c) => (.version major minor, c)
    else none
  | none => none

def handleDirective (c : Cursor) : Option (Token × Cursor) :=
  match handleHere (c.skipWhile isBlank) with
  | none => none
  | some (handle, c) =>
    if handle ≠ ['!'] && !isShorthand handle then none
    else if !c.atBlank then none
    else
      match tagText true [] (c.skipWhile isBlank) with
      | some (s, c) =>
        if c.spaceAt 0 then some (.handle (String.ofList handle) (String.ofList s), c) else none
      | none => none

/-- The rest of a line, which may only be a comment. -/
def restOfLine (c : Cursor) : Option Cursor :=
  let c := c.skipWhile isBlank
  let c := if c.is '#' then c.skipLineText else c
  if c.rest.isEmpty then some c else c.lineBreak?.map (·.2)

/-- A directive behind its percent sign, with the rest of its line. -/
def directive (c : Cursor) : Option (Token × Cursor) :=
  let name := nameRun c
  let c := c.skip name.length
  if name.isEmpty || !c.spaceAt 0 then none
  else
    let parsed? :=
      if name = "YAML".toList then versionHere c
      else if name = "TAG".toList then handleDirective c
      else none
    parsed?.bind fun (t, c) => (restOfLine c).map fun c => (t, c)

end TestForge.Yaml
