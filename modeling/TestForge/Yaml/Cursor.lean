/-!
# Places in a YAML stream

The text that is left, with the line and column of its first character. A line ends at a line feed,
a carriage return, both together, or one of the three line separators of Unicode.
-/

namespace TestForge.Yaml

/-! ## Characters -/

def isBlank (c : Char) : Bool :=
  c == ' ' || c == '\t'

def isBreak (c : Char) : Bool :=
  c == '\n' || c == '\r' || c.toNat == 0x85 || c.toNat == 0x2028 || c.toNat == 0x2029

/-- Characters of names of anchors, handles and directives. -/
def isNameChar (c : Char) : Bool :=
  c.isAlphanum || c == '_' || c == '-'

def byteOrderMark : Char := Char.ofNat 0xFEFF

/-- Control characters and code points that are none have no place in a stream. -/
def isAllowed (c : Char) : Bool :=
  let n := c.toNat
  n == 0x9 || n == 0xA || n == 0xD || (0x20 ≤ n && n ≤ 0x7E) || n == 0x85 ||
    (0xA0 ≤ n && n ≤ 0xFFFD) || 0x10000 ≤ n

structure Cursor where
  rest : List Char
  index : Nat
  line : Nat
  column : Nat
  deriving DecidableEq

namespace Cursor

def start (s : List Char) : Cursor :=
  ⟨s, 0, 0, 0⟩

/-! ## Looking ahead -/

def at? (c : Cursor) (n : Nat) : Option Char :=
  c.rest[n]?

def is (c : Cursor) (x : Char) : Bool :=
  c.rest.head? == some x

def atBlank (c : Cursor) : Bool :=
  c.rest.head?.any isBlank

def atBreak (c : Cursor) : Bool :=
  c.rest.head?.any isBreak

/-- Whether a blank, a line break or the end lies so many characters ahead. -/
def spaceAt (c : Cursor) (n : Nat) : Bool :=
  (c.at? n).all fun x => isBlank x || isBreak x

/-- Whether the line begins with three such characters and nothing behind them. -/
def atMarker (c : Cursor) (x : Char) : Bool :=
  c.column == 0 && c.rest.take 3 == [x, x, x] && c.spaceAt 3

/-- Whether a marker of the start or end of a document stands here. -/
def atDocumentMarker (c : Cursor) : Bool :=
  c.atMarker '-' || c.atMarker '.'

/-! ## Moving -/

/-- Passes characters that end no line. -/
def skip (c : Cursor) (n : Nat) : Cursor :=
  ⟨c.rest.drop n, c.index + n, c.line, c.column + n⟩

def skipWhile (c : Cursor) (p : Char → Bool) : Cursor :=
  c.skip (c.rest.takeWhile p).length

/-- Passes the end of a line, and says what it counts as in a text. -/
def lineBreak? (c : Cursor) : Option (Char × Cursor) :=
  match c.rest with
  | '\r' :: '\n' :: rest => some ('\n', ⟨rest, c.index + 2, c.line + 1, 0⟩)
  | b :: rest =>
    if isBreak b then
      let shown := if b.toNat == 0x2028 || b.toNat == 0x2029 then b else '\n'
      some (shown, ⟨rest, c.index + 1, c.line + 1, 0⟩)
    else none
  | [] => none

/-- Passes the rest of a line without its end. -/
def skipLineText (c : Cursor) : Cursor :=
  c.skipWhile (!isBreak ·)

end Cursor

end TestForge.Yaml
