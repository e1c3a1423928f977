/-!
# White space, trimming and lines

Text is read as a list of characters. `isBlank` is the Unicode property White_Space; trimming and
the test for blank text are stated through it.
-/

namespace TestForge.Text

/-- The Unicode property White_Space: U+00A0, U+0085 and U+3000 have it, U+200B and U+FEFF do not. -/
def isBlank (c : Char) : Bool :=
  let n := c.toNat
  n == 0x20 || (0x09 ≤ n && n ≤ 0x0D) || n == 0x85 || n == 0xA0 || n == 0x1680 ||
    (0x2000 ≤ n && n ≤ 0x200A) || n == 0x2028 || n == 0x2029 || n == 0x202F || n == 0x205F ||
    n == 0x3000

/-! ## Trimming -/

def trimStart (s : List Char) : List Char :=
  s.dropWhile isBlank

def trimEnd (s : List Char) : List Char :=
  (s.reverse.dropWhile isBlank).reverse

def trim (s : List Char) : List Char :=
  trimEnd (trimStart s)

/-- Text that holds nothing but white space. -/
def isAllBlank (s : List Char) : Bool :=
  s.all isBlank

/-! ## Lines -/

/-- Cuts at every line feed; the text after the last one is the last piece, even if empty. -/
def cutLines : List Char → List Char × List (List Char)
  | [] => ([], [])
  | c :: cs =>
    let (line, later) := cutLines cs
    if c = '\n' then ([], line :: later) else (c :: line, later)

/-- A line without the carriage return that stood before its line feed. -/
def dropReturn (line : List Char) : List Char :=
  if line.getLast? = some '\r' then line.dropLast else line

/--
The lines of a text. A line ends at a line feed, which takes one carriage return before it along;
text after the last line feed is a line of its own, and no line follows a final line feed.
-/
def lines (s : List Char) : List (List Char) :=
  let (first, later) := cutLines s
  let all := first :: later
  let ended := all.dropLast.map dropReturn
  match all.getLast? with
  | some [] => ended
  | some last => ended ++ [last]
  | none => ended

end TestForge.Text
