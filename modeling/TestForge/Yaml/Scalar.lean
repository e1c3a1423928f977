import TestForge.Text.HexDigit
import TestForge.Yaml.Cursor

/-!
# Scalars

Plain, quoted and block scalars. Each function reads one from the place behind its first sign, folds
its lines as its style asks for, and has no result if the text is malformed.
-/

namespace TestForge.Yaml

/-! ## Gaps between words -/

/-- Blanks and line ends between two words of a scalar. -/
structure Gap where
  broken : Bool
  blanks : List Char
  first : List Char
  others : List Char

namespace Gap

def empty : Gap :=
  ⟨false, [], [], []⟩

/-- What a gap counts as: one line end is a space, more of them count less the first. -/
def text (g : Gap) : List Char :=
  if g.broken then
    if g.first.head? = some '\n' then (if g.others.isEmpty then [' '] else g.others)
    else g.first ++ g.others
  else g.blanks

/-- Reads a gap to its end. A tab before a given column must not begin a line. -/
def read (limit : Nat) : Nat → Gap → Cursor → Option (Gap × Cursor)
  | 0, _, _ => none
  | fuel + 1, g, c =>
    if c.atBlank then
      if g.broken && c.column < limit && c.is '\t' then none
      else if g.broken then read limit fuel g (c.skip 1)
      else read limit fuel { g with blanks := g.blanks ++ c.rest.take 1 } (c.skip 1)
    else
      match c.lineBreak? with
      | some (b, c) =>
        if g.broken then read limit fuel { g with others := g.others ++ [b] } c
        else read limit fuel ⟨true, [], [b], []⟩ c
      | none => some (g, c)

end Gap

/-! ## Plain scalars -/

def isFlowSign (c : Char) : Bool :=
  [',', '[', ']', '\x7b', '\x7d'].contains c

/-- The characters of a plain scalar up to a blank or a sign that ends it. -/
def plainRun (flow : Bool) : List Char → Option (List Char)
  | [] => some []
  | c :: cs =>
    if isBlank c || isBreak c then some []
    else if flow && c = ':' && cs.head?.any fun n => n = '?' || isFlowSign n then none
    else if c = ':' && cs.head?.all fun n => isBlank n || isBreak n then some []
    else if flow && isFlowSign c then some []
    else (plainRun flow cs).map (c :: ·)

/-- Reads a plain scalar, and says whether line ends follow it. -/
def plainScalar (flow : Bool) (margin : Nat) :
    Nat → List Char → Gap → Cursor → Option (List Char × Bool × Cursor)
  | 0, _, _, _ => none
  | fuel + 1, text, gap, c =>
    if c.atDocumentMarker || c.is '#' then some (text, gap.broken, c)
    else
      match plainRun flow c.rest with
      | none => none
      | some run =>
        let text := if run.isEmpty then text else text ++ gap.text ++ run
        let gap := if run.isEmpty then gap else Gap.empty
        let c := c.skip run.length
        if !(c.atBlank || c.atBreak) then some (text, gap.broken, c)
        else
          match Gap.read margin (c.rest.length + 1) Gap.empty c with
          | none => none
          | some (gap, c) =>
            if !flow && c.column < margin then some (text, gap.broken, c)
            else plainScalar flow margin fuel text gap c

/-! ## Quoted scalars -/

/-- The character a backslash and a letter stand for. -/
def escape? : Char → Option Char
  | '0' => some (Char.ofNat 0)
  | 'a' => some (Char.ofNat 7)
  | 'b' => some (Char.ofNat 8)
  | 't' | '\t' => some '\t'
  | 'n' => some '\n'
  | 'v' => some (Char.ofNat 0xB)
  | 'f' => some (Char.ofNat 0xC)
  | 'r' => some '\r'
  | 'e' => some (Char.ofNat 0x1B)
  | ' ' => some ' '
  | '"' => some '"'
  | '/' => some '/'
  | '\\' => some '\\'
  | 'N' => some (Char.ofNat 0x85)
  | '_' => some (Char.ofNat 0xA0)
  | 'L' => some (Char.ofNat 0x2028)
  | 'P' => some (Char.ofNat 0x2029)
  | _ => none

/-- How many hexadecimal digits follow a letter. -/
def escapeWidth? : Char → Option Nat
  | 'x' => some 2
  | 'u' => some 4
  | 'U' => some 8
  | _ => none

def hexNumber? (digits : List Char) : Option Nat :=
  digits.foldl (fun n c => n.bind fun n => (Text.hexValue? c).map (16 * n + ·)) (some 0)

/-- What an escape stands for, from the text behind the backslash, and its length. -/
def escapeAt? (s : List Char) : Option (Char × Nat) :=
  match s with
  | [] => none
  | e :: rest =>
    match escape? e with
    | some x => some (x, 1)
    | none =>
      match escapeWidth? e with
      | none => none
      | some width =>
        if (rest.take width).length < width then none
        else
          match hexNumber? (rest.take width) with
          | some n => if Nat.isValidChar n then some (Char.ofNat n, width + 1) else none
          | none => none

def quoteOf (single : Bool) : Char :=
  if single then '\'' else '"'

/-- Characters up to a blank, the closing quote or an escaped line end, and whether it was one. -/
def quotedRun (single : Bool) : Nat → List Char → Cursor → Option (List Char × Bool × Cursor)
  | 0, _, _ => none
  | fuel + 1, text, c =>
    match c.rest with
    | [] => some (text, false, c)
    | x :: rest =>
      if isBlank x || isBreak x then some (text, false, c)
      else if single && x = '\'' && rest.head? = some '\'' then
        quotedRun single fuel (text ++ ['\'']) (c.skip 2)
      else if x = quoteOf single then some (text, false, c)
      else if !single && x = '\\' then
        match (c.skip 1).lineBreak? with
        | some (_, c) => some (text, true, c)
        | none =>
          match escapeAt? rest with
          | some (e, length) => quotedRun single fuel (text ++ [e]) (c.skip (length + 1))
          | none => none
      else quotedRun single fuel (text ++ [x]) (c.skip 1)

/-- Reads a quoted scalar behind its opening quote. -/
def quotedScalar (single : Bool) : Nat → List Char → Cursor → Option (List Char × Cursor)
  | 0, _, _ => none
  | fuel + 1, text, c =>
    if c.atDocumentMarker || c.rest.isEmpty then none
    else
      match quotedRun single (c.rest.length + 1) text c with
      | none => none
      | some (text, escaped, c) =>
        if c.is (quoteOf single) then some (text, c.skip 1)
        else
          match Gap.read 0 (c.rest.length + 1) { Gap.empty with broken := escaped } c with
          | none => none
          | some (gap, c) => quotedScalar single fuel (text ++ gap.text) c

/-! ## Block scalars -/

/-- What happens to the line ends behind a block scalar. -/
inductive Chomping where
  | strip
  | clip
  | keep
  deriving DecidableEq

def chomping? : Char → Option Chomping
  | '+' => some .keep
  | '-' => some .strip
  | _ => none

/-- The digit of an indentation, if one stands here; it must not be zero. -/
def increment? (c : Cursor) : Option (Nat × Cursor) :=
  match c.rest with
  | d :: _ =>
    if d.isDigit then (if d = '0' then none else some (d.toNat - '0'.toNat, c.skip 1))
    else some (0, c)
  | [] => some (0, c)

def chompingHere (c : Cursor) : Option (Chomping × Cursor) :=
  (c.rest.head?.bind chomping?).map fun x => (x, c.skip 1)

/-- The two indicators in either order. -/
def blockHeader (c : Cursor) : Option (Chomping × Nat × Cursor) :=
  match chompingHere c with
  | some (chomping, c) => (increment? c).map fun (n, c) => (chomping, n, c)
  | none =>
    match increment? c with
    | none => none
    | some (n, after) =>
      match chompingHere after with
      | some (chomping, rest) => some (chomping, n, rest)
      | none => some (.clip, n, after)

/-- Line ends and indentation below a column, or of any width if it is not yet known (zero). -/
def blockBreaks (indent : Nat) : Nat → Nat → List Char → Cursor → Option (Nat × List Char × Cursor)
  | 0, _, _, _ => none
  | fuel + 1, deepest, breaks, c =>
    let spaces := (c.rest.takeWhile (· == ' ')).length
    let c := c.skip (if indent = 0 then spaces else min spaces (indent - c.column))
    let deepest := max deepest c.column
    if (indent = 0 || c.column < indent) && c.is '\t' then none
    else
      match c.lineBreak? with
      | some (b, c) => blockBreaks indent fuel deepest (breaks ++ [b]) c
      | none => some (deepest, breaks, c)

/-- What has been read of a block scalar. -/
structure BlockText where
  text : List Char
  /-- The end of the last line. -/
  last : List Char
  /-- The ends of empty lines behind it. -/
  others : List Char
  /-- Whether the last line begins with a blank. -/
  blank : Bool

def BlockText.addLine (t : BlockText) (literal : Bool) (c : Cursor) : List Char :=
  let joint :=
    if !literal && t.last.head? = some '\n' && !t.blank && !c.atBlank then
      if t.others.isEmpty then [' '] else []
    else t.last
  t.text ++ joint ++ t.others ++ c.rest.takeWhile (!isBreak ·)

def blockLines (literal : Bool) (indent : Nat) :
    Nat → BlockText → Cursor → Option (BlockText × Cursor)
  | 0, _, _ => none
  | fuel + 1, t, c =>
    if c.column = indent && !c.rest.isEmpty then
      let text := t.addLine literal c
      let blank := c.atBlank
      let c := c.skipLineText
      let (last, c) :=
        match c.lineBreak? with
        | some (b, c) => ([b], c)
        | none => ([], c)
      match blockBreaks indent (c.rest.length + 1) 0 [] c with
      | none => none
      | some (_, others, c) => blockLines literal indent fuel ⟨text, last, others, blank⟩ c
    else some (t, c)

def BlockText.chomped (t : BlockText) : Chomping → List Char
  | .strip => t.text
  | .clip => t.text ++ t.last
  | .keep => t.text ++ t.last ++ t.others

/-- Reads a block scalar behind its sign, in a block whose content begins at a margin. -/
def blockScalar (literal : Bool) (margin : Nat) (c : Cursor) : Option (List Char × Cursor) :=
  match blockHeader c with
  | none => none
  | some (chomping, increment, c) =>
    let c := c.skipWhile isBlank
    let c := if c.is '#' then c.skipLineText else c
    let line? := if c.rest.isEmpty then some c else c.lineBreak?.map (·.2)
    match line? with
    | none => none
    | some c =>
      let fuel := c.rest.length + 1
      let given := if increment = 0 then 0 else (margin - 1) + increment
      match blockBreaks given fuel 0 [] c with
      | none => none
      | some (deepest, breaks, c) =>
        let indent := if given = 0 then max (max deepest margin) 1 else given
        (blockLines literal indent fuel ⟨[], [], breaks, false⟩ c).map fun (t, c) =>
          (t.chomped chomping, c)

end TestForge.Yaml
