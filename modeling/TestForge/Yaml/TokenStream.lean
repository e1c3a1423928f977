import TestForge.Yaml.Property
import TestForge.Yaml.Scalar

/-!
# From text to tokens

Indentation becomes tokens that open and close blocks. A node is a key if a colon follows it on its
line, so that the token of the key is put in front of it later. A malformed stream has no tokens.
-/

namespace TestForge.Yaml

/-- A node that a colon may turn into a key. -/
structure PossibleKey where
  /-- The number of its first token. -/
  token : Nat
  place : Cursor
  /-- Whether it must be one, since a block mapping cannot go on with anything else. -/
  required : Bool

/--
The state between two tokens. Margins are columns plus one, zero outside of all blocks; there is one
entry of `keys` for every open flow collection and one for the block around them.
-/
structure TokenStream where
  cursor : Cursor
  margin : Nat
  margins : List Nat
  keys : List (Option PossibleKey)
  keyAllowed : Bool
  tokens : List Token

namespace TokenStream

def start (s : List Char) : TokenStream :=
  ⟨.start s, 0, [], [none], true, []⟩

def inFlow (s : TokenStream) : Bool :=
  s.keys.length > 1

def add (s : TokenStream) (t : Token) : TokenStream :=
  { s with tokens := s.tokens ++ [t] }

/-- Adds a token of so many characters. -/
def addSign (s : TokenStream) (t : Token) (length : Nat) : TokenStream :=
  { s.add t with cursor := s.cursor.skip length }

def insert (s : TokenStream) (n : Nat) (t : Token) : TokenStream :=
  { s with tokens := s.tokens.take n ++ t :: s.tokens.drop n }

def allowKey (s : TokenStream) (allowed : Bool) : TokenStream :=
  { s with keyAllowed := allowed }

/-! ## Blanks and comments -/

/-- Passes blanks, comments and line ends. Tabs do not count where a key could begin. -/
def skipSpace : Nat → TokenStream → TokenStream
  | 0, s => s
  | fuel + 1, s =>
    let c := if s.cursor.column = 0 && s.cursor.is byteOrderMark then s.cursor.skip 1 else s.cursor
    let tabs := s.inFlow || !s.keyAllowed
    let c := c.skipWhile fun x => x == ' ' || (tabs && x == '\t')
    let c := if c.is '#' then c.skipLineText else c
    match c.lineBreak? with
    | some (_, c) =>
      skipSpace fuel { s with cursor := c, keyAllowed := s.keyAllowed || !s.inFlow }
    | none => { s with cursor := c }

/-! ## Possible keys -/

def longestKey : Nat := 1024

/-- A key lies on one line and is not too long. -/
def isStale (c : Cursor) (k : PossibleKey) : Bool :=
  k.place.line < c.line || k.place.index + longestKey < c.index

/-- Forgets keys that came to nothing; one that is required is a fault. -/
def dropStale (c : Cursor) : List (Option PossibleKey) → Option (List (Option PossibleKey))
  | [] => some []
  | none :: rest => (dropStale c rest).map (none :: ·)
  | some k :: rest =>
    if isStale c k then (if k.required then none else (dropStale c rest).map (none :: ·))
    else (dropStale c rest).map (some k :: ·)

def removeKey (s : TokenStream) : Option TokenStream :=
  match s.keys with
  | some k :: rest => if k.required then none else some { s with keys := none :: rest }
  | _ => some s

/-- Remembers the next token as a possible key. -/
def saveKey (s : TokenStream) : Option TokenStream :=
  if s.keyAllowed then
    let required := !s.inFlow && s.margin = s.cursor.column + 1
    s.removeKey.map fun s =>
      { s with keys := some ⟨s.tokens.length, s.cursor, required⟩ :: s.keys.drop 1 }
  else some s

/-! ## Indentation -/

/-- Opens a block at a column, if it is deeper than the one around it. -/
def openBlock (s : TokenStream) (column position : Nat) (t : Token) : TokenStream :=
  if !s.inFlow && s.margin < column + 1 then
    { s.insert position t with margins := s.margin :: s.margins, margin := column + 1 }
  else s

/-- Closes blocks from the inside while they lie deeper than a margin. -/
def closeDeeper (margin : Nat) : List Nat → TokenStream → TokenStream
  | [], s => s
  | m :: rest, s =>
    if s.margin > margin then
      closeDeeper margin rest { s.add .blockEnd with margin := m, margins := rest }
    else s

/-- Closes the blocks that lie deeper than a margin, outside of flow collections. -/
def closeBlocks (s : TokenStream) (margin : Nat) : TokenStream :=
  if s.inFlow then s else closeDeeper margin s.margins s

/-! ## Tokens -/

abbrev Step := TokenStream → Option TokenStream

def documentSign (t : Token) : Step := fun s =>
  (s.closeBlocks 0).removeKey.map fun s => (s.allowKey false).addSign t 3

def directiveSign : Step := fun s =>
  match (s.closeBlocks 0).removeKey with
  | some s =>
    (directive (s.cursor.skip 1)).map fun (t, c) => { (s.allowKey false).add t with cursor := c }
  | none => none

def openFlow (t : Token) : Step := fun s =>
  s.saveKey.map fun s => { (s.allowKey true).addSign t 1 with keys := none :: s.keys }

def closeFlow (t : Token) : Step := fun s =>
  s.removeKey.map fun s =>
    let keys := if s.keys.length > 1 then s.keys.drop 1 else s.keys
    { (s.allowKey false).addSign t 1 with keys := keys }

def flowEntry : Step := fun s =>
  s.removeKey.map fun s => (s.allowKey true).addSign .flowEntry 1

/-- Opens a block for a sign, where one may stand. -/
def openFor (t : Token) : Step := fun s =>
  if s.inFlow then some s
  else if s.keyAllowed then some (s.openBlock s.cursor.column s.tokens.length t)
  else none

def blockEntry : Step := fun s =>
  match s.openFor .blockSequence with
  | some s => s.removeKey.map fun s => (s.allowKey true).addSign .blockEntry 1
  | none => none

def keySign : Step := fun s =>
  match s.openFor .blockMapping with
  | some s => s.removeKey.map fun s => (s.allowKey (!s.inFlow)).addSign .key 1
  | none => none

/-- A colon makes a key of the node before it, if that may be one. -/
def valueSign : Step := fun s =>
  match s.keys with
  | some k :: rest =>
    let s := (s.insert k.token .key).openBlock k.place.column k.token .blockMapping
    some (({ s with keys := none :: rest }.allowKey false).addSign .value 1)
  | _ => (s.openFor .blockMapping).map fun s => (s.allowKey (!s.inFlow)).addSign .value 1

/-- A token that may begin a key, read by a function of the place where it begins. -/
def nodeStart (read : Cursor → Option (Token × Cursor)) : Step := fun s =>
  match s.saveKey with
  | some s => (read s.cursor).map fun (t, c) => { (s.allowKey false).add t with cursor := c }
  | none => none

def anchorSign (make : String → Token) : Step :=
  nodeStart fun c => (anchorName (c.skip 1)).map fun (name, c) => (make name, c)

def quoted (single : Bool) : Step :=
  nodeStart fun c =>
    (quotedScalar single (c.rest.length + 1) [] (c.skip 1)).map fun (text, c) =>
      (.scalar (String.ofList text) .quoted, c)

def block (literal : Bool) : Step := fun s =>
  match s.removeKey with
  | some s =>
    (blockScalar literal s.margin (s.cursor.skip 1)).map fun (text, c) =>
      let style := if literal then Style.literal else .folded
      { (s.allowKey true).add (.scalar (String.ofList text) style) with cursor := c }
  | none => none

def plain : Step := fun s =>
  match s.saveKey with
  | some s =>
    let read := plainScalar s.inFlow s.margin (s.cursor.rest.length + 1) [] Gap.empty s.cursor
    read.map fun (text, broken, c) =>
      { (s.allowKey broken).add (.scalar (String.ofList text) .plain) with cursor := c }
  | none => none

/-- Signs that begin no plain scalar. -/
def reserved : List Char :=
  ['-', '?', ':', ',', '[', ']', '\x7b', '\x7d', '#', '&', '*', '!', '|', '>', '\'', '"', '%', '@',
    '\x60']

/-- Whether a plain scalar begins with a character. -/
def beginsPlain (s : TokenStream) (x : Char) : Bool :=
  !(reserved.contains x || isBlank x) ||
    (x == '-' && !(s.cursor.at? 1).any isBlank) ||
    (!s.inFlow && (x == '?' || x == ':') && !s.cursor.spaceAt 1)

/-- The token that begins with a character. -/
def tokenFrom (x : Char) : Step := fun s =>
  let c := s.cursor
  if c.column = 0 && x = '%' then s.directiveSign
  else if c.atMarker '-' then s.documentSign .documentStart
  else if c.atMarker '.' then s.documentSign .documentEnd
  else if x = '[' then s.openFlow .flowSequence
  else if x = '\x7b' then s.openFlow .flowMapping
  else if x = ']' then s.closeFlow .flowSequenceEnd
  else if x = '\x7d' then s.closeFlow .flowMappingEnd
  else if x = ',' then s.flowEntry
  else if x = '-' && c.spaceAt 1 then s.blockEntry
  else if x = '?' && (s.inFlow || c.spaceAt 1) then s.keySign
  else if x = ':' && (s.inFlow || c.spaceAt 1) then s.valueSign
  else if x = '*' then s.anchorSign .alias
  else if x = '&' then s.anchorSign .anchor
  else if x = '!' then s.nodeStart (tagHere s.inFlow)
  else if x = '|' && !s.inFlow then s.block true
  else if x = '>' && !s.inFlow then s.block false
  else if x = '\'' then s.quoted true
  else if x = '"' then s.quoted false
  else if s.beginsPlain x then s.plain
  else none

/-- Reads to the end of the stream, where all blocks close. -/
def run : Nat → TokenStream → Option (List Token)
  | 0, _ => none
  | fuel + 1, s =>
    let s := s.skipSpace (s.cursor.rest.length + 1)
    match dropStale s.cursor s.keys with
    | none => none
    | some keys =>
      let s := { s with keys := keys }.closeBlocks (s.cursor.column + 1)
      match s.cursor.rest with
      | [] => (s.closeBlocks 0).removeKey.map (·.tokens)
      | x :: _ => (s.tokenFrom x).bind (run fuel)

end TokenStream

/-- The tokens of a stream, if it is well formed. -/
def tokens? (s : List Char) : Option (List Token) :=
  if s.all isAllowed then (TokenStream.start s).run (s.length + 1) else none

end TestForge.Yaml
