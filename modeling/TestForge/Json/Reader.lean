import TestForge.Json.Value
import TestForge.Text.HexDigit

/-!
# Reading JSON text

A strict reader that says where and why it stops. Nesting is limited to 127 levels. Line and column
count from one and zero, columns in bytes; a fault found by looking at the next byte lies one
column further than one found by consuming it.
-/

namespace TestForge.Json

inductive FaultKind where
  | endInList
  | endInObject
  | endInString
  | endInValue
  | expectedColon
  | expectedListEnd
  | expectedObjectEnd
  | expectedIdent
  | expectedValue
  | invalidEscape
  | invalidNumber
  | numberOutOfRange
  | controlCharacter
  | keyNotString
  | loneSurrogate
  | trailingComma
  | trailingCharacters
  | endOfHexEscape
  | nestedTooDeep
  deriving DecidableEq

def FaultKind.message : FaultKind → String
  | .endInList => "EOF while parsing a list"
  | .endInObject => "EOF while parsing an object"
  | .endInString => "EOF while parsing a string"
  | .endInValue => "EOF while parsing a value"
  | .expectedColon => "expected `:`"
  | .expectedListEnd => "expected `,` or `]`"
  | .expectedObjectEnd => "expected `,` or `\x7d`"
  | .expectedIdent => "expected ident"
  | .expectedValue => "expected value"
  | .invalidEscape => "invalid escape"
  | .invalidNumber => "invalid number"
  | .numberOutOfRange => "number out of range"
  | .controlCharacter => "control character (\\u0000-\\u001F) found while parsing a string"
  | .keyNotString => "key must be a string"
  | .loneSurrogate => "lone leading surrogate in hex escape"
  | .trailingComma => "trailing comma"
  | .trailingCharacters => "trailing characters"
  | .endOfHexEscape => "unexpected end of hex escape"
  | .nestedTooDeep => "recursion limit exceeded"

/-! ## Places -/

/-- Where reading stopped: how many bytes were left, and how many more the fault lies ahead. -/
structure Fault where
  kind : FaultKind
  left : Nat
  ahead : Nat
  deriving DecidableEq

abbrev Reading (α : Type) := Except Fault (α × List Char)

def byteLength (s : List Char) : Nat :=
  s.foldl (fun n c => n + c.utf8Size) 0

/-- A fault at the place reached. -/
def stop {α : Type} (kind : FaultKind) (rest : List Char) : Except Fault α :=
  .error ⟨kind, byteLength rest, 0⟩

/-- A fault at the next byte, which is not consumed. -/
def stopAhead {α : Type} (kind : FaultKind) (rest : List Char) : Except Fault α :=
  .error ⟨kind, byteLength rest, 1⟩

/-- The line and column after the first `offset` bytes. -/
def placeAfter (bytes : List UInt8) (offset : Nat) : Nat × Nat :=
  let step (place : Nat × Nat) (b : UInt8) : Nat × Nat :=
    if b = 10 then (place.1 + 1, 0) else (place.1, place.2 + 1)
  (bytes.take offset).foldl step (1, 0)

def Fault.message (text : String) (f : Fault) : String :=
  let bytes := text.toUTF8.toList
  let place := placeAfter bytes (min bytes.length (bytes.length - f.left + f.ahead))
  f.kind.message ++ " at line " ++ toString place.1 ++ " column " ++ toString place.2

/-! ## Blanks and words -/

def isSpace (c : Char) : Bool :=
  c == ' ' || c == '\n' || c == '\t' || c == '\r'

def skipSpace (s : List Char) : List Char :=
  s.dropWhile isSpace

/-- The rest of a literal word after its first letter. -/
def word (value : Json) : List Char → List Char → Reading Json
  | [], s => .ok (value, s)
  | _ :: _, [] => stop .endInValue []
  | w :: ws, c :: cs => if c = w then word value ws cs else stop .expectedIdent cs

/-! ## Numbers -/

def maxWord : Nat :=
  Nat.pow 2 64 - 1

/--
Adds digits to a significand until it would no longer fit 64 bits. Gives the significand, the
number of digits taken and the digits left.
-/
def takeDigits (significand taken : Nat) : List Char → Nat × Nat × List Char
  | [] => (significand, taken, [])
  | c :: cs =>
    if c.isDigit then
      let next := 10 * significand + (c.toNat - '0'.toNat)
      if next > maxWord then (significand, taken, c :: cs)
      else takeDigits next (taken + 1) cs
    else (significand, taken, c :: cs)

/-- Divides by powers of ten, at most `10 ^ 308` at a time. -/
def scaleDown (value : Float) (places : Nat) : Float :=
  if places ≤ 308 then value / Float.ofScientific 1 false places
  else if value == 0 then value
  else scaleDown (value / Float.ofScientific 1 false 308) (places - 308)
  termination_by places

/-- The double `± significand · 10 ^ exponent`, rounded after each of at most a few steps. -/
def scale (negative : Bool) (significand : Nat) (exponent : Int) : Option JsonNumber :=
  let whole := Float.ofNat significand
  let value :=
    if exponent < 0 then scaleDown whole (-exponent).toNat
    else if exponent ≤ 308 then whole * Float.ofScientific 1 false exponent.toNat
    else if significand = 0 then whole
    else 1 / 0
  if value.isInf then none
  else some (.float (if negative then -value else value).toBits)

def finish (negative : Bool) (significand : Nat) (exponent : Int) (s : List Char) :
    Reading Json :=
  match scale negative significand exponent with
  | some n => .ok (.num n, s)
  | none => stop .numberOutOfRange s

/-- The digits of an exponent; its value stays below `2 ^ 31`, and beyond that it has none. -/
def exponentDigits (value : Nat) : List Char → Option Nat × List Char
  | [] => (some value, [])
  | c :: cs =>
    if c.isDigit then
      let next := 10 * value + (c.toNat - '0'.toNat)
      if next ≥ Nat.pow 2 31 then (none, cs) else exponentDigits next cs
    else (some value, c :: cs)

def exponentSign : List Char → Bool × List Char
  | '+' :: s => (false, s)
  | '-' :: s => (true, s)
  | s => (false, s)

/-- The exponent part of a number, after its `e`. -/
def exponentPart (negative : Bool) (significand : Nat) (start : Int) (s : List Char) :
    Reading Json :=
  let (down, s) := exponentSign s
  match s with
  | [] => stop .endInValue []
  | c :: cs =>
    if c.isDigit then
      match exponentDigits (c.toNat - '0'.toNat) cs with
      | (some e, rest) =>
        finish negative significand (if down then start - (e : Int) else start + (e : Int)) rest
      | (none, rest) =>
        if significand ≠ 0 && !down then stop .numberOutOfRange rest
        else finish negative 0 0 (rest.dropWhile Char.isDigit)
    else stop .invalidNumber cs

/-- What follows the digits of a fraction. -/
def afterFraction (negative : Bool) (significand : Nat) (exponent : Int) (s : List Char) :
    Reading Json :=
  match s with
  | 'e' :: rest => exponentPart negative significand exponent rest
  | 'E' :: rest => exponentPart negative significand exponent rest
  | _ => finish negative significand exponent s

/-- The fraction of a number, after its point. -/
def fraction (negative : Bool) (significand : Nat) (exponent : Int) (s : List Char) :
    Reading Json :=
  match takeDigits significand 0 s with
  | (total, taken, rest) =>
    if taken = 0 && !(rest.headD 'x').isDigit then
      match rest with
      | [] => stopAhead .endInValue []
      | _ => stopAhead .invalidNumber rest
    else afterFraction negative total (exponent - (taken : Int)) (rest.dropWhile Char.isDigit)

/-- The integer a number without fraction and exponent stands for: a double if it is `-0` or does
not fit 64 bits. -/
def wholeNumber (negative : Bool) (n : Nat) : JsonNumber :=
  if negative then
    if n = 0 || n > Nat.pow 2 63 then .float (-(Float.ofNat n)).toBits else .int (-(n : Int))
  else .int n

def afterDigits (negative : Bool) (n : Nat) (s : List Char) : Reading Json :=
  match s with
  | '.' :: rest => fraction negative n 0 rest
  | 'e' :: rest => exponentPart negative n 0 rest
  | 'E' :: rest => exponentPart negative n 0 rest
  | _ => .ok (.num (wholeNumber negative n), s)

/-- A number too long for 64 bits: each further digit of its whole part is a power of ten. -/
def longNumber (negative : Bool) (significand : Nat) (s : List Char) : Reading Json :=
  let extra : Int := (s.takeWhile Char.isDigit).length
  match s.dropWhile Char.isDigit with
  | '.' :: rest => fraction negative significand extra rest
  | rest => afterFraction negative significand extra rest

/-- A number after its sign. -/
def number (negative : Bool) (s : List Char) : Reading Json :=
  match s with
  | [] => stop .endInValue []
  | '0' :: rest =>
    if (rest.headD 'x').isDigit then stopAhead .invalidNumber rest
    else afterDigits negative 0 rest
  | c :: rest =>
    if c.isDigit then
      match takeDigits 0 0 (c :: rest) with
      | (n, _, after) =>
        if (after.headD 'x').isDigit then longNumber negative n after
        else afterDigits negative n after
    else stop .invalidNumber rest

/-! ## Strings -/

/-- Four hexadecimal digits. Four bytes are consumed whatever they are. -/
def hexFour (s : List Char) : Reading Nat :=
  if byteLength s < 4 then stop .endInString []
  else
    match s with
    | a :: b :: c :: d :: rest =>
      match Text.hexValue? a, Text.hexValue? b, Text.hexValue? c, Text.hexValue? d with
      | some a, some b, some c, some d => .ok (((16 * a + b) * 16 + c) * 16 + d, rest)
      | _, _, _, _ => .error ⟨.invalidEscape, byteLength s - 4, 0⟩
    | _ => .error ⟨.invalidEscape, byteLength s - 4, 0⟩

/-- The second half of a pair of surrogates. -/
def lowSurrogate (high : Nat) (s : List Char) : Reading Char :=
  match s with
  | [] => stop .endInString []
  | '\\' :: [] => stop .endInString []
  | '\\' :: 'u' :: rest =>
    match hexFour rest with
    | .error f => .error f
    | .ok (low, rest) =>
      if low < 0xDC00 || low > 0xDFFF then stop .loneSurrogate rest
      else .ok (Char.ofNat (0x10000 + (high - 0xD800) * 0x400 + (low - 0xDC00)), rest)
  | '\\' :: rest => .error ⟨.endOfHexEscape, byteLength rest, 1⟩
  | _ => .error ⟨.endOfHexEscape, byteLength s, 1⟩

/-- A character written as `\u` and four digits, after the `u`. -/
def unicodeChar (s : List Char) : Reading Char :=
  match hexFour s with
  | .error f => .error f
  | .ok (n, rest) =>
    if 0xDC00 ≤ n && n ≤ 0xDFFF then stop .loneSurrogate rest
    else if 0xD800 ≤ n && n ≤ 0xDBFF then lowSurrogate n rest
    else .ok (Char.ofNat n, rest)

/-- An escaped character, after the backslash. -/
def escapedChar : List Char → Reading Char
  | [] => stop .endInString []
  | '"' :: s => .ok ('"', s)
  | '\\' :: s => .ok ('\\', s)
  | '/' :: s => .ok ('/', s)
  | 'b' :: s => .ok (Char.ofNat 0x08, s)
  | 'f' :: s => .ok (Char.ofNat 0x0C, s)
  | 'n' :: s => .ok ('\n', s)
  | 'r' :: s => .ok ('\r', s)
  | 't' :: s => .ok ('\t', s)
  | 'u' :: s => unicodeChar s
  | _ :: s => stop .invalidEscape s

/-- The characters up to the closing quote, newest first in `done`. -/
def stringChars : Nat → List Char → List Char → Reading String
  | 0, _, s => stop .endInString s
  | fuel + 1, done, s =>
    match s with
    | [] => stop .endInString []
    | '"' :: rest => .ok (String.ofList done.reverse, rest)
    | '\\' :: rest =>
      match escapedChar rest with
      | .error f => .error f
      | .ok (c, rest) => stringChars fuel (c :: done) rest
    | c :: rest =>
      if c.toNat < 0x20 then stop .controlCharacter rest
      else stringChars fuel (c :: done) rest

/-- A string after its opening quote. -/
def string (s : List Char) : Reading String :=
  stringChars (s.length + 1) [] s

/-! ## Values -/

/-- What stands before the next element of a list: its end, or the element. -/
def nextItem (first : Bool) (s : List Char) : Reading Bool :=
  match skipSpace s with
  | [] => stopAhead .endInList []
  | ']' :: rest => .ok (false, rest)
  | ',' :: rest =>
    if first then .ok (true, ',' :: rest)
    else
      match skipSpace rest with
      | [] => stopAhead .endInValue []
      | ']' :: after => stopAhead .trailingComma (']' :: after)
      | after => .ok (true, after)
  | rest => if first then .ok (true, rest) else stopAhead .expectedListEnd rest

/-- What stands before the next member of an object: its end, or the name, after its quote. -/
def nextMember (first : Bool) (s : List Char) : Reading Bool :=
  match skipSpace s with
  | [] => stopAhead .endInObject []
  | '\x7d' :: rest => .ok (false, rest)
  | ',' :: rest =>
    if first then stopAhead .keyNotString (',' :: rest)
    else
      match skipSpace rest with
      | [] => stopAhead .endInValue []
      | '"' :: after => .ok (true, after)
      | '\x7d' :: after => stopAhead .trailingComma ('\x7d' :: after)
      | after => stopAhead .keyNotString after
  | '"' :: rest => if first then .ok (true, rest) else stopAhead .expectedObjectEnd ('"' :: rest)
  | rest => stopAhead (if first then .keyNotString else .expectedObjectEnd) rest

def colon (s : List Char) : Reading Unit :=
  match skipSpace s with
  | [] => stopAhead .endInObject []
  | ':' :: rest => .ok ((), rest)
  | rest => stopAhead .expectedColon rest

mutual

/-- One value. `levels` is how many more brackets may open. -/
def value : Nat → Nat → List Char → Reading Json
  | 0, _, s => stopAhead .endInValue s
  | fuel + 1, levels, s =>
    match skipSpace s with
    | [] => stopAhead .endInValue []
    | 'n' :: rest => word .null ['u', 'l', 'l'] rest
    | 't' :: rest => word (.bool true) ['r', 'u', 'e'] rest
    | 'f' :: rest => word (.bool false) ['a', 'l', 's', 'e'] rest
    | '-' :: rest => number true rest
    | '"' :: rest =>
      match string rest with
      | .error f => .error f
      | .ok (text, rest) => .ok (.str text, rest)
    | '[' :: rest =>
      if levels = 0 then stopAhead .nestedTooDeep ('[' :: rest)
      else items fuel (levels - 1) true [] rest
    | '\x7b' :: rest =>
      if levels = 0 then stopAhead .nestedTooDeep ('\x7b' :: rest)
      else members fuel (levels - 1) true [] rest
    | c :: rest =>
      if c.isDigit then number false (c :: rest) else stopAhead .expectedValue (c :: rest)

/-- The elements of a list up to its end, newest first in `done`. -/
def items : Nat → Nat → Bool → List Json → List Char → Reading Json
  | 0, _, _, _, s => stopAhead .endInList s
  | fuel + 1, levels, first, done, s =>
    match nextItem first s with
    | .error f => .error f
    | .ok (false, rest) => .ok (.arr done.reverse, rest)
    | .ok (true, rest) =>
      match value fuel levels rest with
      | .error f => .error f
      | .ok (j, rest) => items fuel levels false (j :: done) rest

/-- The members of an object up to its end. -/
def members : Nat → Nat → Bool → List (String × Json) → List Char → Reading Json
  | 0, _, _, _, s => stopAhead .endInObject s
  | fuel + 1, levels, first, done, s =>
    match nextMember first s with
    | .error f => .error f
    | .ok (false, rest) => .ok (.obj done, rest)
    | .ok (true, rest) =>
      match string rest with
      | .error f => .error f
      | .ok (name, rest) =>
        match colon rest with
        | .error f => .error f
        | .ok ((), rest) =>
          match value fuel levels rest with
          | .error f => .error f
          | .ok (j, rest) => members fuel levels false (setMember name j done) rest

end

/-- Reads a whole text. -/
def read (text : String) : Except Fault Json :=
  let s := text.toList
  match value (2 * s.length + 2) 127 s with
  | .error f => .error f
  | .ok (j, rest) =>
    match skipSpace rest with
    | [] => .ok j
    | after => stopAhead .trailingCharacters after

end TestForge.Json
