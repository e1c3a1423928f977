/-!
# Backslash escapes

What `echo` and `printf` put in place of a backslash and the characters behind it. The result is
bytes, since an octal escape names a byte.
-/

namespace TestForge.Shell

def isOctal (c : Char) : Bool :=
  '0' ≤ c && c ≤ '7'

def octalValue (digits : List Char) : UInt8 :=
  UInt8.ofNat (digits.foldl (fun n c => 8 * n + (c.toNat - '0'.toNat)) 0)

/-- The control character that a letter names. -/
def controlOf : Char → Option UInt8
  | 'a' => some 7
  | 'b' => some 8
  | 'f' => some 12
  | 'n' => some 10
  | 'r' => some 13
  | 't' => some 9
  | 'v' => some 11
  | '\\' => some 92
  | _ => none

def charBytes (c : Char) : List UInt8 :=
  (String.ofList [c]).toUTF8.toList

def textBytes (s : String) : List UInt8 :=
  s.toUTF8.toList

/-- What a backslash stands for with the text behind it: some bytes and the rest. -/
def escapeAt (s : List Char) : List UInt8 × List Char :=
  match s with
  | [] => ([92], [])
  | c :: rest =>
    match controlOf c with
    | some b => ([b], rest)
    | none =>
      let digits := (s.take 3).takeWhile isOctal
      if digits.isEmpty then ([92], s) else ([octalValue digits], s.drop digits.length)

/-- Text with its escapes read, and whether `\c` cut it short. Octal escapes begin with a zero. -/
def unescaped : Nat → List Char → List UInt8 × Bool
  | 0, _ => ([], false)
  | _ + 1, [] => ([], false)
  | fuel + 1, c :: cs =>
    if c = '\\' then
      match cs with
      | 'c' :: _ => ([], true)
      | '0' :: rest =>
        let digits := (rest.take 3).takeWhile isOctal
        let (bs, cut) := unescaped fuel (rest.drop digits.length)
        (octalValue digits :: bs, cut)
      | e :: rest =>
        match controlOf e with
        | some b => let (bs, cut) := unescaped fuel rest; (b :: bs, cut)
        | none => let (bs, cut) := unescaped fuel cs; (92 :: bs, cut)
      | [] => ([92], false)
    else
      let (bs, cut) := unescaped fuel cs
      (charBytes c ++ bs, cut)

end TestForge.Shell
