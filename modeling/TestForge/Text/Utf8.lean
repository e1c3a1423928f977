/-!
# Reading bytes as text

UTF-8 read without failing: every longest run of bytes that begins a character but does not finish
it, and every other stray byte, reads as U+FFFD.
-/

namespace TestForge.Text

/-- The bytes that may follow a first byte, as ranges; none if it begins no character. -/
def followers (b : Nat) : Option (List (Nat × Nat)) :=
  let tail := (0x80, 0xBF)
  if b < 0x80 then some []
  else if 0xC2 ≤ b && b ≤ 0xDF then some [tail]
  else if b = 0xE0 then some [(0xA0, 0xBF), tail]
  else if b = 0xED then some [(0x80, 0x9F), tail]
  else if 0xE1 ≤ b && b ≤ 0xEF then some [tail, tail]
  else if b = 0xF0 then some [(0x90, 0xBF), tail, tail]
  else if 0xF1 ≤ b && b ≤ 0xF3 then some [tail, tail, tail]
  else if b = 0xF4 then some [(0x80, 0x8F), tail, tail]
  else none

/-- The bits of the code point that a first byte holds. -/
def leadBits (b : Nat) : Nat :=
  if b < 0x80 then b else if b < 0xE0 then b % 0x20 else if b < 0xF0 then b % 0x10 else b % 0x08

def replacement : Char := Char.ofNat 0xFFFD

/-- Reads bytes with a character under way: its bits so far and the bytes still owed. -/
def readLossy (bits : Nat) : List (Nat × Nat) → List UInt8 → List Char
  | [], [] => []
  | _ :: _, [] => [replacement]
  | [], b :: rest =>
    match followers b.toNat with
    | some [] => Char.ofNat b.toNat :: readLossy 0 [] rest
    | some owed => readLossy (leadBits b.toNat) owed rest
    | none => replacement :: readLossy 0 [] rest
  | (lo, hi) :: owed, b :: rest =>
    let n := b.toNat
    if lo ≤ n && n ≤ hi then
      let total := bits * 0x40 + n % 0x40
      match owed with
      | [] => Char.ofNat total :: readLossy 0 [] rest
      | next :: more => readLossy total (next :: more) rest
    else
      match followers n with
      | some [] => replacement :: Char.ofNat n :: readLossy 0 [] rest
      | some (next :: more) => replacement :: readLossy (leadBits n) (next :: more) rest
      | none => replacement :: replacement :: readLossy 0 [] rest

/-- The text of a sequence of bytes. -/
def ofBytes (bytes : ByteArray) : String :=
  match String.fromUTF8? bytes with
  | some text => text
  | none => String.ofList (readLossy 0 [] bytes.toList)

end TestForge.Text
