/-!
# The shortest decimal of a binary floating point number

A finite double is `m · 2 ^ q`. Every real nearer to it than to its neighbours reads back as it; the
digits chosen are the fewest whose decimal lies in that interval, and of those the nearest.
All arithmetic is on natural numbers.
-/

namespace TestForge.Decimal

/-- The magnitude `significand · 2 ^ exponent` of a finite double. -/
structure Binary where
  significand : Nat
  exponent : Int
  /-- The double below is only half as far away as the one above. -/
  narrowBelow : Bool
  deriving DecidableEq

/-- A decimal magnitude `digits · 10 ^ exponent`. -/
structure Scaled where
  digits : Nat
  exponent : Int
  deriving DecidableEq

/-! ## Bits -/

def isNegative (bits : UInt64) : Bool :=
  bits.toNat ≥ Nat.pow 2 63

/-- The magnitude a bit pattern stands for; infinities and NaN have none. -/
def Binary.ofBits? (bits : UInt64) : Option Binary :=
  let fraction := bits.toNat % Nat.pow 2 52
  let biased := bits.toNat / Nat.pow 2 52 % Nat.pow 2 11
  if biased = 2047 then none
  else if biased = 0 then some ⟨fraction, -1074, false⟩
  else some ⟨Nat.pow 2 52 + fraction, Int.ofNat biased - 1075, fraction = 0 && biased > 1⟩

/-! ## Comparing with decimals -/

def pow (base : Nat) (exponent : Int) : Nat :=
  Nat.pow base exponent.toNat

/-- Compares `a · 10 ^ e` with `b · 2 ^ q` exactly. -/
def compareScaled (a : Nat) (e : Int) (b : Nat) (q : Int) : Ordering :=
  compare (a * pow 10 e * pow 2 (-q)) (b * pow 2 q * pow 10 (-e))

/-- Whether a decimal reads back as the double. The ends of the interval do iff the significand is
even. -/
def Binary.covers (b : Binary) (d : Scaled) : Bool :=
  let low := 4 * b.significand - if b.narrowBelow then 1 else 2
  let high := 4 * b.significand + 2
  let even := b.significand % 2 == 0
  let above := compareScaled d.digits d.exponent low (b.exponent - 2)
  let below := compareScaled d.digits d.exponent high (b.exponent - 2)
  (above == .gt || (even && above == .eq)) && (below == .lt || (even && below == .eq))

/-- The greatest multiple of `10 ^ e` that is at most the double. -/
def Binary.floorAt (b : Binary) (e : Int) : Nat :=
  b.significand * pow 2 b.exponent * pow 10 (-e) / (pow 10 e * pow 2 (-b.exponent))

/-- Of two neighbours on a decimal grid, the one nearer to the double; the even one on a tie. -/
def Binary.nearer (b : Binary) (low : Nat) (e : Int) : Nat :=
  match compareScaled (2 * low + 1) e b.significand (b.exponent + 1) with
  | .gt => low
  | .lt => low + 1
  | .eq => if low % 2 = 0 then low else low + 1

/-- The decimal on the grid `10 ^ e` that reads back, if there is one. -/
def Binary.onGrid? (b : Binary) (e : Int) : Option Scaled :=
  let low := b.floorAt e
  let near := b.nearer low e
  let far := if near = low then low + 1 else low
  if b.covers ⟨near, e⟩ then some ⟨near, e⟩
  else if b.covers ⟨far, e⟩ then some ⟨far, e⟩
  else none

/-! ## Choosing the grid -/

def digitCount (n : Nat) : Nat :=
  (Nat.toDigits 10 n).length

/-- The exponent `k` with `10 ^ k ≤ double < 10 ^ (k + 1)`. -/
def Binary.magnitude (b : Binary) : Int :=
  if 0 ≤ b.exponent then digitCount (b.floorAt 0) - 1
  else
    let places : Int := 330
    (digitCount (b.floorAt (-places)) : Int) - 1 - places

/-- Tries grids from coarse to fine. -/
def Binary.search (b : Binary) (top : Int) : List Nat → Scaled
  | [] => ⟨b.floorAt (top - 16), top - 16⟩
  | n :: rest =>
    match b.onGrid? (top - (n : Int)) with
    | some d => d
    | none => b.search top rest

def Binary.shortest (b : Binary) : Scaled :=
  if b.significand = 0 then ⟨0, 0⟩ else b.search b.magnitude (List.range 17)

/-! ## Text -/

def zeros (n : Nat) : List Char :=
  List.replicate n '0'

/-- Plain positional text, with a point only if there are places after it. -/
def Scaled.positional (d : Scaled) : List Char :=
  let digits := Nat.toDigits 10 d.digits
  if 0 ≤ d.exponent then
    if d.digits = 0 then ['0'] else digits ++ zeros d.exponent.toNat
  else
    let places := (-d.exponent).toNat
    let padded := zeros (places + 1 - digits.length) ++ digits
    padded.take (padded.length - places) ++ '.' :: padded.drop (padded.length - places)

/-- One digit before the point and an exponent of ten. -/
def Scaled.scientific (d : Scaled) : List Char :=
  let digits := Nat.toDigits 10 d.digits
  let exponent := d.exponent + (digits.length : Int) - 1
  digits.take 1 ++ (if digits.length > 1 then '.' :: digits.drop 1 else []) ++
    'e' :: (toString exponent).toList

/-- Text that always shows a point, for a finite double. -/
def withPoint (s : List Char) : List Char :=
  if s.contains '.' then s else s ++ ['.', '0']

def signed (bits : UInt64) (s : List Char) : String :=
  String.ofList (if isNegative bits then '-' :: s else s)

/-- Positional text from `1e-5` to below `1e16`, scientific text beyond. -/
def compactText (bits : UInt64) : String :=
  match Binary.ofBits? bits with
  | some b =>
    let d := b.shortest
    let point := d.exponent + (digitCount d.digits : Int)
    if d.digits = 0 || (-5 < point && point ≤ 16) then signed bits (withPoint d.positional)
    else signed bits d.scientific
  | none => "null"

end TestForge.Decimal
