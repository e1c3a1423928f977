import TestForge.Shell.Reader

/-!
# Arithmetic of the shell

Whole numbers with the four operations, remainders and comparisons. A name stands for the number it
holds, and one that holds none for zero.
-/

namespace TestForge.Shell

inductive ArithmeticToken where
  | number (n : Int)
  | sign (text : String)
  deriving DecidableEq

def arithmeticSigns : List String :=
  ["<=", ">=", "==", "!=", "&&", "||", "+", "-", "*", "/", "%", "(", ")", "<", ">", "!"]

/-- The whole number a text is; other texts count as zero. -/
def numberOf (s : String) : Int :=
  s.toInt?.getD 0

def arithmeticTokens (value : String → String) : Nat → List Char → List ArithmeticToken
  | 0, _ => []
  | _ + 1, [] => []
  | fuel + 1, c :: cs =>
    if c.isDigit then
      .number (numberOf (String.ofList ((c :: cs).takeWhile Char.isDigit))) ::
        arithmeticTokens value fuel (cs.dropWhile Char.isDigit)
    else if isNameStart c then
      .number (numberOf (value (String.ofList ((c :: cs).takeWhile isNameChar)))) ::
        arithmeticTokens value fuel (cs.dropWhile isNameChar)
    else
      match arithmeticSigns.findSome? fun op =>
        (Text.after? op.toList (c :: cs)).map fun rest => (op, rest) with
      | some (op, rest) => .sign op :: arithmeticTokens value fuel rest
      | none => arithmeticTokens value fuel cs

/-- How tightly a sign between two numbers binds. -/
def precedence : String → Nat
  | "||" => 1
  | "&&" => 2
  | "==" | "!=" => 3
  | "<" | ">" | "<=" | ">=" => 4
  | "+" | "-" => 5
  | "*" | "/" | "%" => 6
  | _ => 0

def truth (b : Bool) : Int := if b then 1 else 0

def combine (op : String) (a b : Int) : Int :=
  match op with
  | "||" => truth (a != 0 || b != 0)
  | "&&" => truth (a != 0 && b != 0)
  | "==" => truth (a == b)
  | "!=" => truth (a != b)
  | "<" => truth (a < b)
  | ">" => truth (a > b)
  | "<=" => truth (a ≤ b)
  | ">=" => truth (a ≥ b)
  | "+" => a + b
  | "-" => a - b
  | "*" => a * b
  | "/" => a.tdiv b
  | "%" => a.tmod b
  | _ => 0

mutual

def operand : Nat → List ArithmeticToken → Int × List ArithmeticToken
  | 0, ts => (0, ts)
  | _ + 1, [] => (0, [])
  | _ + 1, .number n :: ts => (n, ts)
  | fuel + 1, .sign op :: ts =>
    if op = "(" then
      let (n, rest) := operand fuel ts
      let (n, rest) := operations fuel 1 n rest
      (n, rest.drop 1)
    else
      let (n, rest) := operand fuel ts
      (if op = "-" then -n else if op = "!" then truth (n == 0) else n, rest)

/-- Goes on with the signs that bind at least so tightly. -/
def operations : Nat → Nat → Int → List ArithmeticToken → Int × List ArithmeticToken
  | fuel + 1, level, left, .sign op :: ts =>
    let p := precedence op
    if p = 0 || p < level then (left, .sign op :: ts)
    else
      let (right, rest) := operand fuel ts
      let (right, rest) := operations fuel (p + 1) right rest
      operations fuel level (combine op left right) rest
  | _, _, left, ts => (left, ts)

end

/-- The value of an expression. -/
def calculate (value : String → String) (expression : String) : Int :=
  let s := expression.toList
  let ts := arithmeticTokens value s.length s
  let fuel := 2 * ts.length + 2
  let (n, rest) := operand fuel ts
  (operations fuel 1 n rest).1

end TestForge.Shell
