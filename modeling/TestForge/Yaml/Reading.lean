import TestForge.Text.DecimalDigit
import TestForge.Text.HexDigit
import TestForge.Yaml.Node

/-!
# Values in nodes

Texts, numbers, flags, lists and named fields. A text is any scalar as it is written; a number or a
flag is a plain one, or a literal one with the tag of its kind. An alias stands for its node.
-/

namespace TestForge.Yaml

/-- The content of a document with the nodes that aliases stand for. -/
structure Document where
  root : Option Node
  anchors : List (Nat × Node)

def Document.read? (text : String) : Option Document :=
  (Yaml.read? text).map fun root => ⟨root, (root.map Node.anchored).getD []⟩

/-- What an alias stands for; among nodes of one number the last counts. -/
def target (anchors : List (Nat × Node)) : Node → Node
  | .alias n => ((anchors.reverse.lookup n)).getD (.alias n)
  | n => n

namespace Node

variable (anchors : List (Nat × Node))

/-! ## Scalars -/

def standardTag (name : String) : String :=
  "tag:yaml.org,2002:" ++ name

def isNullText (s : String) : Bool :=
  ["null", "Null", "NULL", "~"].contains s

def text? (n : Node) : Option String :=
  match target anchors n with
  | .scalar _ _ text _ => some text
  | _ => none

/-- A text that may be missing. A tag other than that of nothing makes it one in any case. -/
def optionalText? (n : Node) : Option (Option String) :=
  match target anchors n with
  | .scalar _ tag text .plain =>
    match tag with
    | some t =>
      if t = standardTag "null" then (if isNullText text then some none else none)
      else some (some text)
    | none => if text.isEmpty || isNullText text then some none else some (some text)
  | .scalar _ _ text _ => some (some text)
  | _ => none

/-- The text of a scalar that can be something else than text. -/
def bareText? (kind : String) (n : Node) : Option String :=
  match target anchors n with
  | .scalar _ _ text .plain => some text
  | .scalar _ (some tag) text .literal => if tag = standardTag kind then some text else none
  | _ => none

def flagOf? (s : String) : Option Bool :=
  if ["true", "True", "TRUE"].contains s then some true
  else if ["false", "False", "FALSE"].contains s then some false
  else none

def flag? (n : Node) : Option Bool :=
  (n.bareText? anchors "bool").bind flagOf?

/-! ## Numbers -/

/-- The number that digits of a base make, if it is small enough. -/
def digitsBelow? (base limit : Nat) (digits : List Char) : Option Nat :=
  if digits.isEmpty then none
  else
    let n? := digits.foldl (fun n? c => n?.bind fun n =>
      (Text.hexValue? c).bind fun d => if d < base then some (base * n + d) else none) (some 0)
    n?.bind fun n => if n < limit then some n else none

/-- A number without a sign: decimal without zeros in front, or in another base that it names. -/
def unsignedBelow? (limit : Nat) (s : List Char) : Option Nat :=
  match s with
  | '0' :: 'x' :: digits => digitsBelow? 16 limit digits
  | '0' :: 'o' :: digits => digitsBelow? 8 limit digits
  | '0' :: 'b' :: digits => digitsBelow? 2 limit digits
  | '0' :: _ :: _ => none
  | digits => digitsBelow? 10 limit digits

/-- A number that is not negative; a plus sign may stand in front. -/
def countOf? (limit : Nat) (s : String) : Option Nat :=
  match s.toList with
  | '+' :: rest => unsignedBelow? limit rest
  | cs => unsignedBelow? limit cs

def count? (limit : Nat) (n : Node) : Option Nat :=
  (n.bareText? anchors "int").bind (countOf? limit)

/-! ## Collections -/

/-- Whether a node is left out, so that it counts as an empty collection. -/
def isOmitted : Node → Bool
  | .scalar _ _ text .plain => text.isEmpty
  | _ => false

def all? {α : Type} (read : Node → Option α) : List Node → Option (List α)
  | [] => some []
  | n :: rest =>
    match read n with
    | some a => (all? read rest).map (a :: ·)
    | none => none

def list? {α : Type} (read : Node → Option α) (n : Node) : Option (List α) :=
  match target anchors n with
  | .sequence _ items => all? read items
  | n => if n.isOmitted then some [] else none

abbrev Fields := List (String × Node)

/-- The members of a mapping by their keys, which are scalars. -/
def named? : List (Node × Node) → Option Fields
  | [] => some []
  | (k, v) :: rest =>
    match k.text? anchors with
    | some name => (named? rest).map ((name, v) :: ·)
    | none => none

/-- The members of a mapping, of which those with known names are there at most once. -/
def fields? (known : List String) (n : Node) : Option Fields :=
  match target anchors n with
  | .mapping _ pairs =>
    match named? anchors pairs with
    | some fields =>
      if known.all fun name => fields.countP (·.1 == name) ≤ 1 then some fields else none
    | none => none
  | n => if n.isOmitted then some [] else none

/-- The value of a field, or a default if it is not there. -/
def field? {α : Type} (fields : Fields) (name : String) (default : α) (read : Node → Option α) :
    Option α :=
  match fields.lookup name with
  | some n => read n
  | none => some default

end Node

end TestForge.Yaml
