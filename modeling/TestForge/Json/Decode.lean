import TestForge.Json.Value
import TestForge.Decimal.Shortest
import TestForge.Text.Shown

/-!
# Decoding JSON values

A decoder takes a value to what it stands for or says what stands in the way. A record is read from
an object, whose unknown members are ignored, or from a list with the fields in their order. The
members of an object are all decoded before a missing field is noticed.
-/

namespace TestForge.Json

/-! ## Faults -/

/-- The kind of a value, as it is named in messages. -/
inductive Found where
  | null
  | bool (value : Bool)
  | integer (value : Int)
  | float (bits : UInt64)
  | str (value : String)
  | sequence
  | map
  deriving DecidableEq

def found : Json → Found
  | .null => .null
  | .bool b => .bool b
  | .num (.int n) => .integer n
  | .num (.float bits) => .float bits
  | .str s => .str s
  | .arr _ => .sequence
  | .obj _ => .map

def Found.text : Found → String
  | .null => "null"
  | .bool true => "boolean `true`"
  | .bool false => "boolean `false`"
  | .integer n => "integer `" ++ toString n ++ "`"
  | .float bits => "floating point `" ++ Decimal.compactText bits ++ "`"
  | .str s => "string " ++ Text.shown s
  | .sequence => "sequence"
  | .map => "map"

inductive DecodeError where
  | wrongType (found : Found) (expected : String)
  | wrongValue (found : Found) (expected : String)
  | wrongLength (length : Nat) (expected : String)
  | missingField (name : String)
  deriving DecidableEq

def DecodeError.message : DecodeError → String
  | .wrongType f expected => "invalid type: " ++ f.text ++ ", expected " ++ expected
  | .wrongValue f expected => "invalid value: " ++ f.text ++ ", expected " ++ expected
  | .wrongLength n expected => "invalid length " ++ toString n ++ ", expected " ++ expected
  | .missingField name => "missing field `" ++ name ++ "`"

abbrev Decoded := Except DecodeError

/-! ## Plain values -/

def asString (j : Json) (expected : String) : Decoded String :=
  match j with
  | .str s => .ok s
  | _ => .error (.wrongType j.found expected)

def text (j : Json) : Decoded String :=
  j.asString "a string"

def path (j : Json) : Decoded String :=
  j.asString "path string"

def boolean : Json → Decoded Bool
  | .bool b => .ok b
  | j => .error (.wrongType j.found "a boolean")

def word32 : Json → Decoded UInt32
  | .num (.int n) =>
    if 0 ≤ n ∧ n < Int.ofNat (Nat.pow 2 32) then .ok (UInt32.ofNat n.toNat)
    else .error (.wrongValue (.integer n) "u32")
  | j => .error (.wrongType j.found "u32")

def decodeItems {α : Type} (item : Json → Decoded α) : List Json → Decoded (List α)
  | [] => .ok []
  | j :: rest =>
    match item j with
    | .error e => .error e
    | .ok a => (decodeItems item rest).map (a :: ·)

def listOf {α : Type} (item : Json → Decoded α) : Json → Decoded (List α)
  | .arr items => decodeItems item items
  | j => .error (.wrongType j.found "a sequence")

/-- A value that may be null. -/
def nullable {α : Type} (item : Json → Decoded α) : Json → Decoded (Option α)
  | .null => .ok none
  | j => (item j).map some

/-! ## Records -/

structure Field where
  name : String
  required : Bool
  check : Json → Decoded Unit

/-- A field that has to be present. -/
def need {α : Type} (name : String) (decode : Json → Decoded α) : Field :=
  ⟨name, true, fun j => (decode j).map fun _ => ()⟩

/-- A field with a default. -/
def mayHave {α : Type} (name : String) (decode : Json → Decoded α) : Field :=
  ⟨name, false, fun j => (decode j).map fun _ => ()⟩

structure Shape where
  name : String
  fields : List Field

def Shape.expected (shape : Shape) : String :=
  "struct " ++ shape.name

def Shape.expectedLength (shape : Shape) : String :=
  let n := shape.fields.length
  shape.expected ++ " with " ++ toString n ++ (if n = 1 then " element" else " elements")

def Shape.checkMember (shape : Shape) (member : String × Json) : Decoded Unit :=
  match shape.fields.find? fun f => f.name == member.1 with
  | some f => f.check member.2
  | none => .ok ()

/-- Checks the members in their order. -/
def Shape.checkMembers (shape : Shape) : List (String × Json) → Decoded Unit
  | [] => .ok ()
  | m :: rest =>
    match shape.checkMember m with
    | .error e => .error e
    | .ok () => shape.checkMembers rest

/-- The first required field that no member gives. -/
def Shape.missing? (shape : Shape) (members : List (String × Json)) : Option Field :=
  shape.fields.find? fun f => f.required && (lookup f.name members).isNone

/-- Pairs the elements of a list with the fields, from field number `index` on. -/
def Shape.checkItems (shape : Shape) (length index : Nat) :
    List Field → List Json → Decoded (List (String × Json))
  | [], [] => .ok []
  | [], _ :: _ => .error (.wrongLength length "fewer elements in array")
  | f :: fields, [] =>
    if f.required then .error (.wrongLength index shape.expectedLength)
    else shape.checkItems length (index + 1) fields []
  | f :: fields, j :: rest =>
    match f.check j with
    | .error e => .error e
    | .ok () => (shape.checkItems length (index + 1) fields rest).map ((f.name, j) :: ·)

/-- The members of a record; each that belongs to a field decodes, and no required one is missing. -/
def Shape.members (shape : Shape) : Json → Decoded (List (String × Json))
  | .obj members =>
    match shape.checkMembers members with
    | .error e => .error e
    | .ok () =>
      match shape.missing? members with
      | some f => .error (.missingField f.name)
      | none => .ok members
  | .arr items => shape.checkItems items.length 0 shape.fields items
  | j => .error (.wrongType j.found shape.expected)

/-- The value of a required field. -/
def field {α : Type} (decode : Json → Decoded α) (name : String)
    (members : List (String × Json)) : Decoded α :=
  match lookup name members with
  | some j => decode j
  | none => .error (.missingField name)

/-- The value of a field with a default. -/
def fieldOr {α : Type} (decode : Json → Decoded α) (name : String) (default : α)
    (members : List (String × Json)) : Decoded α :=
  match lookup name members with
  | some j => decode j
  | none => .ok default

end TestForge.Json
