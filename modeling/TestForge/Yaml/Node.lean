import TestForge.Yaml.TokenStream

/-!
# Nodes of a YAML document

What tokens describe: scalars, sequences, mappings, and aliases of nodes that carry an anchor. A
node that is left out is an empty plain scalar.
-/

namespace TestForge.Yaml

inductive Node where
  | scalar (anchor : Option Nat) (tag : Option String) (text : String) (style : Style)
  | sequence (anchor : Option Nat) (items : List Node)
  | mapping (anchor : Option Nat) (pairs : List (Node × Node))
  | alias (target : Nat)

namespace Node

def empty : Node :=
  .scalar none none "" .plain

mutual

/-- The nodes with an anchor, by its number, in the order of the text. -/
def anchored : Node → List (Nat × Node)
  | .scalar anchor tag text style =>
    (anchor.map fun n => (n, Node.scalar anchor tag text style)).toList
  | .sequence anchor items =>
    (anchor.map fun n => (n, Node.sequence anchor items)).toList ++ anchoredItems items
  | .mapping anchor pairs =>
    (anchor.map fun n => (n, Node.mapping anchor pairs)).toList ++ anchoredPairs pairs
  | .alias _ => []

def anchoredItems : List Node → List (Nat × Node)
  | [] => []
  | n :: rest => n.anchored ++ anchoredItems rest

def anchoredPairs : List (Node × Node) → List (Nat × Node)
  | [] => []
  | (k, v) :: rest => k.anchored ++ v.anchored ++ anchoredPairs rest

end

/-! ## Properties -/

abbrev Handles := List (String × String)

/-- The numbers of anchors by name; a name may be given again. -/
abbrev AnchorNames := List (String × Nat)

/-- What is left of the tokens, and the anchors so far. -/
structure State where
  tokens : List Token
  names : AnchorNames

abbrev Parsed (α : Type) := Option (α × State)

/-- Gives an anchor its number, which counts the names before it. -/
def nameAnchor (name : String) (names : AnchorNames) : Nat × AnchorNames :=
  (names.length, (name, names.length) :: names.filter fun n => n.1 ≠ name)

/-- The whole tag of a handle and a suffix. -/
def resolveTag (handles : Handles) (handle suffix : String) : Option String :=
  if handle.isEmpty then some suffix
  else (handles.lookup handle).map fun expansion => expansion ++ suffix

/-- The anchor and the tag in front of a node, in either order. -/
structure Properties where
  anchor : Option String
  tag : Option (String × String)

def properties : List Token → Properties × List Token
  | .anchor a :: .tag h s :: rest => (⟨some a, some (h, s)⟩, rest)
  | .tag h s :: .anchor a :: rest => (⟨some a, some (h, s)⟩, rest)
  | .anchor a :: rest => (⟨some a, none⟩, rest)
  | .tag h s :: rest => (⟨none, some (h, s)⟩, rest)
  | ts => (⟨none, none⟩, ts)

/-! ## Where nodes are left out -/

def endsEntry : List Token → Bool
  | .blockEntry :: _ | .blockEnd :: _ => true
  | _ => false

def endsMember : List Token → Bool
  | .key :: _ | .value :: _ | .blockEnd :: _ => true
  | _ => false

def endsFlowKey : List Token → Bool
  | .value :: _ | .flowEntry :: _ | .flowMappingEnd :: _ => true
  | _ => false

def endsFlowValue : List Token → Bool
  | .flowEntry :: _ | .flowMappingEnd :: _ => true
  | _ => false

def endsPairKey : List Token → Bool
  | .value :: _ | .flowEntry :: _ | .flowSequenceEnd :: _ => true
  | _ => false

def endsPairValue : List Token → Bool
  | .flowEntry :: _ | .flowSequenceEnd :: _ => true
  | _ => false

/-! ## Nodes -/

/-- A node of which only properties are there. -/
def omitted (p : Properties) (anchor : Option Nat) (tag : Option String) (s : State) :
    Parsed Node :=
  if p.anchor.isSome || p.tag.isSome then some (.scalar anchor tag "" .plain, s) else none

mutual

/-- A node; blocks and sequences without indentation only where they may stand. -/
def node : Nat → Handles → Bool → Bool → State → Parsed Node
  | 0, _, _, _, _ => none
  | fuel + 1, handles, inBlock, bare, s =>
    match s.tokens with
    | .alias name :: rest =>
      (s.names.lookup name).map fun n => (.alias n, { s with tokens := rest })
    | _ =>
      let (p, rest) := properties s.tokens
      let tag? : Option (Option String) :=
        match p.tag with
        | none => some none
        | some (h, suffix) => (resolveTag handles h suffix).map some
      match tag? with
      | none => none
      | some tag =>
        let (anchor, names) :=
          match p.anchor with
          | some name => let (n, names) := nameAnchor name s.names; (some n, names)
          | none => (none, s.names)
        let after : List Token → State := fun ts => ⟨ts, names⟩
        match rest with
        | .blockEntry :: _ =>
          if bare then
            (bareItems fuel handles (after rest)).map fun (xs, s) => (.sequence anchor xs, s)
          else omitted p anchor tag (after rest)
        | .scalar text style :: rest => some (.scalar anchor tag text style, after rest)
        | .flowSequence :: rest =>
          (flowItems fuel handles true (after rest)).map fun (xs, s) => (.sequence anchor xs, s)
        | .flowMapping :: rest =>
          (flowMembers fuel handles true (after rest)).map fun (ps, s) => (.mapping anchor ps, s)
        | .blockSequence :: more =>
          if inBlock then
            (blockItems fuel handles (after more)).map fun (xs, s) => (.sequence anchor xs, s)
          else omitted p anchor tag (after rest)
        | .blockMapping :: more =>
          if inBlock then
            (blockMembers fuel handles (after more)).map fun (ps, s) => (.mapping anchor ps, s)
          else omitted p anchor tag (after rest)
        | _ => omitted p anchor tag (after rest)

/-- A node, or an empty one where the next token ends its place. -/
def nodeUnless : Nat → Handles → Bool → Bool → Bool → State → Parsed Node
  | 0, _, _, _, _, _ => none
  | fuel + 1, handles, inBlock, bare, ended, s =>
    if ended then some (.empty, s) else node fuel handles inBlock bare s

def blockItems : Nat → Handles → State → Parsed (List Node)
  | 0, _, _ => none
  | fuel + 1, handles, s =>
    match s.tokens with
    | .blockEntry :: rest =>
      match nodeUnless fuel handles true false (endsEntry rest) { s with tokens := rest } with
      | some (x, s) => (blockItems fuel handles s).map fun (xs, s) => (x :: xs, s)
      | none => none
    | .blockEnd :: rest => some ([], { s with tokens := rest })
    | _ => none

/-- The items of a sequence at the margin of the mapping around it. -/
def bareItems : Nat → Handles → State → Parsed (List Node)
  | 0, _, _ => none
  | fuel + 1, handles, s =>
    match s.tokens with
    | .blockEntry :: rest =>
      let ended := endsEntry rest || endsMember rest
      match nodeUnless fuel handles true false ended { s with tokens := rest } with
      | some (x, s) => (bareItems fuel handles s).map fun (xs, s) => (x :: xs, s)
      | none => none
    | _ => some ([], s)

def blockMembers : Nat → Handles → State → Parsed (List (Node × Node))
  | 0, _, _ => none
  | fuel + 1, handles, s =>
    match s.tokens with
    | .key :: rest =>
      match nodeUnless fuel handles true true (endsMember rest) { s with tokens := rest } with
      | some (k, s) => memberValue fuel handles k s
      | none => none
    | .value :: _ => none
    | .blockEnd :: rest => some ([], { s with tokens := rest })
    | _ => none

/-- The value of a key, and the members behind it. -/
def memberValue : Nat → Handles → Node → State → Parsed (List (Node × Node))
  | 0, _, _, _ => none
  | fuel + 1, handles, k, s =>
    let value? : Parsed Node :=
      match s.tokens with
      | .value :: rest =>
        nodeUnless fuel handles true true (endsMember rest) { s with tokens := rest }
      | _ => some (.empty, s)
    match value? with
    | some (v, s) => (blockMembers fuel handles s).map fun (ps, s) => ((k, v) :: ps, s)
    | none => none

/-- Items up to the closing bracket; all but the first stand behind commas. -/
def flowItems : Nat → Handles → Bool → State → Parsed (List Node)
  | 0, _, _, _ => none
  | fuel + 1, handles, first, s =>
    match s.tokens with
    | .flowSequenceEnd :: rest => some ([], { s with tokens := rest })
    | ts =>
      let next? : Option (List Token) :=
        if first then some ts
        else
          match ts with
          | .flowEntry :: rest => some rest
          | _ => none
      match next? with
      | none => none
      | some (.flowSequenceEnd :: rest) => some ([], { s with tokens := rest })
      | some (.key :: rest) =>
        match flowPair fuel handles { s with tokens := rest } with
        | some (x, s) => (flowItems fuel handles false s).map fun (xs, s) => (x :: xs, s)
        | none => none
      | some ts =>
        match node fuel handles false false { s with tokens := ts } with
        | some (x, s) => (flowItems fuel handles false s).map fun (xs, s) => (x :: xs, s)
        | none => none

/-- A mapping of one member without braces. -/
def flowPair : Nat → Handles → State → Parsed Node
  | 0, _, _ => none
  | fuel + 1, handles, s =>
    let key? : Parsed Node :=
      if endsPairKey s.tokens then some (.empty, { s with tokens := s.tokens.drop 1 })
      else node fuel handles false false s
    match key? with
    | none => none
    | some (k, s) =>
      match s.tokens with
      | .value :: rest =>
        (nodeUnless fuel handles false false (endsPairValue rest) { s with tokens := rest }).map
          fun (v, s) => (.mapping none [(k, v)], s)
      | _ => some (.mapping none [(k, .empty)], s)

def flowMembers : Nat → Handles → Bool → State → Parsed (List (Node × Node))
  | 0, _, _, _ => none
  | fuel + 1, handles, first, s =>
    match s.tokens with
    | .flowMappingEnd :: rest => some ([], { s with tokens := rest })
    | ts =>
      let next? : Option (List Token) :=
        if first then some ts
        else
          match ts with
          | .flowEntry :: rest => some rest
          | _ => none
      match next? with
      | none => none
      | some (.flowMappingEnd :: rest) => some ([], { s with tokens := rest })
      | some (.key :: rest) =>
        match nodeUnless fuel handles false false (endsFlowKey rest) { s with tokens := rest } with
        | some (k, s) => flowValue fuel handles k s
        | none => none
      | some ts =>
        match node fuel handles false false { s with tokens := ts } with
        | some (k, s) =>
          (flowMembers fuel handles false s).map fun (ps, s) => ((k, .empty) :: ps, s)
        | none => none

def flowValue : Nat → Handles → Node → State → Parsed (List (Node × Node))
  | 0, _, _, _ => none
  | fuel + 1, handles, k, s =>
    let value? : Parsed Node :=
      match s.tokens with
      | .value :: rest =>
        nodeUnless fuel handles false false (endsFlowValue rest) { s with tokens := rest }
      | _ => some (.empty, s)
    match value? with
    | some (v, s) => (flowMembers fuel handles false s).map fun (ps, s) => ((k, v) :: ps, s)
    | none => none

end

end Node

/-! ## Documents -/

/-- Handles that need no directive. -/
def standardHandles : Node.Handles :=
  [("!", "!"), ("!!", "tag:yaml.org,2002:")]

/-- The handles that the directives in front of a document declare, and the tokens behind them. -/
def directives (versioned : Bool) (handles : Node.Handles) :
    List Token → Option (Node.Handles × List Token)
  | .version major minor :: rest =>
    if versioned || major ≠ 1 || !(minor == 1 || minor == 2) then none
    else directives true handles rest
  | .handle name expansion :: rest =>
    if (handles.lookup name).isSome then none
    else directives versioned (handles ++ [(name, expansion)]) rest
  | ts => some (handles ++ standardHandles, ts)

def beginsDocument : List Token → Bool
  | .version _ _ :: _ | .handle _ _ :: _ | .documentStart :: _ => true
  | _ => false

/-- Whether the content of a document is left out. -/
def endsContent : List Token → Bool
  | [] | .version _ _ :: _ | .handle _ _ :: _ | .documentStart :: _ | .documentEnd :: _ => true
  | _ => false

/-- Whether nothing but ends of documents is left. -/
def endsStream (ts : List Token) : Bool :=
  ts.all (· == .documentEnd)

/-- The content of a stream of one document, or nothing for a stream without any. -/
def document? (ts : List Token) : Option (Option Node) :=
  let fuel := 4 * ts.length + 4
  let finished : Node.Parsed Node → Option (Option Node)
    | some (n, s) => if endsStream s.tokens then some (some n) else none
    | none => none
  if ts.isEmpty then some none
  else if beginsDocument ts then
    match directives false [] ts with
    | some (handles, .documentStart :: rest) =>
      finished (Node.nodeUnless fuel handles true false (endsContent rest) ⟨rest, []⟩)
    | _ => none
  else finished (Node.node fuel standardHandles true false ⟨ts, []⟩)

/-- Reads a stream of at most one document. -/
def read? (text : String) : Option (Option Node) :=
  (tokens? text.toList).bind document?

end TestForge.Yaml
