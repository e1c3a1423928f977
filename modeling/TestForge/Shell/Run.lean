import TestForge.Shell.Machine

/-!
# Running scripts

Commands run one after the other on the state of the script. The number of nested steps is limited,
and a script that needs more counts as one that does not end.
-/

namespace TestForge.Shell

namespace Machine

/-! ## Commands of the shell itself -/

/-- The status an argument names, or the last one. -/
def statusFrom (m : Machine) (arguments : List String) : Nat :=
  match arguments.head? with
  | some n => (numberOf n).toNat % 256
  | none => m.status

def changeDirectory (m : Machine) (path : String) : Machine :=
  match m.files.canonical path with
  | .ok place =>
    if m.files.isDirectory path then
      { m with files := { m.files with workingDirectory := place }, status := 0 }
    else m.complain 2 ("cd: can't cd to " ++ path)
  | .error _ => m.complain 2 ("cd: can't cd to " ++ path)

def setOptions (m : Machine) : List String → Machine
  | "--" :: rest => { m with arguments := rest }
  | arg :: rest =>
    match arg.toList with
    | '-' :: cs => { m with stopsOnFailure := m.stopsOnFailure || cs.contains 'e' }.setOptions rest
    | '+' :: cs => { m with stopsOnFailure := m.stopsOnFailure && !cs.contains 'e' }.setOptions rest
    | _ => { m with arguments := arg :: rest }
  | [] => m

/-- Gives the words of a line to names, all that is left to the last. -/
def giveWords (m : Machine) (separators : List Char) : List String → List Char → Machine
  | [], _ => m
  | [name], line =>
    let blank (c : Char) := isFieldBlank c && separators.contains c
    m.set name (String.ofList ((line.dropWhile blank).reverse.dropWhile blank).reverse)
  | name :: names, line =>
    let blank (c : Char) := isFieldBlank c && separators.contains c
    let line := line.dropWhile blank
    let rest := (line.dropWhile (!separators.contains ·)).dropWhile blank
    let rest := if rest.head?.any separators.contains then rest.drop 1 else rest
    (m.set name (String.ofList (line.takeWhile (!separators.contains ·)))).giveWords separators
      names rest

def readLine (m : Machine) (names : List String) : Machine :=
  let names := names.filter (· ≠ "-r")
  match m.takeLine with
  | (some line, m) => (m.giveWords m.separators names line.toList).done 0
  | (none, m) => (m.giveWords m.separators names []).done 1

def loopCount (arguments : List String) : Nat :=
  ((arguments.head?.map fun n => (numberOf n).toNat).getD 1) - 1

/-- What a command of the shell itself does to the state. -/
def builtin? (m : Machine) (name : String) (arguments : List String) : Option Machine :=
  match name with
  | ":" | "umask" | "wait" => some (m.done 0)
  | "trap" =>
    some (match arguments with
      | [action, "EXIT"] | [action, "0"] =>
        { m with onExit := if action = "-" then "" else action, status := 0 }
      | _ => m.done 0)
  | "exit" => some { m with status := m.statusFrom arguments, flow := .exit }
  | "return" => some { m with status := m.statusFrom arguments, flow := .return }
  | "break" => some { m with status := 0, flow := .leave (loopCount arguments) }
  | "continue" => some { m with status := 0, flow := .next (loopCount arguments) }
  | "cd" => some (m.changeDirectory (arguments.head?.getD "/"))
  | "pwd" =>
    some ((m.print (textBytes (m.workingDirectoryName ++ "\n"))).done 0)
  | "export" => some ((arguments.foldl expose m).done 0)
  | "readonly" | "local" => some ((arguments.foldl assign m).done 0)
  | "unset" => some ((arguments.foldl unset m).done 0)
  | "shift" =>
    some { m with arguments := m.arguments.drop (loopCount arguments + 1), status := 0 }
  | "set" => some ((m.setOptions arguments).done 0)
  | "read" => some (m.readLine arguments)
  | "sleep" => some (m.sleep arguments)
  | "kill" =>
    some (if arguments.getLast? = some processNumber then { m with status := 137, flow := .killed }
      else m.done 0)
  | _ => none

/-! ## Redirections -/

def sinkOf (m : Machine) (descriptor : Nat) : Sink :=
  if descriptor = 2 then m.err else m.out

def withSink (m : Machine) (descriptor : Nat) (sink : Sink) : Machine :=
  match descriptor with
  | 1 => { m with out := sink }
  | 2 => { m with err := sink }
  | _ => m

/-- Opens a file to be written, emptied or as it is. -/
def openFile (m : Machine) (path : String) (keep : Bool) : Except FileError (FileSystem × Sink) :=
  if path = nullDevice then .ok (m.files, .nowhere)
  else if path = "/dev/stdout" then .ok (m.files, m.out)
  else if path = "/dev/stderr" then .ok (m.files, m.err)
  else
    let opened := if keep && m.files.exists? path then .ok m.files
      else m.files.writeBytes path ⟨#[]⟩
    match opened with
    | .error e => .error e
    | .ok files =>
      match files.resolve path true with
      | .ok place => .ok (files, .file place)
      | .error e => .error e

/-- One redirection to an expanded target, or a complaint. -/
def redirect (m : Machine) (descriptor : Nat) (direction : Direction) (target : String) :
    Except Machine Machine :=
  match direction with
  | .duplicate =>
    if target = "-" then .ok (m.withSink descriptor .nowhere)
    else .ok (m.withSink descriptor (m.sinkOf ((numberOf target).toNat)))
  | .read =>
    match fileBytes m.files target with
    | .ok bytes => .ok { m with input := bytes }
    | .error _ => .error (m.complain 2 ("cannot open " ++ target ++ ": No such file"))
  | .text => .ok { m with input := textBytes target }
  | .write | .append =>
    match m.openFile target (direction == .append) with
    | .ok (files, sink) => .ok ({ m with files := files }.withSink descriptor sink)
    | .error _ =>
      .error (m.complain 2 ("cannot create " ++ target ++ ": Directory nonexistent"))

/-! ## Programs in files -/

/-- The interpreter a script names in its first line, with its argument. -/
def interpreter? (bytes : List UInt8) : Option (String × List String) :=
  match bytes with
  | 35 :: 33 :: rest =>
    let line := Text.ofBytes ⟨(rest.takeWhile (· ≠ 10)).toArray⟩
    match blankWords line.toList with
    | program :: arguments => some (program, arguments)
    | [] => none
  | _ => none

/-- Shells by the path of their program, and whether their `echo` reads escapes. -/
def shellOf? (program : String) (arguments : List String) : Option Bool :=
  match program, arguments with
  | "/bin/sh", _ | "/usr/bin/sh", _ | "/bin/dash", _ | "/usr/bin/dash", _ => some true
  | "/bin/bash", _ | "/usr/bin/bash", _ => some false
  | "/usr/bin/env", "sh" :: _ | "/bin/env", "sh" :: _ => some true
  | "/usr/bin/env", "bash" :: _ | "/bin/env", "bash" :: _ => some false
  | _, _ => none

/-- The options in front of arguments that the line naming the interpreter gives. -/
def interpreterOptions (arguments : List String) : List String :=
  arguments.filter isOption

/-- Whether a loop ends after its body, and the state behind the body. -/
def afterRound (m : Machine) : Bool × Machine :=
  match m.flow with
  | .onward => (false, m)
  | .next 0 => (false, { m with flow := .onward })
  | .leave 0 => (true, { m with flow := .onward })
  | .next (n + 1) => (true, { m with flow := .next n })
  | .leave (n + 1) => (true, { m with flow := .leave n })
  | _ => (true, m)

def unlessFailed (m : Machine) (guarded : Bool) : Machine :=
  if m.stopsOnFailure && !guarded && m.status ≠ 0 && m.flow = .onward then
    { m with flow := .exit }
  else m

/-- The shell itself in the place of a command, so that redirections stay. -/
def isShellItself : Command → Bool
  | .simple [] [[.literal "exec" false]] => true
  | _ => false

/-! ## Variables that programs see -/

def environmentText (m : Machine) : List UInt8 :=
  m.environment.flatMap fun (name, value) => textBytes (name ++ "=" ++ value ++ "\n")

/-- Prints one of the variables that programs see, or all of them. -/
def printEnvironment (m : Machine) : List String → Machine
  | [] => (m.print m.environmentText).done 0
  | name :: _ =>
    match m.environment.lookup name with
    | some value => (m.print (textBytes (value ++ "\n"))).done 0
    | none => m.done 1

/-- Commands that are part of the shell. -/
def isPartOfShell (name : String) : Bool :=
  [":", ".", "break", "cd", "command", "continue", "echo", "eval", "exec", "exit", "export", "false",
    "kill", "local", "printf", "pwd", "read", "readonly", "return", "set", "shift", "test", "trap",
    "true", "umask", "unset", "wait", "["].contains name

/-- Prints what a name stands for as a command. -/
def printCommand (m : Machine) (name : String) : Machine :=
  if isPartOfShell name || (m.functions.lookup name).isSome then
    (m.print (textBytes (name ++ "\n"))).done 0
  else if (utility? m.escapes name).isSome then
    (m.print (textBytes ("/usr/bin/" ++ name ++ "\n"))).done 0
  else m.done 127

def isSubstitution : Part → Bool
  | .substitution _ _ => true
  | _ => false

/-! ## Running -/

mutual

/-- The pieces of a word. -/
def pieces : Nat → Machine → Word → List Piece × Machine
  | 0, m, _ => ([], { m with flow := .endless })
  | _ + 1, m, [] => ([], m)
  | fuel + 1, m, part :: rest =>
    let (ps, m) := pieceOf fuel m part
    let (qs, m) := pieces fuel m rest
    (ps ++ qs, m)

def pieceOf : Nat → Machine → Part → List Piece × Machine
  | 0, m, _ => ([], { m with flow := .endless })
  | fuel + 1, m, part =>
    match part with
    | .literal text quoted => ([.text text quoted], m)
    | .arithmetic expression quoted =>
      let n := calculate (fun name => (m.value? name).getD "") expression
      ([.text (toString n) quoted], m)
    | .substitution script quoted =>
      match parse? script with
      | none => ([], m.complain 2 "Syntax error")
      | some commands =>
        let inner := runList fuel false m.capturing commands
        let bytes := (m.captured inner).reverse.dropWhile (· = 10)
        ([.text (Text.ofBytes ⟨bytes.reverse.toArray⟩) quoted], m.rejoin inner)
    | .parameter name modifier quoted =>
      match modifier with
      | .none =>
        if name = "@" && quoted then
          ((m.arguments.map fun a => Piece.text a true).intersperse .border, m)
        else ([.text ((m.value? name).getD "") quoted], m)
      | .length => ([.text (toString ((m.value? name).getD "").length) quoted], m)
      | .fallback text orEmpty =>
        match m.present? name orEmpty with
        | some value => ([.text value quoted], m)
        | none => pieces fuel m (modifierWord text quoted)
      | .initial text orEmpty =>
        match m.present? name orEmpty with
        | some value => ([.text value quoted], m)
        | none =>
          let (ps, m) := pieces fuel m (modifierWord text quoted)
          ([.text (plainText ps) quoted], m.set name (plainText ps))
      | .instead text orEmpty =>
        match m.present? name orEmpty with
        | some _ => pieces fuel m (modifierWord text quoted)
        | none => ([], m)
      | .required text orEmpty =>
        match m.present? name orEmpty with
        | some value => ([.text value quoted], m)
        | none =>
          let (ps, m) := pieces fuel m (modifierWord text true)
          let message := if ps.isEmpty then "parameter not set" else plainText ps
          ([], { m.complain 2 (name ++ ": " ++ message) with flow := .exit })
      | .without pattern atStart longest =>
        let (ps, m) := pieces fuel m (modifierWord pattern false)
        let value := ((m.value? name).getD "").toList
        let rest :=
          if atStart then dropAtStart (markedChars ps) longest value
          else dropAtEnd (markedChars ps) longest value
        ([.text (String.ofList rest) quoted], m)

/-- The fields of words. -/
def fields : Nat → Machine → List Word → List String × Machine
  | 0, m, _ => ([], { m with flow := .endless })
  | _ + 1, m, [] => ([], m)
  | fuel + 1, m, word :: rest =>
    if m.arguments.isEmpty && word = [.literal "" true, .parameter "@" .none true] then
      fields fuel m rest
    else
      let (ps, m) := pieces fuel m word
      let (more, m) := fields fuel m rest
      (m.argumentsOf ps ++ more, m)

def assignAll : Nat → Machine → List (String × Word) → Machine
  | 0, m, _ => { m with flow := .endless }
  | _ + 1, m, [] => m
  | fuel + 1, m, (name, word) :: rest =>
    let (ps, m) := pieces fuel m word
    assignAll fuel (m.set name (plainText ps)) rest

/-- The state with all redirections, or the one with a complaint. -/
def redirectAll : Nat → Machine → List Redirection → Except Machine Machine
  | 0, m, _ => .error { m with flow := .endless }
  | _ + 1, m, [] => .ok m
  | fuel + 1, m, r :: rest =>
    let (ps, m) := pieces fuel m r.target
    match m.redirect r.descriptor r.direction (plainText ps) with
    | .ok m => redirectAll fuel m rest
    | .error m => .error m

/-- Commands in order, until one changes the flow. -/
def runList : Nat → Bool → Machine → List Command → Machine
  | 0, _, m, _ => { m with flow := .endless }
  | _ + 1, _, m, [] => m
  | fuel + 1, guarded, m, c :: rest =>
    let m := run fuel guarded m c
    if m.flow = .onward then runList fuel guarded m rest else m

/-- One command; a guarded one may fail under `set -e`. -/
def run : Nat → Bool → Machine → Command → Machine
  | 0, _, m, _ => { m with flow := .endless }
  | fuel + 1, guarded, m, command =>
    match command with
    | .simple assignments words =>
      let (arguments, m) := fields fuel m words
      if m.flow ≠ .onward then m
      else match arguments with
      | [] =>
        let substitutes := (assignments.any fun a => a.2.any isSubstitution) ||
          words.any (·.any isSubstitution)
        let m := assignAll fuel (if substitutes then m else m.done 0) assignments
        m.unlessFailed guarded
      | name :: arguments =>
        if assignments.isEmpty then (invoke fuel m name arguments).unlessFailed guarded
        else
          let names := assignments.map (·.1)
          let inner := assignAll fuel m assignments
          let after := invoke fuel { inner with exported := names ++ m.exported } name arguments
          (after.restore m names).unlessFailed guarded
    | .redirected body redirections =>
      match redirectAll fuel m redirections with
      | .error failed =>
        { failed with out := m.out, err := m.err, input := m.input }.unlessFailed guarded
      | .ok opened =>
        if isShellItself body then opened.done 0
        else
          let inner := run fuel guarded opened body
          { inner with out := m.out, err := m.err, input := m.input }
    | .pipeline parts => (runPipe fuel m m.input parts).unlessFailed guarded
    | .negated body =>
      let m := run fuel true m body
      if m.flow = .onward then m.done (if m.status = 0 then 1 else 0) else m
    | .both first second =>
      let m := run fuel true m first
      if m.flow = .onward && m.status = 0 then run fuel guarded m second else m
    | .either first second =>
      let m := run fuel true m first
      if m.flow = .onward && m.status ≠ 0 then run fuel guarded m second else m
    | .group body => runList fuel guarded m body
    | .subshell body => (m.rejoin (runList fuel guarded m body)).unlessFailed guarded
    | .choice condition yes no =>
      let m := runList fuel true m condition
      if m.flow ≠ .onward then m
      else if m.status = 0 then runList fuel guarded (m.done 0) yes
      else runList fuel guarded (m.done 0) no
    | .cases subject arms =>
      let (ps, m) := pieces fuel m subject
      runArm fuel guarded (m.done 0) (plainText ps) arms
    | .each name words body =>
      let (values, m) := fields fuel m words
      runEach fuel guarded (m.done 0) name values body
    | .loop wanted condition body => runLoop fuel guarded m 0 wanted condition body
    | .definition name body =>
      { m with functions := (name, body) :: m.functions, status := 0 }

/-- Each part reads what the one before printed; only their files and status stay. -/
def runPipe : Nat → Machine → List UInt8 → List Command → Machine
  | 0, m, _, _ => { m with flow := .endless }
  | _ + 1, m, _, [] => m
  | fuel + 1, m, input, [c] => m.rejoin (run fuel false { m with input := input } c)
  | fuel + 1, m, input, c :: rest =>
    let inner := run fuel false { m.capturing with input := input } c
    let joined := m.rejoin inner
    if joined.flow = .onward then runPipe fuel joined (m.captured inner) rest else joined

/-- The commands of the first arm with a pattern that matches. -/
def runArm : Nat → Bool → Machine → String → List (List Word × List Command) → Machine
  | 0, _, m, _, _ => { m with flow := .endless }
  | _ + 1, _, m, _, [] => m
  | fuel + 1, guarded, m, _, ([], _) :: [] => runList fuel guarded m []
  | fuel + 1, guarded, m, subject, ([], _) :: rest => runArm fuel guarded m subject rest
  | fuel + 1, guarded, m, subject, (word :: words, body) :: rest =>
    let (ps, m) := pieces fuel m word
    if patternMatches (markedChars ps) subject then runList fuel guarded m body
    else runArm fuel guarded m subject ((words, body) :: rest)

def runEach : Nat → Bool → Machine → String → List String → List Command → Machine
  | 0, _, m, _, _, _ => { m with flow := .endless }
  | _ + 1, _, m, _, [], _ => m
  | fuel + 1, guarded, m, name, value :: values, body =>
    match (runList fuel guarded (m.set name value) body).afterRound with
    | (true, m) => m
    | (false, m) => runEach fuel guarded m name values body

/-- Rounds while the condition is as wanted; the status is that of the last round. -/
def runLoop : Nat → Bool → Machine → Nat → Bool → List Command → List Command → Machine
  | 0, _, m, _, _, _, _ => { m with flow := .endless }
  | fuel + 1, guarded, m, last, wanted, condition, body =>
    let m := runList fuel true m condition
    if m.flow ≠ .onward then m
    else if (m.status == 0) != wanted then m.done last
    else
      match (runList fuel guarded m body).afterRound with
      | (true, m) => m
      | (false, m) => runLoop fuel guarded m m.status wanted condition body

/-- A command by its name: a function, one of the shell, a utility or a script in a file. -/
def invoke : Nat → Machine → String → List String → Machine
  | 0, m, _, _ => { m with flow := .endless }
  | fuel + 1, m, name, arguments =>
    match m.functions.lookup name with
    | some body =>
      let inner := run fuel false { m with arguments := arguments } body
      let flow := if inner.flow = .return then .onward else inner.flow
      { inner with arguments := m.arguments, flow := flow }
    | none =>
      match m.builtin? name arguments with
      | some m => m
      | none =>
        match name, arguments with
        | "eval", _ => runText fuel m (" ".intercalate arguments)
        | ".", path :: _ =>
          match m.files.readText path with
          | .ok text => runText fuel m text
          | .error _ =>
            { m.complain 2 (".: cannot open " ++ path ++ ": No such file") with flow := .exit }
        | "command", "-v" :: names => m.printCommand (names.head?.getD "")
        | "command", name :: arguments => invoke fuel m name arguments
        | "env", _ =>
          let inner := (arguments.takeWhile (·.contains '=')).foldl expose m
          let after :=
            match arguments.dropWhile (·.contains '=') with
            | [] => inner.printEnvironment []
            | name :: arguments => invoke fuel inner name arguments
          { after with bindings := m.bindings, exported := m.exported }
        | "printenv", _ => m.printEnvironment arguments
        | "exec", name :: arguments =>
          let m := invoke fuel m name arguments
          { m with flow := if m.flow = .onward then .exit else m.flow }
        | "sh", "-c" :: script :: rest =>
          let inner := { m.forProgram with name := rest.head?.getD "sh", arguments := rest.drop 1 }
          m.rejoin (runText fuel { inner with escapes := true } script)
        | "bash", "-c" :: script :: rest =>
          let inner :=
            { m.forProgram with name := rest.head?.getD "bash", arguments := rest.drop 1 }
          m.rejoin (runText fuel { inner with escapes := false } script)
        | "sh", path :: arguments => runFile fuel m path arguments true
        | "bash", path :: arguments => runFile fuel m path arguments false
        | _, _ =>
          match utility? m.escapes name with
          | some u => m.use u arguments
          | none =>
            if name.toList.contains '/' then
              match installedName? name with
              | some inner =>
                if ["env", "printenv", "sh", "bash", "sleep"].contains inner then
                  invoke fuel m inner arguments
                else
                  match utility? false inner with
                  | some u => m.use u arguments
                  | none => runProgram fuel m name arguments
              | none => runProgram fuel m name arguments
            else m.complain 127 (name ++ ": not found")

def runText : Nat → Machine → String → Machine
  | 0, m, _ => { m with flow := .endless }
  | fuel + 1, m, script =>
    match parse? script with
    | some commands => runList fuel false (m.done 0) commands
    | none => { m.complain 2 "Syntax error" with flow := .exit }

/-- A script in a file, run on its own. -/
def runFile : Nat → Machine → String → List String → Bool → Machine
  | 0, m, _, _, _ => { m with flow := .endless }
  | fuel + 1, m, path, arguments, escapes =>
    match m.files.readText path with
    | .ok text =>
      m.rejoin (runText fuel
        { m.forProgram with name := path, arguments := arguments, escapes := escapes } text)
    | .error _ => m.complain 2 ("cannot open " ++ path ++ ": No such file")

/-- A program by its path. -/
def runProgram : Nat → Machine → String → List String → Machine
  | 0, m, _, _ => { m with flow := .endless }
  | fuel + 1, m, path, arguments =>
    match m.files.status path with
    | .ok (.file content true) =>
      match interpreter? content.toList with
      | some (program, options) =>
        match shellOf? program options with
        | some escapes => runFile fuel m path arguments escapes
        | none => m.complain 127 (path ++ ": not found")
      | none => runFile fuel m path arguments true
    | .ok _ => m.complain 126 (path ++ ": Permission denied")
    | .error _ => m.complain 127 (path ++ ": not found")

end

end Machine

/-! ## Whole scripts -/

/-- How a script ends. -/
structure Ending where
  status : Nat
  output : List UInt8
  errors : List UInt8
  files : FileSystem
  /-- Whether it ends before its time is over. -/
  inTime : Bool

/-- How many steps may be nested. -/
def stepLimit : Nat := 20000

def startOf (files : FileSystem) (name : String) (arguments : List String)
    (environment : List (String × String)) (seconds : Nat) : Machine :=
  { files := files, bindings := environment, exported := environment.map (·.1), functions := [],
    name := name, arguments := arguments, status := 0, input := [], buffers := [[], []],
    out := .buffer 0, err := .buffer 1, flow := .onward, stopsOnFailure := false, onExit := "",
    escapes := true, seconds := seconds }

/-- The state after what runs when the script ends, whose status counts only if it exits. -/
def Machine.finished (m : Machine) : Machine :=
  match m.flow with
  | .killed => m
  | .endless => m
  | _ =>
    if m.onExit.isEmpty then m
    else
      let last := { m with flow := .onward, onExit := "" }.runText stepLimit m.onExit
      { last with status := if last.flow = .exit then last.status else m.status }

def Machine.ending (m : Machine) : Ending :=
  { status := m.status
    output := (m.buffers[0]?).getD []
    errors := (m.buffers[1]?).getD []
    files := m.files
    inTime := m.flow ≠ .endless }

/-- Runs a script under a name and with arguments, with nothing to read. -/
def runScript (escapes : Bool) (options : List String) (files : FileSystem) (name : String)
    (arguments : List String) (environment : List (String × String)) (seconds : Nat)
    (script : String) : Ending :=
  let m := { startOf files name arguments environment seconds with escapes := escapes }
  let m := { m.setOptions options with arguments := arguments }
  (m.runText stepLimit script).finished.ending

end TestForge.Shell
