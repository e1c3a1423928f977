import TestForge.Shell.Lines
import TestForge.Shell.Pattern

/-!
# Utilities

The commands a script finds outside the shell: printing, copying, translating, names and conditions.
-/

namespace TestForge.Shell

open TestForge.Text

/-! ## Printing -/

def echo (escapes : Bool) : Utility := fun call =>
  let bare := call.arguments.head? = some "-n"
  let text := String.intercalate " " (if bare then call.arguments.drop 1 else call.arguments)
  let (bytes, cut) :=
    if escapes then unescaped (text.length + 1) text.toList else (textBytes text, false)
  call.answer (if bare || cut then bytes else endLine bytes)

def pad (left zero : Bool) (width : Nat) (bytes : List UInt8) : List UInt8 :=
  let missing := width - bytes.length
  if left then bytes ++ List.replicate missing 32
  else if zero then
    match bytes with
    | 45 :: digits => 45 :: (List.replicate missing 48 ++ digits)
    | _ => List.replicate missing 48 ++ bytes
  else List.replicate missing 32 ++ bytes

/-- One pass over a format; some arguments may be left. -/
def formatted : Nat → List Char → List String → List UInt8 × List String × Bool
  | 0, _, args => ([], args, false)
  | _ + 1, [], args => ([], args, false)
  | fuel + 1, c :: cs, args =>
    let after (bytes : List UInt8) (rest : List Char) (args : List String) :=
      let (more, left, cut) := formatted fuel rest args
      (bytes ++ more, left, cut)
    if c = '\\' then
      match cs with
      | 'c' :: _ => ([], args, true)
      | _ => let (bytes, rest) := escapeAt cs; after bytes rest args
    else if c = '%' then
      let flags := cs.takeWhile fun f => ['-', '0', '+', ' ', '#'].contains f
      let rest := cs.drop flags.length
      let width := rest.takeWhile Char.isDigit
      let rest := rest.drop width.length
      let precise := rest.head? = some '.'
      let rest := if precise then rest.drop 1 else rest
      let precision := if precise then rest.takeWhile Char.isDigit else []
      let rest := rest.drop precision.length
      let cap := (String.ofList precision).toNat?.getD 0
      let value := args.head?.getD ""
      let left := flags.contains '-'
      let zero := flags.contains '0' && !left
      let put (zero : Bool) (bytes : List UInt8) :=
        pad left zero ((String.ofList width).toNat?.getD 0) bytes
      match rest with
      | '%' :: rest => after [37] rest args
      | 's' :: rest =>
        let bytes := textBytes value
        after (put false (if precise then bytes.take cap else bytes)) rest (args.drop 1)
      | 'b' :: rest =>
        let (bytes, cut) := unescaped (value.length + 1) value.toList
        if cut then (put false bytes, args.drop 1, true)
        else after (put false bytes) rest (args.drop 1)
      | 'c' :: rest => after (put false ((textBytes value).take 1)) rest (args.drop 1)
      | 'd' :: rest | 'i' :: rest | 'u' :: rest =>
        let n := numberOf value
        let sign := if n ≥ 0 && flags.contains '+' then "+" else ""
        after (put zero (textBytes (sign ++ toString n))) rest (args.drop 1)
      | 'x' :: rest =>
        after (put zero ((Nat.toDigits 16 (numberOf value).toNat).flatMap charBytes)) rest
          (args.drop 1)
      | 'o' :: rest =>
        after (put zero ((Nat.toDigits 8 (numberOf value).toNat).flatMap charBytes)) rest
          (args.drop 1)
      | _ => after [37] cs args
    else after (charBytes c) cs args

/-- Goes over a format again while arguments are left and a pass uses some. -/
def formattedAll (format : List Char) : Nat → List String → List UInt8
  | 0, _ => []
  | fuel + 1, args =>
    let (bytes, left, cut) := formatted (format.length + 1) format args
    if cut || left.isEmpty || left.length = args.length then bytes
    else bytes ++ formattedAll format fuel left

def printFormatted : Utility := fun call =>
  match (if call.arguments.head? = some "--" then call.arguments.drop 1 else call.arguments) with
  | format :: args => call.answer (formattedAll format.toList (args.length + 1) args)
  | [] => call.complain 2 "printf: usage: printf format [arg ...]"

/-! ## Bytes -/

def cat : Utility := fun call =>
  let (bytes, errors) := gatherAll "cat" call (letters call.arguments).2
  ⟨if errors.isEmpty then 0 else 1, bytes, errors, call.files⟩

/-- The bytes of a set of characters, with ranges spelled out. -/
def setBytes : List UInt8 → List UInt8
  | a :: 45 :: b :: rest =>
    (List.range (b.toNat + 1 - a.toNat)).map (fun i => a + UInt8.ofNat i) ++ setBytes rest
  | a :: rest => a :: setBytes rest
  | [] => []

def escapedBytes : Nat → List Char → List UInt8
  | 0, _ => []
  | _ + 1, [] => []
  | fuel + 1, '\\' :: cs =>
    let (bytes, rest) := escapeAt cs
    bytes ++ escapedBytes fuel rest
  | fuel + 1, c :: cs => charBytes c ++ escapedBytes fuel cs

def setOf (s : String) : List UInt8 :=
  match s with
  | "[:upper:]" => setBytes (textBytes "A-Z")
  | "[:lower:]" => setBytes (textBytes "a-z")
  | "[:digit:]" => setBytes (textBytes "0-9")
  | "[:space:]" => [9, 10, 11, 12, 13, 32]
  | _ => setBytes (escapedBytes (s.length + 1) s.toList)

/-- The byte at the same place of the second set, whose last one stands for all behind it. -/
def translated (source target : List UInt8) (b : UInt8) : UInt8 :=
  match source.idxOf? b with
  | some i => (target[i]?.or target.getLast?).getD b
  | none => b

def translate : Utility := fun call =>
  match letters call.arguments with
  | (['d'], [unwanted]) =>
    let unwanted := setOf unwanted
    call.answer (call.input.filter fun b => !unwanted.contains b)
  | ([], [source, target]) =>
    let source := setOf source
    let target := setOf target
    call.answer (call.input.map (translated source target))
  | _ => call.complain 1 "tr: missing operand"

/-! ## Path names -/

def dropSlashesAtEnd (s : List Char) : List Char :=
  (s.reverse.dropWhile (· == '/')).reverse

/-- The last name of a path, without an ending if it is given. -/
def baseName : Utility := fun call =>
  match call.arguments with
  | path :: more =>
    let bare := dropSlashesAtEnd path.toList
    let name := (bare.reverse.takeWhile (· ≠ '/')).reverse
    let ending := (more.head?.getD "").toList
    let name :=
      if name ≠ ending && name.drop (name.length - ending.length) = ending then
        name.take (name.length - ending.length)
      else name
    let name := if bare.isEmpty && !path.isEmpty then ['/'] else name
    call.answer (textBytes (String.ofList name ++ "\n"))
  | [] => call.complain 1 "basename: missing operand"

def directoryName : Utility := fun call =>
  match call.arguments with
  | path :: _ =>
    let bare := dropSlashesAtEnd path.toList
    let up := bare.reverse.dropWhile (· ≠ '/')
    let name :=
      if up.isEmpty then (if bare.isEmpty && !path.isEmpty then "/" else ".")
      else
        let directory := dropSlashesAtEnd up.reverse
        if directory.isEmpty then "/" else String.ofList directory
    call.answer (textBytes (name ++ "\n"))
  | [] => call.complain 1 "dirname: missing operand"

/-! ## Changing files -/

def makeDirectory : Utility := fun call =>
  let (options, paths) := letters call.arguments
  let act (fs : FileSystem) (path : String) : Except FileError FileSystem :=
    if options.contains 'p' then
      match fs.createDirectories path with
      | (.ok (), made) => .ok made
      | (.error e, _) => .error e
    else fs.createDirectory path
  eachPath (fun p => "mkdir: cannot create directory '" ++ p ++ "'") act call paths

def touch : Utility := fun call =>
  let act (fs : FileSystem) (path : String) : Except FileError FileSystem :=
    if fs.exists? path then .ok fs else fs.writeBytes path ⟨#[]⟩
  eachPath (fun p => "touch: cannot touch '" ++ p ++ "'") act call (letters call.arguments).2

/-- Removes a path and, if asked to, all below it. -/
def removeTree (fs : FileSystem) (recursive force : Bool) (path : String) :
    Except FileError FileSystem :=
  match fs.removeFile path with
  | .ok fs => .ok fs
  | .error .isDirectory =>
    if recursive then
      match fs.resolve path false with
      | .ok place =>
        .ok { fs with entries := fs.entries.filter fun e =>
          (FileSystem.below? place e.1).isNone }
      | .error e => .error e
    else .error .isDirectory
  | .error .notFound => if force then .ok fs else .error .notFound
  | .error e => .error e

def remove : Utility := fun call =>
  let (options, paths) := letters call.arguments
  let recursive := options.contains 'r' || options.contains 'R'
  eachPath (fun p => "rm: cannot remove '" ++ p ++ "'")
    (fun fs path => removeTree fs recursive (options.contains 'f') path) call paths

/-- Where a copy goes: into a directory under the old name. -/
def destination (fs : FileSystem) (source target : String) : String :=
  if fs.isDirectory target then
    Path.join target (String.ofList ((Path.fileName? source.toList).getD []))
  else target

def copyTo (keep : Bool) : Utility := fun call =>
  match (letters call.arguments).2 with
  | [source, target] =>
    let written : Except FileError FileSystem :=
      match call.files.readBytes source with
      | .ok bytes =>
        match call.files.writeBytes (destination call.files source target) bytes with
        | .ok fs => if keep then .ok fs else fs.removeFile source
        | .error e => .error e
      | .error e => .error e
    match written with
    | .ok fs => { call.quiet 0 with files := fs }
    | .error e =>
      call.complain 1 ((if keep then "cp" else "mv") ++ ": cannot stat '" ++ source ++ "': " ++
        e.text)
  | _ => call.complain 1 ((if keep then "cp" else "mv") ++ ": missing file operand")

/-- Makes files executable, or no longer. -/
def changeMode : Utility := fun call =>
  match call.arguments with
  | mode :: paths =>
    let on := mode.toList.contains '+' || mode = "755" || mode = "777" || mode = "700"
    let act (fs : FileSystem) (path : String) : Except FileError FileSystem :=
      match fs.canonical path with
      | .error e => .error e
      | .ok place =>
        match fs.get? place with
        | some (.file content _) => .ok (fs.put place (.file content on))
        | _ => .ok fs
    eachPath (fun p => "chmod: cannot access '" ++ p ++ "'") act call paths
  | [] => call.complain 1 "chmod: missing operand"

/-- Puts a link to a target at a path. -/
def link : Utility := fun call =>
  match letters call.arguments with
  | (_, [target, path]) =>
    match call.files.resolve path false with
    | .ok place =>
      if (call.files.get? place).isSome then
        call.complain 1 ("ln: failed to create symbolic link '" ++ path ++ "': " ++
          FileError.exists.text)
      else { call.quiet 0 with files := call.files.put place (.link target) }
    | .error e =>
      call.complain 1 ("ln: failed to create symbolic link '" ++ path ++ "': " ++ e.text)
  | _ => call.complain 1 "ln: missing file operand"

/-- Copies the input to files as well. -/
def tee : Utility := fun call =>
  let (options, paths) := letters call.arguments
  let act (fs : FileSystem) (path : String) : Except FileError FileSystem :=
    let old :=
      if options.contains 'a' then (fs.readBytes path).toOption.getD ⟨#[]⟩ else ⟨#[]⟩
    fs.writeBytes path (old ++ ⟨call.input.toArray⟩)
  let outcome := eachPath (fun p => "tee: " ++ p) act call paths
  { outcome with output := call.input }

/-! ## Listing -/

/-- The names in directories, and the paths of other files in front. -/
def list : Utility := fun call =>
  let (options, paths) := letters call.arguments
  let paths := if paths.isEmpty then ["."] else paths.mergeSort fun a b => !decide (b < a)
  let (present, missing) := paths.partition call.files.exists?
  let (directories, files) :=
    present.partition fun p => call.files.isDirectory p && !options.contains 'd'
  let lines (names : List String) := names.flatMap fun n => textBytes (n ++ "\n")
  let shown (directory : String) :=
    lines ((namesIn call.files directory).filter fun n =>
      options.contains 'a' || options.contains 'A' || n.toList.head? ≠ some '.')
  let blocks := (if files.isEmpty then [] else [lines files]) ++ directories.map fun d =>
    (if paths.length = 1 then [] else textBytes (d ++ ":\n")) ++ shown d
  let complaints := missing.flatMap fun p =>
    textBytes ("ls: cannot access '" ++ p ++ "': " ++ FileError.notFound.text ++ "\n")
  ⟨if missing.isEmpty then 0 else 2, List.intercalate [10] blocks, complaints, call.files⟩

/-! ## Conditions -/

def unaryTest (fs : FileSystem) (op value : String) : Bool :=
  let isFile (want : ByteArray → Bool) :=
    match fs.status value with
    | .ok (.file content _) => want content
    | _ => false
  match op with
  | "-n" => !value.isEmpty
  | "-z" => value.isEmpty
  | "-e" | "-r" | "-w" => fs.exists? value || value = nullDevice
  | "-f" => isFile fun _ => true
  | "-s" => isFile fun content => content.size > 0
  | "-d" => fs.isDirectory value
  | "-x" =>
    match fs.status value with
    | .ok (.file _ executable) => executable
    | .ok .directory => true
    | _ => false
  | "-L" | "-h" =>
    match fs.resolve value false with
    | .ok place => match fs.get? place with
      | some (.link _) => true
      | _ => false
    | .error _ => false
  | _ => false

def binaryTest? (a op b : String) : Option Bool :=
  match op with
  | "=" => some (a == b)
  | "!=" => some (a != b)
  | "-eq" => some (numberOf a == numberOf b)
  | "-ne" => some (numberOf a != numberOf b)
  | "-lt" => some (numberOf a < numberOf b)
  | "-le" => some (numberOf a ≤ numberOf b)
  | "-gt" => some (numberOf a > numberOf b)
  | "-ge" => some (numberOf a ≥ numberOf b)
  | _ => none

/-- Whether the condition that arguments spell holds. -/
def condition (fs : FileSystem) : List String → Bool
  | [] => false
  | [a] => !a.isEmpty
  | [a, b] => if a = "!" then b.isEmpty else unaryTest fs a b
  | "!" :: rest => !condition fs rest
  | a :: b :: c :: rest =>
    match binaryTest? a b c with
    | some holds =>
      match rest with
      | "-a" :: more => holds && condition fs more
      | "-o" :: more => holds || condition fs more
      | _ => holds
    | none =>
      if c = "-a" then unaryTest fs a b && condition fs rest
      else if c = "-o" then unaryTest fs a b || condition fs rest
      else false

def test : Utility := fun call =>
  call.quiet (if condition call.files call.arguments then 0 else 1)

def bracketTest : Utility := fun call =>
  if call.arguments.getLast? = some "]" then
    test { call with arguments := call.arguments.dropLast }
  else call.quiet 2

def sequenceOf : Utility := fun call =>
  let numbers := call.arguments.map fun s => (numberOf s).toNat
  let (first, last) :=
    match numbers with
    | [n] => (1, n)
    | [a, b] => (a, b)
    | _ => (1, 0)
  call.answer ((List.range' first (last + 1 - first)).flatMap fun n =>
    textBytes (toString n ++ "\n"))

/-- The value of an expression that arguments spell; the status tells whether it is zero. -/
def calculation : Utility := fun call =>
  let value := calculate (fun _ => "") (" ".intercalate call.arguments)
  { call.answer (textBytes (toString value ++ "\n")) with status := if value = 0 then 1 else 0 }

/-! ## By name -/

/-- The name of an installed program by its path. -/
def installedName? (program : String) : Option String :=
  ["/bin/", "/usr/bin/"].findSome? fun directory =>
    (after? directory.toList program.toList).map String.ofList

/-- The utility of a name; some shells read escapes in the arguments of `echo`. -/
def utility? (escapes : Bool) : String → Option Utility
  | "echo" => some (echo escapes)
  | "printf" => some printFormatted
  | "cat" => some cat
  | "head" => some headOf
  | "tail" => some tailOf
  | "tr" => some translate
  | "wc" => some wordCount
  | "grep" => some grep
  | "basename" => some baseName
  | "dirname" => some directoryName
  | "mkdir" => some makeDirectory
  | "touch" => some touch
  | "rm" => some remove
  | "cp" => some (copyTo true)
  | "mv" => some (copyTo false)
  | "tee" => some tee
  | "chmod" => some changeMode
  | "ln" => some link
  | "test" => some test
  | "[" => some bracketTest
  | "seq" => some sequenceOf
  | "ls" => some list
  | "sort" => some sort
  | "sed" => some sed
  | "expr" => some calculation
  | "true" | "sleep" | "sync" => some fun call => call.quiet 0
  | "false" => some fun call => call.quiet 1
  | _ => none

end TestForge.Shell
