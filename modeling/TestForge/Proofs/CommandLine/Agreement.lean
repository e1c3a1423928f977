import TestForge.CommandLine.Program
import TestForge.Proofs.FileSystem.Descent
import TestForge.Proofs.FileSystem.Files
import TestForge.Proofs.Operation.Generation
import TestForge.Proofs.Operation.Requests
import TestForge.Proofs.ToolServer.Calls

/-!
# A generation asked for in two ways

A command line names a file with a symbol overview, and a call has the overview among its
arguments. Both come to the same request, unless the overview is null: an argument that is null is
no overview, but a file that holds null holds an overview without members.
-/

namespace TestForge

open Json

/-! ## Records by the values of their members -/

namespace Json

theorem lookup_eq_some_of_mem {members : List (String × Json)}
    (hn : (members.map Prod.fst).Nodup) : ∀ m ∈ members, lookup m.1 members = some m.2 := by
  induction members with
  | nil => exact List.forall_mem_nil _
  | cons m rest ih =>
      obtain ⟨habsent, hrest⟩ := List.nodup_cons.1 hn
      refine List.forall_mem_cons.2 ⟨if_pos rfl, fun other hm => ?_⟩
      have hne : m.1 ≠ other.1 := fun he => habsent (he ▸ List.mem_map_of_mem hm)
      rw [lookup, if_neg hne]
      exact ih hrest other hm

/-- A record can be read if each of its fields can, where it is present, and the required ones
are. -/
theorem Shape.members_of_fields {shape : Shape} {members : List (String × Json)}
    (hn : (members.map Prod.fst).Nodup)
    (hcheck : ∀ f ∈ shape.fields, ∀ j ∈ lookup f.name members, f.check j = .ok ())
    (hneed : ∀ f ∈ shape.fields, f.required = true → (lookup f.name members).isSome = true) :
    shape.members (.obj members) = .ok members := by
  refine members_obj (fun m hm => ?_) (List.find?_eq_none.2 fun f hf => ?_)
  · unfold checkMember
    split
    · rename_i f hf
      have hname : f.name = m.1 := by simpa using List.find?_some hf
      have hm := lookup_eq_some_of_mem hn m hm
      rw [← hname] at hm
      exact hcheck f (List.mem_of_find?_eq_some hf) m.2 hm
    · rfl
  · have h := hneed f hf
    simpa [Option.isSome_iff_ne_none] using h

section

variable {α : Type} {decode : Json → Decoded α} {members : List (String × Json)} {name : String}
  {a : α}

theorem field_of_lookup {j : Json} (hl : lookup name members = some j) (h : decode j = .ok a) :
    field decode name members = .ok a := by
  rw [field, hl]
  exact h

/-- An absent field has its default, which might as well be written down as `j`. -/
theorem fieldOr_of_getD {default : α} {j : Json} (hd : decode j = .ok default)
    (h : decode ((lookup name members).getD j) = .ok a) :
    fieldOr decode name default members = .ok a := by
  unfold fieldOr
  cases hl : lookup name members with
  | none =>
      rw [hl, Option.getD_none, hd] at h
      exact h
  | some value =>
      rw [hl] at h
      exact h

theorem isSome_of_field (h : field decode name members = .ok a) :
    (lookup name members).isSome = true := by
  unfold field at h
  cases hl : lookup name members with
  | none =>
      rw [hl] at h
      cases h
  | some value => rfl

theorem check_of_field (h : field decode name members = .ok a) :
    ∀ j ∈ lookup name members, (need name decode).check j = .ok () := by
  intro j hj
  rw [field, hj] at h
  exact Decoded.map_eq_ok.2 ⟨a, h, rfl⟩

theorem check_of_fieldOr {default : α} (h : fieldOr decode name default members = .ok a) :
    ∀ j ∈ lookup name members, (mayHave name decode).check j = .ok () := by
  intro j hj
  rw [fieldOr, hj] at h
  exact Decoded.map_eq_ok.2 ⟨a, h, rfl⟩

end

end Json

/-! ## The arguments of a generation -/

namespace GenerateRequest

variable {r : GenerateRequest} {overview : Json} {arguments : List (String × Json)}

/-- The arguments give a request with an overview, in any order and with others in between. What
has a default may be left out where that is meant, and a test path also be null. -/
structure GivenBy (r : GenerateRequest) (overview : Json) (arguments : List (String × Json)) :
    Prop where
  distinct : (arguments.map Prod.fst).Nodup
  root : lookup "project_root" arguments = some (.str r.projectRoot)
  service : lookup "service_path" arguments = some (.str r.servicePath)
  overview : lookup "serena_analysis" arguments = some overview
  target : (lookup "test_path" arguments).getD .null = optStr r.testPath
  validate : (lookup "validate" arguments).getD (.bool true) = .bool r.validate
  retries : (lookup "max_retries" arguments).getD (word32Json defaultMaxRetries) =
    word32Json r.maxRetries

theorem nullable_text_optStr (s : Option String) : nullable text (optStr s) = .ok s := by
  cases s with
  | none => rfl
  | some value => rfl

/-- Every value but null is an overview. -/
theorem nullable_overview {j : Json} (hj : j ≠ .null) :
    nullable GenerateRequest.overview j = .ok (some (SymbolTree.ofJson j)) := by
  cases j with
  | null => exact absurd rfl hj
  | bool b => rfl
  | num n => rfl
  | str s => rfl
  | arr items => rfl
  | obj members => rfl

theorem decode_of_givenBy {symbols : Option SymbolTree} (h : r.GivenBy overview arguments)
    (ho : nullable GenerateRequest.overview overview = .ok symbols) :
    decode (.obj arguments) = .ok { r with symbols := symbols } := by
  have hroot : field path "project_root" arguments = .ok r.projectRoot :=
    field_of_lookup h.root rfl
  have hservice : field text "service_path" arguments = .ok r.servicePath :=
    field_of_lookup h.service rfl
  have hsymbols : fieldOr (nullable GenerateRequest.overview) "serena_analysis" none arguments =
      .ok symbols :=
    fieldOr_of_getD (j := .null) rfl (by rw [h.overview]; exact ho)
  have htarget : fieldOr (nullable text) "test_path" none arguments = .ok r.testPath :=
    fieldOr_of_getD (j := .null) rfl (by rw [h.target, nullable_text_optStr])
  have hvalidate : fieldOr boolean "validate" true arguments = .ok r.validate :=
    fieldOr_of_getD (j := .bool true) rfl (by rw [h.validate]; rfl)
  have hretries : fieldOr word32 "max_retries" defaultMaxRetries arguments = .ok r.maxRetries :=
    fieldOr_of_getD (word32_word32Json _) (by rw [h.retries, word32_word32Json])
  have hmembers : shape.members (.obj arguments) = .ok arguments := by
    refine Shape.members_of_fields h.distinct ?_ ?_
    · simp only [shape, List.forall_mem_cons]
      exact ⟨check_of_field hroot, check_of_field hservice, check_of_fieldOr hsymbols,
        check_of_fieldOr htarget, check_of_fieldOr hvalidate, check_of_fieldOr hretries,
        List.forall_mem_nil _⟩
    · simp only [shape, List.forall_mem_cons]
      exact ⟨fun _ => isSome_of_field hroot, fun _ => isSome_of_field hservice, nofun, nofun, nofun,
        nofun, List.forall_mem_nil _⟩
  simp only [decode, hmembers, hroot, hservice, hsymbols, htarget, hvalidate, hretries, bind,
    Except.bind]
  rfl

end GenerateRequest

/-! ## Calls -/

namespace Dispatcher

variable {σ : Type}

theorem decode_intentOperation {r : GenerateRequest} {arguments : Json} (intent : TestIntent)
    (h : GenerateRequest.decode arguments = .ok r) :
    Request.decode (intentOperation intent) arguments = .ok (.generate r intent) := by
  cases intent with
  | unit => exact congrArg (Except.map _) h
  | integration => exact congrArg (Except.map _) h

theorem call_generate (d : Dispatcher σ) {r : GenerateRequest} {arguments : Json}
    (intent : TestIntent) (h : GenerateRequest.decode arguments = .ok r) (w : World σ) :
    d.call (intentOperation intent).name arguments w =
      (.ok (.generation (d.generate r intent w).1), (d.generate r intent w).2) := by
  simp only [call, Operation.ofName?_name, decode_intentOperation intent h]
  rfl

end Dispatcher

/-! ## Command lines -/

theorem Printed.output_ofReport (activity : String) (report : Report) :
    (ofReport activity report).output = report.toJson.pretty ++ "\n" := by
  unfold ofReport
  split <;> rfl

theorem GenerateRequest.withOverview_of_file (r : GenerateRequest) {fs : FileSystem}
    {file text : String} {t : Json} (hf : fs.readText file = .ok text)
    (ht : Json.read text = .ok t) :
    r.withOverview fs (some file) = .ok { r with symbols := some (SymbolTree.ofJson t) } := by
  simp only [withOverview, SymbolTree.ofFile, hf, ht]

namespace Program

section

variable {σ : Type} {line : CommandLine} {r : GenerateRequest} {intent : TestIntent}
  {file text : String} {t : Json} {w : World σ}

/-- A generation with an overview file prints its report and leaves its world. -/
theorem runCommand_generate (d : Dispatcher σ)
    (hc : line.command = .generate r intent (some file)) (hf : w.files.readText file = .ok text)
    (ht : Json.read text = .ok t) (standardsDirectory input : String) :
    runCommand d standardsDirectory input line w =
      let generated := d.generate { r with symbols := some (SymbolTree.ofJson t) } intent w
      (.ofReport "Test generation" (.generation generated.1), generated.2) := by
  simp only [runCommand, hc, Command.report?, Command.request?, r.withOverview_of_file hf ht,
    Dispatcher.perform, Command.activity]

theorem runCommand_generate_malformed (d : Dispatcher σ) {fault : Json.Fault}
    (hc : line.command = .generate r intent (some file)) (hf : w.files.readText file = .ok text)
    (ht : Json.read text = .error fault) (standardsDirectory input : String) :
    runCommand d standardsDirectory input line w =
      (.failure (OverviewError.malformed file fault text).chain, w) := by
  simp only [runCommand, hc, Command.report?, Command.request?, GenerateRequest.withOverview,
    SymbolTree.ofFile, hf, ht]

/-- A program that gets ready carries out its command. -/
theorem run_prepared {arguments : List String} {env : Environment} {p : Prepared}
    (hp : prepare arguments env w.files = .ok p) (launcher : Launcher σ) (input : String) :
    run launcher arguments env input w =
      runCommand (p.dispatcher launcher) p.settings.standardsDirectory input p.line w := by
  unfold run
  rw [hp]

/-- A command with an overview file prints the report and leaves the world of the call that has the
overview and the other options among its arguments, whatever dispatcher carries out both. So does
the program, if its arguments are such a command and its settings describe the dispatcher. -/
theorem generate_agrees_with_call (d : Dispatcher σ) {members : List (String × Json)}
    (hc : line.command = .generate r intent (some file)) (hf : w.files.readText file = .ok text)
    (ht : Json.read text = .ok t) (hn : t ≠ .null) (hm : r.GivenBy t members)
    (standardsDirectory input : String) :
    ∃ report w', d.call (Dispatcher.intentOperation intent).name (.obj members) w =
        (.ok report, w') ∧
      runCommand d standardsDirectory input line w = (.ofReport "Test generation" report, w') ∧
      ∀ (arguments : List String) (env : Environment) (p : Prepared) (launcher : Launcher σ),
        prepare arguments env w.files = .ok p → p.line = line → p.dispatcher launcher = d →
          run launcher arguments env input w = (.ofReport "Test generation" report, w') := by
  have hd := GenerateRequest.decode_of_givenBy hm (GenerateRequest.nullable_overview hn)
  refine ⟨_, _, d.call_generate intent hd w, runCommand_generate d hc hf ht _ _, ?_⟩
  rintro arguments env p launcher hp rfl rfl
  rw [run_prepared hp]
  exact runCommand_generate _ hc hf ht _ _

end

end Program

/-! ## A project with one overview -/

/-- A service, a directory where its test belongs, and an overview. -/
def FileSystem.oneOverview (overview : String) : FileSystem :=
  ⟨[(["Order.kt"], .file "class Order".toUTF8 false), (["OrderTest.kt"], .directory),
    (["overview.json"], .file overview.toUTF8 false)], []⟩

def World.oneOverview (overview : String) : World Unit :=
  ⟨.oneOverview overview, .still 0, ()⟩

def GenerateRequest.oneOverview : GenerateRequest :=
  ⟨".", "Order.kt", none, none, false, 3⟩

/-- Its members, but for the two that have their defaults. -/
def GenerateRequest.oneOverviewMembers (overview : Json) : List (String × Json) :=
  [("project_root", .str "."), ("service_path", .str "Order.kt"), ("serena_analysis", overview),
    ("validate", .bool false)]

theorem GenerateRequest.givenBy_oneOverview (overview : Json) :
    oneOverview.GivenBy overview (oneOverviewMembers overview) :=
  ⟨by simp [oneOverviewMembers], rfl, rfl, rfl, rfl, rfl, rfl⟩

namespace Program

def oneOverviewArguments : List String :=
  ["generate", "Order.kt", "--symbols", "overview.json", "--no-validate"]

def Prepared.oneOverview : Prepared :=
  ⟨⟨false, none, .generate .oneOverview .unit (some "overview.json")⟩,
    Settings.override {} [], []⟩

open CommandLine in
theorem parse?_oneOverview :
    parse? oneOverviewArguments = some Prepared.oneOverview.line := by
  have hname : looksLikeOption "generate" = false := by decide
  have hservice : looksLikeOption "Order.kt" = false := by decide
  have hsymbols : looksLikeOption "--symbols" = true := by decide
  have hfile : looksLikeOption "overview.json" = false := by decide
  have hflag : looksLikeOption "--no-validate" = true := by decide
  have hsymbols' : longOption? "--symbols" = some ("symbols", none) := by decide
  have hflag' : longOption? "--no-validate" = some ("no-validate", none) := by decide
  simp [oneOverviewArguments, Prepared.oneOverview, GenerateRequest.oneOverview, parse?, scan,
    hname, hservice, hsymbols, hfile, hflag, hsymbols', hflag', optionNames?, withGlobals,
    globalNames, Arguments.addFlag?, Arguments.addValue?, Arguments.addOperand, Arguments.none,
    command?, path?, projectRoot?, maxRetries?, operand?, List.lookup_cons, List.lookup_nil,
    defaultMaxRetries]

end Program

namespace FileSystem

theorem linkless_oneOverview (overview : String) : (oneOverview overview).Linkless := by
  intro place target
  simp only [get?, oneOverview, find?]
  split_ifs <;> simp

/-- Names stand for themselves, whether or not something has them. -/
theorem resolve_oneOverview (overview : String) {path name : String} (follow : Bool)
    (hc : checkPath path = .ok ()) (hp : pieces path = [name] ∨ pieces path = [".", name])
    (hn : name ≠ "" ∧ name ≠ "." ∧ name ≠ ".." ∧ ¬255 < name.utf8ByteSize) :
    (oneOverview overview).resolve path follow = .ok [name] := by
  rw [(linkless_oneOverview overview).resolve_eq, hc]
  rcases hp with hp | hp <;>
    simp [hp, start, descend, requireDirectory, get?, hn, maxNameBytes, oneOverview, Except.bind]

theorem status_oneOverview_none (overview : String) {name : String}
    (hc : checkPath name = .ok ()) (hp : pieces name = [name])
    (hn : name ≠ "" ∧ name ≠ "." ∧ name ≠ ".." ∧ ¬255 < name.utf8ByteSize)
    (ha : name ≠ "Order.kt" ∧ name ≠ "OrderTest.kt" ∧ name ≠ "overview.json") :
    (oneOverview overview).status name = .error .notFound := by
  unfold status
  rw [resolve_oneOverview overview true hc (.inl hp) hn]
  simp [get?, find?, oneOverview, ha.1.symm, ha.2.1.symm, ha.2.2.symm]

theorem readText_oneOverview (overview : String) :
    (World.oneOverview overview).files.readText "overview.json" = .ok overview :=
  readText_of_readBytes (readBytes_ok_iff.2 ⟨false, status_ok_iff.2 ⟨["overview.json"],
    resolve_oneOverview overview true (by decide) (by decide) (by decide),
    by simp [World.oneOverview, get?, find?, oneOverview]⟩⟩)

theorem readService_oneOverview (overview : String) :
    (oneOverview overview).readText (Path.join "." "Order.kt") = .ok "class Order" :=
  readText_of_readBytes (readBytes_ok_iff.2 ⟨false, status_ok_iff.2 ⟨["Order.kt"],
    resolve_oneOverview overview true (by decide) (by decide) (by decide),
    by simp [get?, find?, oneOverview]⟩⟩)

end FileSystem

namespace Program

theorem prepare_oneOverview (overview : String) :
    prepare oneOverviewArguments [] (World.oneOverview overview).files = .ok .oneOverview := by
  change prepare oneOverviewArguments [] (.oneOverview overview) = .ok .oneOverview
  have henv : (FileSystem.oneOverview overview).readText EnvironmentFile.fileName =
      .error .notFound := by
    rw [FileSystem.readText, FileSystem.readBytes, FileSystem.status_oneOverview_none overview
      (by decide) (by decide) (by decide) (by decide)]
  have hsettings : (FileSystem.oneOverview overview).exists? Settings.usualFile = false := by
    rw [FileSystem.exists?, FileSystem.status_oneOverview_none overview
      (by decide) (by decide) (by decide) (by decide)]
  simp only [prepare, EnvironmentFile.loadFrom, henv, parse?_oneOverview]
  simp [Settings.load, Prepared.oneOverview, hsettings]

/-- No program is to be found. -/
def noPrograms : Launcher Unit := fun _ fs s =>
  (.failed FileError.notFound.message, fs, s)

/-- The two ways to ask for the test, with an overview and its text, have the same report and leave
the same files. -/
def Agrees (overview : Json) (text : String) : Prop :=
  ∃ report w, (Prepared.oneOverview.dispatcher noPrograms).call "generate_unit_test"
      (.obj (GenerateRequest.oneOverviewMembers overview)) (World.oneOverview text) =
        (.ok report, w) ∧
    (run noPrograms oneOverviewArguments [] "" (World.oneOverview text)).1 =
      .ofReport "Test generation" report ∧
    (run noPrograms oneOverviewArguments [] "" (World.oneOverview text)).2.files = w.files

/-- An overview need not be an object. -/
theorem generate_agrees_with_call_list :
    Json.read "[7]" = .ok (.arr [.nat 7]) ∧ Agrees (.arr [.nat 7]) "[7]" := by
  have ht : Json.read "[7]" = .ok (.arr [.nat 7]) := by rfl
  have hc : Prepared.oneOverview.line.command =
      .generate .oneOverview .unit (some "overview.json") := rfl
  obtain ⟨report, w, hcall, -, hrun⟩ := generate_agrees_with_call
    (Prepared.oneOverview.dispatcher noPrograms) hc (FileSystem.readText_oneOverview "[7]") ht nofun
    (GenerateRequest.givenBy_oneOverview _) "standards" ""
  have hprogram := hrun oneOverviewArguments [] .oneOverview noPrograms (prepare_oneOverview "[7]")
    rfl rfl
  exact ⟨ht, report, w, hcall, by rw [hprogram], by rw [hprogram]⟩

end Program

/-! ## An overview that is null -/

def OperationFailure.oneOverview : OperationFailure :=
  .unwritableTest "./OrderTest.kt" .isDirectory

/-- Room is made, but a directory stands where the test belongs. -/
theorem FileSystem.writeArtifact_oneOverview (overview artifact : String) :
    writeArtifact "." "OrderTest.kt" artifact (oneOverview overview) =
      (.error .oneOverview, oneOverview overview) := by
  have hpath : Path.join "." "OrderTest.kt" = "./OrderTest.kt" := by decide
  have hroom : makeRoom "./OrderTest.kt" (oneOverview overview) =
      (.ok (), oneOverview overview) := by
    have hroot (follow : Bool) : (oneOverview overview).resolve "." follow = .ok [] := by
      have hc : checkPath "." = .ok () := by decide
      have hp : pieces "." = ["."] := by decide
      rw [(linkless_oneOverview overview).resolve_eq, hc]
      simp [hp, start, descend, requireDirectory, get?, oneOverview, Except.bind]
    have hcreate : (oneOverview overview).createDirectory "." = .error .exists := by
      have hbare : dropSlashes "." = "." := by decide
      unfold createDirectory
      simp only [hbare, ite_self, hroot, get?, ↓reduceIte]
    have hdir : (oneOverview overview).isDirectory "." = true := by
      simp only [isDirectory, status, hroot, get?, ↓reduceIte]
    have hparent : Path.parent? "./OrderTest.kt" = some "." := by decide
    have hl : lineage ".".length "." = [".", ""] := by decide
    have he : ".".isEmpty = false := by decide
    simp only [makeRoom, hparent, createDirectories, hl]
    unfold createLineage
    simp only [he, hcreate, hdir]
    rfl
  have hwrite : (oneOverview overview).writeText "./OrderTest.kt" artifact =
      .error .isDirectory := by
    have hslash : endsInSlash "./OrderTest.kt" = false := by decide
    have hr : (oneOverview overview).resolve "./OrderTest.kt" true = .ok ["OrderTest.kt"] :=
      resolve_oneOverview overview true (by decide) (by decide) (by decide)
    have hg : (oneOverview overview).get? ["OrderTest.kt"] = some .directory := by
      simp [get?, find?, oneOverview]
    simp only [writeText, writeBytes, writePlace, hslash, Bool.false_eq_true, ↓reduceIte, hr, hg]
  unfold writeArtifact
  rw [hpath]
  simp only [hroom, hwrite, OperationFailure.oneOverview]

theorem Dispatcher.generate_oneOverview (d : Dispatcher Unit) {r : GenerateRequest}
    (hc : r.check = .ok ()) (hroot : r.projectRoot = ".") (hservice : r.servicePath = "Order.kt")
    (htarget : r.target = "OrderTest.kt") (hv : r.validate = false) (overview : String)
    (clock : Clock) :
    (d.generate r .unit ⟨.oneOverview overview, clock, ()⟩).1 =
      ⟨"Order.kt", "OrderTest.kt",
        ⟨[analyzedStep (.ofText d.defaultPackage "Order.kt" r.symbols "class Order"),
          unwrittenStep .oneOverview]⟩, some OperationFailure.oneOverview.chain⟩ := by
  let w : World Unit := ⟨.oneOverview overview, clock, ()⟩
  let x : Extraction := .ofText d.defaultPackage "Order.kt" r.symbols "class Order"
  have hx : extract w.files d.defaultPackage r.projectRoot r.servicePath r.symbols = .ok x := by
    rw [hroot, hservice]
    exact extract_ok (FileSystem.readService_oneOverview overview) d.defaultPackage r.symbols
  have hw : writeArtifact r.projectRoot r.target (d.artifactOf r .unit x w) w.files =
      (.error .oneOverview, w.files) := by
    rw [hroot, htarget]
    exact FileSystem.writeArtifact_oneOverview overview _
  have hrun : d.runGeneration (intentOperation .unit) r .unit w = (⟨[analyzedStep x,
      unwrittenStep .oneOverview]⟩, some .oneOverview, { w with files := w.files }) :=
    runGeneration_of_written hc hx hw hv
  simp only [w] at hrun
  simp only [generate, generateAs, hrun, hservice, htarget, Option.map_some, x]

namespace Json

/-- A list in a list, and so on; the innermost is empty. -/
def nested : Nat → Json
  | 0 => .arr []
  | n + 1 => .arr [nested n]

theorem toList_compact_nested (n : Nat) :
    (nested n).compact.toList = List.replicate (n + 1) '[' ++ List.replicate (n + 1) ']' := by
  induction n with
  | zero => rfl
  | succ n ih =>
      rw [nested, compact, compactItems, String.toList_append, String.toList_append, ih,
        List.replicate_succ (n := n + 1), List.replicate_succ' (n := n + 1)]
      simp

/-- No fuel takes the reader deeper than its number of levels. -/
theorem value_brackets (levels fuel : Nat) (s : List Char) :
    ∃ fault, value fuel levels (List.replicate (levels + 1) '[' ++ s) = .error fault := by
  induction levels generalizing fuel with
  | zero =>
      cases fuel with
      | zero => exact ⟨_, rfl⟩
      | succ fuel => exact ⟨_, rfl⟩
  | succ levels ih =>
      cases fuel with
      | zero => exact ⟨_, rfl⟩
      | succ fuel =>
          have hitems : value (fuel + 1) (levels + 1) (List.replicate (levels + 2) '[' ++ s) =
              items fuel levels true [] (List.replicate (levels + 1) '[' ++ s) := rfl
          rw [hitems]
          cases fuel with
          | zero => exact ⟨_, rfl⟩
          | succ fuel =>
              obtain ⟨fault, h⟩ := ih fuel
              have hnext : nextItem true (List.replicate (levels + 1) '[' ++ s) =
                  .ok (true, List.replicate (levels + 1) '[' ++ s) := rfl
              simp only [items, hnext, h]
              exact ⟨fault, rfl⟩

theorem read_brackets {text : String} {s : List Char}
    (h : text.toList = List.replicate (127 + 1) '[' ++ s) : ∃ fault, read text = .error fault := by
  obtain ⟨fault, hv⟩ := value_brackets 127 (2 * text.toList.length + 2) s
  rw [← h] at hv
  exact ⟨fault, by simp only [read, hv]⟩

end Json

namespace Program

theorem not_agrees_null : ¬Agrees .null "null" := by
  rintro ⟨report, w, hcall, hrun, -⟩
  have hm := GenerateRequest.givenBy_oneOverview .null
  have hd : GenerateRequest.decode (.obj (GenerateRequest.oneOverviewMembers .null)) =
      .ok { GenerateRequest.oneOverview with symbols := none } :=
    GenerateRequest.decode_of_givenBy hm rfl
  rw [show "generate_unit_test" = (Dispatcher.intentOperation .unit).name from rfl,
    Dispatcher.call_generate _ .unit hd] at hcall
  rw [run_prepared (prepare_oneOverview "null"), runCommand_generate _ rfl
    (FileSystem.readText_oneOverview "null") (t := .null) rfl] at hrun
  cases hcall
  have hcheck : GenerateRequest.oneOverview.check = .ok () := by decide
  have htarget : GenerateRequest.oneOverview.target = "OrderTest.kt" := by decide
  have hreport (symbols : Option SymbolTree) := Dispatcher.generate_oneOverview
    (Prepared.oneOverview.dispatcher noPrograms)
    (r := { GenerateRequest.oneOverview with symbols := symbols })
    hcheck rfl rfl htarget rfl "null" (.still 0)
  have houtput := congrArg (fun printed => printed.output) hrun
  simp only [Printed.output_ofReport] at houtput
  rw [World.oneOverview, hreport (some (SymbolTree.ofJson .null)), hreport none] at houtput
  revert houtput
  decide +kernel

/-- What cannot be read is no overview at all. -/
theorem not_agrees_malformed {overview : Json} {text : String} {fault : Json.Fault}
    (ht : Json.read text = .error fault) : ¬Agrees overview text := by
  rintro ⟨report, w, -, hrun, -⟩
  rw [run_prepared (prepare_oneOverview text), runCommand_generate_malformed _ rfl
    (FileSystem.readText_oneOverview text) ht] at hrun
  have houtput := congrArg (fun printed => printed.output) hrun
  simp only [Printed.output_ofReport, Printed.failure] at houtput
  simpa using congrArg String.toList houtput

theorem null_and_depth_disagree :
    (prepare oneOverviewArguments [] (World.oneOverview "null").files = .ok .oneOverview ∧
      Json.read "null" = .ok .null ∧ ¬Agrees .null "null") ∧
    prepare oneOverviewArguments [] (World.oneOverview (Json.nested 127).compact).files =
        .ok .oneOverview ∧
      ¬Agrees (.nested 127) (Json.nested 127).compact := by
  obtain ⟨fault, hfault⟩ := Json.read_brackets (Json.toList_compact_nested 127)
  exact ⟨⟨prepare_oneOverview _, rfl, not_agrees_null⟩, prepare_oneOverview _,
    not_agrees_malformed hfault⟩

end Program

end TestForge
