import TestForge.Proofs.Artifact.Lines

/-!
# The layout of a test class

What a reader of the lines of an artifact finds in them: a function for each case, a mock for each
collaborator and the arguments of the instance. The lines in question are found by how they begin,
and no name can make another line begin so: what stands in front of a name on its line tells the
lines apart. Only an argument begins like the line that makes the instance, and there the lengths
do.
-/

namespace TestForge

open Text

/-! ## Beginnings of lines -/

/-- Neither text begins the other. -/
def Apart (a b : List Char) : Prop :=
  ¬a <+: b ∧ ¬b <+: a

instance (a b : List Char) : Decidable (Apart a b) :=
  inferInstanceAs (Decidable (_ ∧ _))

theorem Apart.not_prefix {a b s : List Char} (h : Apart a b) (hb : b <+: s) : ¬a <+: s :=
  fun ha => (List.prefix_or_prefix_of_prefix ha hb).elim h.1 h.2

/-- Texts that differ go on differing. -/
theorem Apart.append {a b : List Char} (h : Apart a b) (c : List Char) : Apart a (b ++ c) :=
  ⟨h.not_prefix (List.prefix_append b c), fun ha => h.2 ((List.prefix_append b c).trans ha)⟩

def functionStart : List Char :=
  [' ', ' ', ' ', ' ', 'f', 'u', 'n', ' ', '\x60']

def mockStart : List Char :=
  [' ', ' ', ' ', ' ', '@', 'M', 'o', 'c', 'k', 'K']

/-- The indentation of statements. -/
def statementStart : List Char :=
  [' ', ' ', ' ', ' ', ' ', ' ', ' ', ' ']

theorem toList_function : "    fun `".toList = functionStart := by
  decide

theorem toList_mock : "    @MockK".toList = mockStart := by
  decide

theorem toList_statement : "        ".toList = statementStart := by
  decide

/-- A text that is told apart from the lines in question by how it begins. -/
def Clear (line : String) : Prop :=
  ∀ start ∈ [functionStart, mockStart, statementStart], Apart start line.toList

theorem Clear.literal {s : List Char}
    (h : ∀ start ∈ [functionStart, mockStart, statementStart], Apart start s) :
    Clear (String.ofList s) := by
  rw [Clear, String.toList_ofList]
  exact h

theorem Clear.append {a : String} (h : Clear a) (b : String) : Clear (a ++ b) := by
  intro start hstart
  rw [String.toList_append]
  exact (h start hstart).append b.toList

/-- A line that is none of those in question. -/
structure Plain (line : String) : Prop where
  noFunction : ¬functionStart <+: line.toList
  noMock : ¬mockStart <+: line.toList
  noCall : ¬(statementStart <+: line.toList ∧ line.toList.getLast? = some '(')

theorem Plain.literal {s : List Char} (h : ¬functionStart <+: s ∧ ¬mockStart <+: s ∧
    ¬(statementStart <+: s ∧ s.getLast? = some '(')) : Plain (String.ofList s) := by
  rw [← String.toList_ofList (l := s)] at h
  exact ⟨h.1, h.2.1, h.2.2⟩

theorem Clear.plain {line : String} (h : Clear line) : Plain line where
  noFunction := (h functionStart (by decide)).1
  noMock := (h mockStart (by decide)).1
  noCall hcall := (h statementStart (by decide)).1 hcall.1

theorem not_functionStart {s : List Char} (h : statementStart <+: s) : ¬functionStart <+: s :=
  Apart.not_prefix (by decide) h

theorem not_mockStart {s : List Char} (h : statementStart <+: s) : ¬mockStart <+: s :=
  Apart.not_prefix (by decide) h

/-- A statement that does not open an argument list. -/
theorem plain_statement {line : String} (hstart : statementStart <+: line.toList)
    (hend : line.toList.getLast? ≠ some '(') : Plain line :=
  ⟨not_functionStart hstart, not_mockStart hstart, fun hcall => hend hcall.2⟩

/-! ## Lines that are not looked for -/

/-- A call without arguments, behind an indentation. -/
theorem plain_call {start : List Char} (inst name : String) (h : statementStart <+: start) :
    Plain (String.ofList start ++ inst ++ "." ++ name ++ "()") := by
  have hclose : "()".toList = ['(', ')'] := rfl
  apply plain_statement
  · simp only [String.toList_append, String.toList_ofList, List.append_assoc]
    exact h.trans (List.prefix_append _ _)
  · rw [String.toList_append, hclose, List.getLast?_append_cons]
    decide

theorem plain_propertyLine (name typeName : String) : Plain (propertyLine name typeName) :=
  (((Clear.literal (by decide)).append _).append _ |>.append _).plain

theorem Method.plain_successBody (inst : String) (m : Method) :
    ∀ line ∈ m.successBody inst, Plain line := by
  have hcall : Plain ("        val result = " ++ inst ++ "." ++ m.name ++ "()") :=
    plain_call _ _ (by decide)
  simp only [successBody, List.forall_mem_cons]
  exact ⟨.literal (by decide), .literal (by decide), .literal (by decide), hcall,
    .literal (by decide), .literal (by decide), .literal (by decide), List.forall_mem_nil _⟩

theorem Method.plain_errorBody (inst : String) (m : Method) :
    ∀ line ∈ m.errorBody inst, Plain line := by
  have hcall : Plain ("            " ++ inst ++ "." ++ m.name ++ "()") :=
    plain_call _ _ (by decide)
  simp only [errorBody, List.forall_mem_cons]
  exact ⟨.literal (by decide), .literal (by decide), .literal (by decide), .literal (by decide),
    hcall, .literal (by decide), List.forall_mem_nil _⟩

namespace ServiceModel

variable (model : ServiceModel) (style : TemplateStyle) (intent : TestIntent)

theorem plain_fixedLines : ∀ line ∈ fixedLines, Plain line := by
  simp only [fixedLines, harnessLines, testLines, List.cons_append, List.nil_append,
    List.forall_mem_cons]
  exact ⟨.literal (by decide), .literal (by decide), .literal (by decide), .literal (by decide),
    .literal (by decide), .literal (by decide), .literal (by decide), .literal (by decide),
    .literal (by decide), .literal (by decide), .literal (by decide), .literal (by decide),
    .literal (by decide), .literal (by decide), .literal (by decide), .literal (by decide),
    .literal (by decide), List.forall_mem_nil _⟩

theorem plain_headingLines : ∀ line ∈ model.headingLines style intent, Plain line :=
  forall_mem_headingLines style intent plain_fixedLines
    ((Clear.literal (by decide)).append _).plain
    (fun _ _ => ((Clear.literal (by decide)).append _).plain)
    (((Clear.literal (by decide)).append _).append _).plain

theorem plain_openingLines : ∀ line ∈ model.openingLines style intent, Plain line := by
  simp only [openingLines, List.forall_mem_append, List.forall_mem_cons]
  exact ⟨model.plain_headingLines style intent,
    (((Clear.literal (by decide)).append _).append _).plain, .literal (by decide),
    List.forall_mem_nil _⟩

theorem plain_instanceLines : ∀ line ∈ model.instanceLines, Plain line := by
  simp only [instanceLines, List.forall_mem_cons]
  exact ⟨plain_propertyLine _ _, .literal (by decide), .literal (by decide), .literal (by decide),
    .literal (by decide), List.forall_mem_nil _⟩

end ServiceModel

/-! ## The functions -/

def opensFunction (line : String) : Bool :=
  "    fun `".toList.isPrefixOf line.toList

theorem opensFunction_iff {line : String} :
    opensFunction line = true ↔ functionStart <+: line.toList := by
  rw [opensFunction, toList_function, List.isPrefixOf_iff_prefix]

theorem functionStart_functionLine (name : String) :
    functionStart <+: (functionLine name).toList := by
  unfold functionLine
  simp only [String.toList_append, toList_function, List.append_assoc]
  exact List.prefix_append _ _

theorem filter_eq_nil {lines : List String} (h : ∀ line ∈ lines, ¬functionStart <+: line.toList) :
    lines.filter opensFunction = [] :=
  List.filter_eq_nil_iff.2 fun line hline hopens => h line hline (opensFunction_iff.1 hopens)

/-- A case has one line with its name, and the others are of no interest. -/
theorem caseLines_split (title name : String) {body : List String}
    (h : ∀ line ∈ body, Plain line) : ∃ front back : List String,
      caseLines title name body = front ++ functionLine name :: back ∧
        ∀ line ∈ front ++ back, Plain line := by
  refine ⟨["", "    @Test", "    @DisplayName(\"" ++ title ++ "\")"], body ++ ["    \x7d"], rfl, ?_⟩
  simp only [List.forall_mem_append, List.forall_mem_cons]
  exact ⟨⟨.literal (by decide), .literal (by decide),
      (((Clear.literal (by decide)).append _).append _).plain, List.forall_mem_nil _⟩,
    h, .literal (by decide), List.forall_mem_nil _⟩

theorem filter_caseLines (title name : String) {body : List String}
    (h : ∀ line ∈ body, Plain line) :
    (caseLines title name body).filter opensFunction = [functionLine name] := by
  obtain ⟨front, back, hlines, hplain⟩ := caseLines_split title name h
  rw [List.forall_mem_append] at hplain
  rw [hlines, List.filter_append, filter_eq_nil fun line hl => (hplain.1 line hl).noFunction,
    List.filter_cons_of_pos (opensFunction_iff.2 (functionStart_functionLine name)),
    filter_eq_nil fun line hl => (hplain.2 line hl).noFunction, List.nil_append]

theorem Method.filter_caseLines (inst : String) (m : Method) :
    (m.caseLines inst).filter opensFunction =
      [functionLine (m.name ++ "_success"), functionLine (m.name ++ "_error")] := by
  rw [caseLines, List.filter_append, TestForge.filter_caseLines _ _ (m.plain_successBody inst),
    TestForge.filter_caseLines _ _ (m.plain_errorBody inst), List.singleton_append]

theorem plain_or_function {title name line : String} {body : List String}
    (h : ∀ line ∈ body, Plain line) (hline : line ∈ caseLines title name body) :
    Plain line ∨ line = functionLine name := by
  obtain ⟨front, back, hlines, hplain⟩ := caseLines_split title name h
  rw [hlines, List.mem_append, List.mem_cons] at hline
  rcases hline with hfront | rfl | hback
  · exact .inl (hplain line (List.mem_append_left _ hfront))
  · exact .inr rfl
  · exact .inl (hplain line (List.mem_append_right _ hback))

namespace ServiceModel

variable (model : ServiceModel) (style : TemplateStyle) (intent : TestIntent)

theorem plain_or_function_closingLines {line : String} (h : line ∈ model.closingLines) :
    Plain line ∨ ∃ name : String, line = functionLine name := by
  simp only [closingLines, List.mem_cons, List.mem_append, List.mem_flatMap, List.not_mem_nil,
    or_false] at h
  rcases h with rfl | ⟨m, -, hcase⟩ | rfl
  · exact .inl (.literal (by decide))
  · rcases List.mem_append.1 hcase with hsuccess | herror
    · exact (plain_or_function (m.plain_successBody _) hsuccess).imp_right fun h => ⟨_, h⟩
    · exact (plain_or_function (m.plain_errorBody _) herror).imp_right fun h => ⟨_, h⟩
  · exact .inl (.literal (by decide))

theorem filter_closingLines : model.closingLines.filter opensFunction =
    model.testableMethods.flatMap fun m =>
      [functionLine (m.name ++ "_success"), functionLine (m.name ++ "_error")] := by
  have hfirst : ¬opensFunction "    \x7d" = true := by decide
  have hlast : ["\x7d"].filter opensFunction = [] := by decide
  rw [closingLines, List.filter_cons_of_neg hfirst, List.filter_append, List.filter_flatMap, hlast,
    List.append_nil]
  exact List.flatMap_congr fun m _ => m.filter_caseLines _

end ServiceModel

/-! ## The mocks -/

theorem ne_mock {line : String} (h : ¬mockStart <+: line.toList) : line ≠ "    @MockK" := by
  rintro rfl
  rw [toList_mock] at h
  exact h (List.prefix_refl mockStart)

theorem functionLine_ne_mock (name : String) : functionLine name ≠ "    @MockK" := by
  have hapart : Apart mockStart functionStart := by decide
  exact ne_mock (hapart.not_prefix (functionStart_functionLine name))

theorem propertyLine_ne_mock (name typeName : String) :
    propertyLine name typeName ≠ "    @MockK" :=
  ne_mock (plain_propertyLine name typeName).noMock

theorem filter_mocks (dependencies : List Dependency) :
    (dependencies.flatMap Dependency.mockLines).filter opensFunction = [] := by
  refine filter_eq_nil fun line hline => ?_
  simp only [List.mem_flatMap, Dependency.mockLines, List.mem_cons, List.not_mem_nil,
    or_false] at hline
  rcases hline with ⟨d, -, rfl | rfl | rfl⟩
  · decide
  · exact (plain_propertyLine _ _).noFunction
  · decide

theorem count_mocks (dependencies : List Dependency) :
    (dependencies.flatMap Dependency.mockLines).count "    @MockK" = dependencies.length := by
  have hone (d : Dependency) : d.mockLines.count "    @MockK" = 1 := by
    rw [Dependency.mockLines, List.count_cons_self,
      List.count_cons_of_ne (propertyLine_ne_mock d.name d.typeName),
      List.count_cons_of_ne (by decide), List.count_nil]
  induction dependencies with
  | nil => rfl
  | cons d dependencies ih =>
      rw [List.flatMap_cons, List.count_append, hone, ih, List.length_cons, Nat.add_comm]

/-- Below each mark stands the mock it is for. -/
theorem linesBelow_mocks (dependencies : List Dependency) {rest : List String}
    (h : "    @MockK" ∉ rest) :
    linesBelow "    @MockK" (dependencies.flatMap Dependency.mockLines ++ rest) =
      dependencies.map fun d => propertyLine d.name d.typeName := by
  induction dependencies with
  | nil => exact linesBelow_eq_nil h
  | cons d dependencies ih =>
      rw [List.flatMap_cons, Dependency.mockLines, List.append_assoc, List.cons_append,
        List.cons_append, linesBelow_mark, linesBelow_cons_of_ne (propertyLine_ne_mock _ _),
        List.cons_append, linesBelow_cons_of_ne (by decide), List.nil_append, ih, List.map_cons]

/-! ## The arguments -/

def argumentStart : List Char :=
  statementStart ++ [' ', ' ', ' ', ' ']

theorem mem_argumentLines {line : String} {dependencies : List Dependency}
    (h : line ∈ argumentLines dependencies) :
    ∃ d : Dependency, line = d.argument ++ "," ∨ line = d.argument := by
  obtain ⟨i, hi, rfl⟩ := List.mem_mapIdx.1 h
  refine ⟨dependencies[i], ?_⟩
  split
  · exact .inl rfl
  · exact .inr String.append_empty

theorem argumentStart_argument (d : Dependency) : argumentStart <+: d.argument.toList := by
  have hstart : "            ".toList = argumentStart := by decide
  unfold Dependency.argument
  simp only [String.toList_append, hstart, List.append_assoc]
  exact List.prefix_append _ _

theorem argumentStart_of_mem {line : String} {dependencies : List Dependency}
    (h : line ∈ argumentLines dependencies) : argumentStart <+: line.toList := by
  obtain ⟨d, rfl | rfl⟩ := mem_argumentLines h
  · rw [String.toList_append]
    exact (argumentStart_argument d).trans (List.prefix_append _ _)
  · exact argumentStart_argument d

theorem statementStart_of_mem {line : String} {dependencies : List Dependency}
    (h : line ∈ argumentLines dependencies) : statementStart <+: line.toList :=
  (List.prefix_append statementStart _).trans (argumentStart_of_mem h)

theorem close_notMem_argumentLines (dependencies : List Dependency) :
    "        )" ∉ argumentLines dependencies := by
  intro h
  have hshort : ¬argumentStart <+: "        )".toList := by decide
  exact hshort (argumentStart_of_mem h)

namespace ServiceModel

variable (model : ServiceModel) (style : TemplateStyle) (intent : TestIntent)

theorem statementStart_setUpLine : statementStart <+: model.setUpLine.toList := by
  unfold setUpLine
  simp only [String.toList_append, toList_statement, List.append_assoc]
  exact List.prefix_append _ _

theorem getLast?_setUpLine : model.setUpLine.toList.getLast? = some '(' := by
  have hend : "(".toList = ['('] := rfl
  unfold setUpLine
  rw [String.toList_append, hend, List.getLast?_append_cons]
  rfl

/-- A lower case is as long as its character, or it begins with an `i`. -/
theorem instanceName_cases :
    model.instanceName.toList.length = model.className.toList.length ∨
      model.instanceName.toList.head? = some 'i' := by
  unfold instanceName
  cases model.className.toList with
  | nil => exact .inl rfl
  | cons c cs =>
      rw [String.toList_ofList]
      refine (lowerCase_cases c).imp (fun hlength => ?_) fun hhead => ?_
      · rw [List.length_append, hlength, List.length_cons, Nat.add_comm]
      · rw [List.head?_append, hhead]
        rfl

/-- An argument has its name twice and so an odd length behind the indentation, and the statement
has the class twice with a bracket behind it, but for a class whose lower case begins with an `i`. -/
theorem argument_ne_setUpLine (d : Dependency) : d.argument ≠ model.setUpLine := by
  intro h
  have htexts : [' ', ' ', ' ', ' '] ++ (d.name.toList ++ ([' ', '=', ' '] ++ d.name.toList)) =
      model.instanceName.toList ++ ([' ', '=', ' '] ++ (model.className.toList ++ ['('])) := by
    have hindent : "            ".toList = statementStart ++ [' ', ' ', ' ', ' '] := by decide
    have hequals : " = ".toList = [' ', '=', ' '] := by decide
    have hopen : "(".toList = ['('] := rfl
    have hlists := congrArg String.toList h
    unfold Dependency.argument setUpLine at hlists
    simp only [String.toList_append, hindent, toList_statement, hequals, hopen,
      List.append_assoc] at hlists
    exact List.append_cancel_left hlists
  rcases model.instanceName_cases with hlength | hhead
  · have hlengths := congrArg List.length htexts
    simp only [List.length_append, List.length_cons, List.length_nil, hlength] at hlengths
    omega
  · have hheads := congrArg List.head? htexts
    rw [List.cons_append, List.head?_cons, List.head?_append, hhead, Option.some_or] at hheads
    revert hheads
    decide

theorem setUpLine_notMem_argumentLines : model.setUpLine ∉ argumentLines model.dependencies := by
  intro h
  obtain ⟨d, hcomma | hlast⟩ := mem_argumentLines h
  · have hend : ",".toList = [','] := rfl
    have hopen := model.getLast?_setUpLine
    rw [hcomma, String.toList_append, hend, List.getLast?_append_cons] at hopen
    revert hopen
    decide
  · exact model.argument_ne_setUpLine d hlast.symm

end ServiceModel

theorem Plain.ne_setUpLine {line : String} (h : Plain line) (model : ServiceModel) :
    line ≠ model.setUpLine := by
  rintro rfl
  exact h.noCall ⟨model.statementStart_setUpLine, model.getLast?_setUpLine⟩

/-! ## The layout -/

namespace ServiceModel

variable (model : ServiceModel) (style : TemplateStyle) (intent : TestIntent)

theorem filter_lines : (model.lines style intent ++ [""]).filter opensFunction =
    model.testableMethods.flatMap fun m =>
      [functionLine (m.name ++ "_success"), functionLine (m.name ++ "_error")] := by
  have hopening := filter_eq_nil fun line hline =>
    (model.plain_openingLines style intent line hline).noFunction
  have hinstance := filter_eq_nil fun line hline => (model.plain_instanceLines line hline).noFunction
  have hsetUp : ¬opensFunction model.setUpLine = true := fun hopens =>
    not_functionStart model.statementStart_setUpLine (opensFunction_iff.1 hopens)
  have harguments : (argumentLines model.dependencies).filter opensFunction = [] :=
    filter_eq_nil fun line hline => not_functionStart (statementStart_of_mem hline)
  have hclose : ¬opensFunction "        )" = true := by decide
  have hend : [""].filter opensFunction = [] := by decide
  rw [List.filter_append, lines, List.filter_append, hopening, List.filter_append, filter_mocks,
    List.filter_append, hinstance, List.filter_cons_of_neg hsetUp, List.filter_append, harguments,
    List.filter_cons_of_neg hclose, filter_closingLines, hend, List.append_nil]
  rfl

theorem length_functionLines : (model.testableMethods.flatMap fun m =>
    [functionLine (m.name ++ "_success"), functionLine (m.name ++ "_error")]).length =
      model.caseCount := by
  rw [List.length_flatMap]
  simp only [List.length_cons, List.length_nil, List.map_const', List.sum_replicate_nat, caseCount,
    Nat.mul_comm]

/-- Only the mocks have the mark. -/
theorem mock_notMem_rest : "    @MockK" ∉ model.instanceLines ++ model.setUpLine ::
    (argumentLines model.dependencies ++ "        )" :: (model.closingLines ++ [""])) := by
  simp only [List.mem_append, List.mem_cons, List.not_mem_nil, or_false, not_or]
  refine ⟨fun h => ?_, fun h => ?_, fun h => ?_, by decide, fun h => ?_, by decide⟩
  · exact ne_mock (model.plain_instanceLines _ h).noMock rfl
  · exact ne_mock (not_mockStart model.statementStart_setUpLine) h.symm
  · exact ne_mock (not_mockStart (statementStart_of_mem h)) rfl
  · rcases model.plain_or_function_closingLines h with hplain | ⟨name, hname⟩
    · exact ne_mock hplain.noMock rfl
    · exact functionLine_ne_mock name hname.symm

theorem mocks_lines : (model.lines style intent ++ [""]).count "    @MockK" =
      model.dependencies.length ∧
    linesBelow "    @MockK" (model.lines style intent ++ [""]) =
      model.dependencies.map fun d => propertyLine d.name d.typeName := by
  have hopening : "    @MockK" ∉ model.openingLines style intent := fun h =>
    ne_mock (model.plain_openingLines style intent _ h).noMock rfl
  have hrest := model.mock_notMem_rest
  have hlines : model.lines style intent ++ [""] = model.openingLines style intent ++
      (model.dependencies.flatMap Dependency.mockLines ++ (model.instanceLines ++
        model.setUpLine :: (argumentLines model.dependencies ++
          "        )" :: (model.closingLines ++ [""])))) := by
    simp only [lines, List.append_assoc, List.cons_append]
  rw [hlines]
  constructor
  · rw [List.count_append, List.count_eq_zero.2 hopening, List.count_append, count_mocks,
      List.count_eq_zero.2 hrest, Nat.zero_add, Nat.add_zero]
  · rw [linesBelow_append hopening, linesBelow_mocks _ hrest]

theorem setUpLine_notMem_mocks :
    model.setUpLine ∉ model.dependencies.flatMap Dependency.mockLines := by
  have hstart := model.statementStart_setUpLine
  intro h
  simp only [List.mem_flatMap, Dependency.mockLines, List.mem_cons, List.not_mem_nil,
    or_false] at h
  rcases h with ⟨d, -, hmark | hproperty | hblank⟩
  · exact ne_mock (not_mockStart hstart) hmark
  · exact (plain_propertyLine _ _).ne_setUpLine model hproperty.symm
  · rw [hblank] at hstart
    revert hstart
    decide

theorem setUpLine_notMem_closingLines : model.setUpLine ∉ model.closingLines := by
  intro h
  rcases model.plain_or_function_closingLines h with hplain | ⟨name, hname⟩
  · exact hplain.ne_setUpLine model rfl
  · exact not_functionStart model.statementStart_setUpLine
      (hname ▸ functionStart_functionLine name)

/-- The lines of an artifact, around those of the arguments. -/
theorem arguments_lines : ∃ front back : List String,
    model.lines style intent ++ [""] =
        front ++ model.setUpLine :: (argumentLines model.dependencies ++ "        )" :: back) ∧
      model.setUpLine ∉ front ++ argumentLines model.dependencies ++ "        )" :: back := by
  refine ⟨model.openingLines style intent ++ (model.dependencies.flatMap Dependency.mockLines ++
    model.instanceLines), model.closingLines ++ [""], ?_, ?_⟩
  · simp only [lines, List.append_assoc, List.cons_append]
  · have hplain {line : String} (h : Plain line) : model.setUpLine ≠ line :=
      (h.ne_setUpLine model).symm
    simp only [List.mem_append, List.mem_cons, List.not_mem_nil, or_false, not_or]
    exact ⟨⟨⟨fun h => hplain (model.plain_openingLines style intent _ h) rfl,
          model.setUpLine_notMem_mocks, fun h => hplain (model.plain_instanceLines _ h) rfl⟩,
        model.setUpLine_notMem_argumentLines⟩,
      hplain (.literal (by decide)), model.setUpLine_notMem_closingLines,
      hplain (.literal (by decide))⟩

variable {model}

/-- What the lines of an artifact tell of its class: two functions for each method that is tested, a
mock below each mark, and one argument for each mock where the instance is made. -/
theorem render_layout (h : model.Unbroken) (style : TemplateStyle) (intent : TestIntent) :
    (textLines (model.render style intent)).filter opensFunction =
        ((model.methods.filter fun m => !m.isPrivate).flatMap fun m =>
          [functionLine (m.name ++ "_success"), functionLine (m.name ++ "_error")]) ∧
      ((textLines (model.render style intent)).filter opensFunction).length = model.caseCount ∧
      (textLines (model.render style intent)).count "    @MockK" = model.dependencies.length ∧
      linesBelow "    @MockK" (textLines (model.render style intent)) =
        model.dependencies.map (fun d => propertyLine d.name d.typeName) ∧
      "        )" ∉ argumentLines model.dependencies ∧
      ∃ front back : List String, textLines (model.render style intent) =
          front ++ model.setUpLine :: (argumentLines model.dependencies ++ "        )" :: back) ∧
        model.setUpLine ∉ front ++ argumentLines model.dependencies ++ "        )" :: back := by
  rw [h.textLines_render]
  obtain ⟨hmarks, hmocks⟩ := model.mocks_lines style intent
  refine ⟨model.filter_lines style intent, ?_, hmarks, hmocks, close_notMem_argumentLines _,
    model.arguments_lines style intent⟩
  rw [filter_lines, length_functionLines]

/-- A service with a private method, and with a type and a method that repeat the marks. -/
def accounts : ServiceModel where
  packageName := "com.acme"
  className := "Accounts"
  imports := ["com.acme.store.Store"]
  dependencies := [⟨"store", "Store", some "com.acme.store.Store"⟩, ⟨"clock", "    @MockK", none⟩]
  methods := [⟨"    fun `", "Long", none, false⟩, ⟨"audit", "Unit", none, true⟩]

theorem render_layout_accounts : accounts.Unbroken ∧
    (textLines (accounts.render .isolatedMock .unit)).filter opensFunction =
        [functionLine "    fun `_success", functionLine "    fun `_error"] ∧
      accounts.caseCount = 2 ∧
      (textLines (accounts.render .isolatedMock .unit)).count "    @MockK" = 2 ∧
      linesBelow "    @MockK" (textLines (accounts.render .isolatedMock .unit)) =
        [propertyLine "store" "Store", propertyLine "clock" "    @MockK"] ∧
      ∃ front back : List String, textLines (accounts.render .isolatedMock .unit) =
        front ++ "        accounts = Accounts(" :: "            store = store," ::
          "            clock = clock" :: "        )" :: back := by
  have h : accounts.Unbroken :=
    ⟨.literal (by decide), .literal (by decide), by decide, by decide,
      by decide⟩
  obtain ⟨hfunctions, -, hcount, hmocks, -, front, back, hlines, -⟩ :=
    render_layout h .isolatedMock .unit
  have hsuccess : "    fun `" ++ "_success" = "    fun `_success" := by decide
  have herror : "    fun `" ++ "_error" = "    fun `_error" := by decide
  have hsetUp : accounts.setUpLine = "        accounts = Accounts(" := by decide
  have harguments : argumentLines accounts.dependencies =
      ["            store = store,", "            clock = clock"] := by decide
  rw [hsetUp, harguments] at hlines
  refine ⟨h, hfunctions.trans ?_, rfl, hcount, hmocks, front, back, hlines⟩
  rw [← hsuccess, ← herror]
  rfl

end ServiceModel

end TestForge
