import TestForge.Proofs.Report.Steps

/-!
# How a step log comes about

A log comes from the empty one by changes, and so does every log that it absorbs. Whatever the order
of the changes, the steps are numbered from one, a step is final once it is over or another stands
behind it, and its status tells whether it has a result or an error.
-/

namespace TestForge

/-- A step has a result if and only if it is completed, and an error if and only if it failed. -/
structure Step.Coherent (s : Step) : Prop where
  result : s.result.isSome = true ↔ s.status = .completed
  error : s.error.isSome = true ↔ s.status = .failed

theorem StepStatus.isOpen_eq_false_iff {status : StepStatus} :
    status.isOpen = false ↔ status = .completed ∨ status = .failed := by
  cases status <;> simp [isOpen]

namespace StepLog

/-! ## Changes -/

inductive Change where
  | begin (name message : String)
  | note (suffix : String)
  | complete (result : Json)
  | fail (error : String)
  | absorb (other : StepLog)

namespace Change

def apply (log : StepLog) : Change → StepLog
  | .begin name message => (log.begin name message).2
  | .note suffix => log.note suffix
  | .complete result => log.complete result
  | .fail error => log.fail error
  | .absorb other => log.absorb other

/-- The log whose steps a change appends. -/
def absorbed? : Change → Option StepLog
  | .absorb other => some other
  | _ => none

end Change

/-- Logs that come from the empty one by changes, those they absorb included. -/
inductive Recorded : StepLog → Prop
  | empty : Recorded .empty
  | change {log : StepLog} (h : Recorded log) (c : Change)
      (hc : ∀ other, c.absorbed? = some other → Recorded other) : Recorded (c.apply log)

/-! ## The open step -/

/-- A change of the open step leaves a log alone that has none. -/
theorem changeOpen_cases (change : Step → Step) (steps : List Step) :
    (changeOpen change steps = steps ∧ ∀ s, steps.getLast? = some s → s.status.isOpen = false) ∨
      ∃ front s, steps = front ++ [s] ∧ s.status.isOpen = true ∧
        changeOpen change steps = front ++ [change s] := by
  rcases List.eq_nil_or_concat steps with rfl | ⟨front, s, rfl⟩
  · exact .inl ⟨rfl, nofun⟩
  · rw [List.concat_eq_append, changeOpen_concat]
    cases hs : s.status.isOpen with
    | true => exact .inr ⟨front, s, rfl, hs, rfl⟩
    | false =>
        refine .inl ⟨rfl, fun t ht => ?_⟩
        rw [List.getLast?_concat, Option.some.injEq] at ht
        exact ht ▸ hs

theorem changeOpen_of_closed {change : Step → Step} {steps : List Step}
    (h : ∀ s, steps.getLast? = some s → s.status.isOpen = false) :
    changeOpen change steps = steps := by
  rcases changeOpen_cases change steps with ⟨hsame, -⟩ | ⟨front, s, rfl, hs, -⟩
  · exact hsame
  · rw [h s List.getLast?_concat] at hs
    cases hs

/-- Only the last step is ever changed, and only while it is open. -/
theorem getElem?_changeOpen {change : Step → Step} {steps : List Step} {i : Nat} {s : Step}
    (hi : steps[i]? = some s) (hs : i + 1 < steps.length ∨ s.status.isOpen = false) :
    (changeOpen change steps)[i]? = some s := by
  rcases changeOpen_cases change steps with ⟨hsame, -⟩ | ⟨front, t, rfl, ht, hchanged⟩
  · rw [hsame, hi]
  · rw [hchanged]
    have hlt : i < front.length := by
      have hlength := (List.getElem?_eq_some_iff.1 hi).1
      simp only [List.length_append, List.length_singleton] at hs hlength
      rcases hs with hs | hs
      · omega
      · rcases Nat.lt_succ_iff_lt_or_eq.1 hlength with hlt | rfl
        · exact hlt
        · rw [List.getElem?_concat_length, Option.some.injEq] at hi
          rw [hi, hs] at ht
          cases ht
    rw [List.getElem?_append_left hlt] at hi ⊢
    exact hi

theorem getElem?_apply {log : StepLog} (c : Change) {i : Nat} {s : Step}
    (hi : log.steps[i]? = some s)
    (hs : i + 1 < log.count ∨ s.status = .completed ∨ s.status = .failed) :
    (c.apply log).steps[i]? = some s := by
  rw [← StepStatus.isOpen_eq_false_iff] at hs
  have hlt := (List.getElem?_eq_some_iff.1 hi).1
  cases c with
  | begin name message => exact (List.getElem?_append_left hlt).trans hi
  | note suffix => exact getElem?_changeOpen hi hs
  | complete result => exact getElem?_changeOpen hi hs
  | fail error => exact getElem?_changeOpen hi hs
  | absorb other => exact (List.getElem?_append_left hlt).trans hi

/-! ## Numbers, results and errors -/

/-- The steps are numbered from one, and each is coherent. -/
structure Coherent (log : StepLog) : Prop where
  ordinals : log.steps.map (·.ordinal) = List.range' 1 log.count
  steps : ∀ s ∈ log.steps, s.Coherent

variable {log other : StepLog}

theorem Coherent.begin (h : log.Coherent) (name message : String) :
    (log.begin name message).2.Coherent where
  ordinals := by
    have hnew := ordinals_concat (s := ⟨log.count + 1, name, .inProgress, message, none, none⟩)
      h.ordinals rfl
    simpa [count, StepLog.begin] using hnew
  steps := by
    intro s hs
    rcases List.mem_append.1 hs with hs | hs
    · exact h.steps s hs
    · rw [List.mem_singleton.1 hs]
      exact ⟨by simp, by simp⟩

theorem Coherent.changeOpen {change : Step → Step} (h : log.Coherent)
    (hordinal : ∀ s, (change s).ordinal = s.ordinal)
    (hchange : ∀ s, s.status.isOpen = true → s.Coherent → (change s).Coherent) :
    Coherent ⟨StepLog.changeOpen change log.steps⟩ := by
  rcases changeOpen_cases change log.steps with ⟨hsame, -⟩ | ⟨front, s, hsteps, hs, hchanged⟩
  · rw [hsame]
    exact h
  · obtain ⟨steps⟩ := log
    subst hsteps
    rw [hchanged]
    refine ⟨?_, fun t ht => ?_⟩
    · simpa [count, hordinal] using h.ordinals
    · rcases List.mem_append.1 ht with ht | ht
      · exact h.steps t (List.mem_append_left _ ht)
      · rw [List.mem_singleton.1 ht]
        exact hchange s hs (h.steps s List.mem_concat_self)

theorem Coherent.absorb (h : log.Coherent) (ho : other.Coherent) : (log.absorb other).Coherent where
  ordinals := ordinals_absorb h.ordinals other
  steps := by
    intro s hs
    rcases List.mem_append.1 hs with hs | hs
    · exact h.steps s hs
    · obtain ⟨-, t, ht, he⟩ := mem_renumber hs
      rw [he]
      exact ⟨(ho.steps t ht).result, (ho.steps t ht).error⟩

/-- An open step has neither a result nor an error. -/
theorem Step.Coherent.of_open {s : Step} (h : s.Coherent) (hs : s.status.isOpen = true) :
    s.result = none ∧ s.error = none := by
  have hopen : ¬(s.status = .completed ∨ s.status = .failed) := by
    rw [← StepStatus.isOpen_eq_false_iff, hs]
    exact nofun
  rw [not_or] at hopen
  exact ⟨Option.not_isSome_iff_eq_none.1 (mt h.result.1 hopen.1),
    Option.not_isSome_iff_eq_none.1 (mt h.error.1 hopen.2)⟩

theorem Coherent.apply (h : log.Coherent) (c : Change)
    (hc : ∀ other, c.absorbed? = some other → other.Coherent) : (c.apply log).Coherent := by
  cases c with
  | begin name message => exact h.begin name message
  | note suffix => exact h.changeOpen (fun _ => rfl) fun s _ hs => ⟨hs.result, hs.error⟩
  | complete result =>
      refine h.changeOpen (fun _ => rfl) fun s hopen hs => ⟨by simp, ?_⟩
      simp [(Step.Coherent.of_open hs hopen).2]
  | fail error =>
      refine h.changeOpen (fun _ => rfl) fun s hopen hs => ⟨?_, by simp⟩
      simp [(Step.Coherent.of_open hs hopen).1]
  | absorb other => exact h.absorb (hc other rfl)

theorem Recorded.coherent (h : Recorded log) : log.Coherent := by
  induction h with
  | empty => exact ⟨rfl, nofun⟩
  | change _ c _ ih ihc => exact ih.apply c ihc

theorem Coherent.ordinal (h : log.Coherent) {i : Nat} {s : Step} (hi : log.steps[i]? = some s) :
    s.ordinal = i + 1 := by
  have hlt := (List.getElem?_eq_some_iff.1 hi).1
  have hordinal : (log.steps.map (·.ordinal))[i]? = some s.ordinal := by
    rw [List.getElem?_map, hi, Option.map_some]
  rw [h.ordinals, count, List.getElem?_range' hlt, Option.some.injEq] at hordinal
  omega

/-! ## Absorbing -/

theorem renumber_eq (first : Nat) (steps : List Step) :
    renumber first steps = (steps.zipIdx first).map fun (s, n) => { s with ordinal := n } := by
  induction steps generalizing first with
  | nil => rfl
  | cons s steps ih => rw [renumber, ih, List.zipIdx_cons, List.map_cons]

theorem renumber_append (first : Nat) (front back : List Step) :
    renumber first (front ++ back) =
      renumber first front ++ renumber (first + front.length) back := by
  induction front generalizing first with
  | nil => rfl
  | cons s front ih =>
      simp only [List.cons_append, renumber, ih, List.length_cons, Nat.add_assoc, Nat.add_comm 1]

theorem renumber_renumber (first other : Nat) (steps : List Step) :
    renumber first (renumber other steps) = renumber first steps := by
  induction steps generalizing first other with
  | nil => rfl
  | cons s steps ih => simp only [renumber, ih]

theorem absorb_assoc (log other third : StepLog) :
    (log.absorb other).absorb third = log.absorb (other.absorb third) := by
  simp only [absorb, count, renumber_append, renumber_renumber, List.append_assoc,
    List.length_append, length_renumber, Nat.add_right_comm]

/-! ## All logs -/

theorem not_succeeded_of_hasFailure (h : log.hasFailure = true) : log.succeeded = false := by
  obtain ⟨s, hs, hfailed⟩ := List.any_eq_true.1 h
  refine Bool.eq_false_iff.2 fun hall => ?_
  have hcompleted := List.all_eq_true.1 hall s hs
  rw [beq_iff_eq] at hfailed hcompleted
  rw [hfailed] at hcompleted
  cases hcompleted

/-- Whatever changes a log comes from, its steps are numbered in order and coherent, and it has not
both succeeded and failed. A further change leaves all steps alone but an open one at the end; a log
that is absorbed keeps its steps but for their numbers, in whatever order logs are absorbed. -/
theorem log_invariants (h : Recorded log) :
    (∀ i s, log.steps[i]? = some s → s.ordinal = i + 1 ∧ s.Coherent) ∧
    ¬(log.succeeded = true ∧ log.hasFailure = true) ∧
    (∀ name message, (log.begin name message).1 = (log.begin name message).2.count ∧
      (log.begin name message).2.count = log.count + 1) ∧
    (∀ (c : Change) i s, log.steps[i]? = some s →
      i + 1 < log.count ∨ s.status = .completed ∨ s.status = .failed →
        (c.apply log).steps[i]? = some s) ∧
    ((∀ s, log.last? = some s → s.status = .completed ∨ s.status = .failed) →
      ∀ suffix result error,
        log.note suffix = log ∧ log.complete result = log ∧ log.fail error = log) ∧
    ∀ other third,
      (log.absorb other).steps = log.steps ++
        (other.steps.zipIdx (log.count + 1)).map (fun (s, n) => { s with ordinal := n }) ∧
      (log.absorb other).absorb third = log.absorb (other.absorb third) := by
  refine ⟨fun i s hi => ⟨h.coherent.ordinal hi, h.coherent.steps s (List.mem_of_getElem? hi)⟩,
    fun ⟨hs, hf⟩ => ?_, fun name message => ⟨?_, ?_⟩, fun c i s hi hs => getElem?_apply c hi hs,
    fun hlast suffix result error => ?_, fun other third => ⟨?_, absorb_assoc log other third⟩⟩
  · rw [not_succeeded_of_hasFailure hf] at hs
    cases hs
  · simp [begin, count]
  · simp [begin, count]
  · have hclosed : ∀ s, log.steps.getLast? = some s → s.status.isOpen = false :=
      fun s hs => StepStatus.isOpen_eq_false_iff.2 (hlast s hs)
    simp only [note, complete, fail, changeOpen_of_closed hclosed, and_self]
  · rw [absorb, renumber_eq]

/-- A log in which one step begins before another is over, steps are completed too late, and a log
is absorbed into an open step. -/
def misused : StepLog :=
  ((((empty.begin "first" "").2.begin "second" "").2.complete .null).fail "late").absorb
    ((empty.begin "third" "").2.absorb ((empty.begin "fourth" "").2.fail "lost"))

theorem recorded_misused : Recorded misused := by
  have hnone {c : Change} (h : c.absorbed? = none) (other : StepLog)
      (ho : c.absorbed? = some other) : Recorded other := by
    rw [h] at ho
    cases ho
  have hfourth : Recorded ((empty.begin "fourth" "").2.fail "lost") :=
    .change (.change .empty (.begin "fourth" "") (hnone rfl)) (.fail "lost") (hnone rfl)
  have hthird : Recorded ((empty.begin "third" "").2.absorb _) :=
    .change (.change .empty (.begin "third" "") (hnone rfl)) (.absorb _) fun _ ho =>
      Option.some.inj ho ▸ hfourth
  have hsecond : Recorded ((empty.begin "first" "").2.begin "second" "").2 :=
    .change (.change .empty (.begin "first" "") (hnone rfl)) (.begin "second" "") (hnone rfl)
  have hlate : Recorded
      ((((empty.begin "first" "").2.begin "second" "").2.complete .null).fail "late") :=
    .change (.change hsecond (.complete .null) (hnone rfl)) (.fail "late") (hnone rfl)
  exact .change hlate (.absorb _) fun _ ho => Option.some.inj ho ▸ hthird

theorem log_invariants_misused :
    Recorded misused ∧
      misused.steps.map (·.status) = [.inProgress, .completed, .inProgress, .failed] ∧
      (∀ i s, misused.steps[i]? = some s → s.ordinal = i + 1 ∧ s.Coherent) ∧
      misused.note "too late" = misused := by
  obtain ⟨hsteps, -, -, -, hidle, -⟩ := log_invariants recorded_misused
  refine ⟨recorded_misused, rfl, hsteps, (hidle (fun s hs => ?_) "too late" .null "").1⟩
  cases hs
  exact .inr rfl

end StepLog

end TestForge
