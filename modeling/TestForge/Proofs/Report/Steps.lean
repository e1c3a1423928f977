import TestForge.Report.StepLog

/-!
# Laws of the step log
-/

namespace TestForge.StepLog

theorem changeOpen_concat (change : Step → Step) (steps : List Step) (s : Step) :
    changeOpen change (steps ++ [s]) = steps ++ [if s.status.isOpen then change s else s] := by
  induction steps with
  | nil => simp only [List.nil_append, changeOpen]; split <;> rfl
  | cons t rest ih =>
      cases rest with
      | nil => simp [changeOpen]; split <;> rfl
      | cons u rest => simpa [changeOpen] using ih

/-! ## Absorbing -/

theorem renumber_concat (first : Nat) (steps : List Step) (s : Step) :
    renumber first (steps ++ [s]) =
      renumber first steps ++ [{ s with ordinal := first + steps.length }] := by
  induction steps generalizing first with
  | nil => rfl
  | cons t rest ih => simp [renumber, ih, Nat.add_assoc, Nat.add_comm 1]

theorem absorb_concat (log : StepLog) (steps : List Step) (s : Step) :
    log.absorb ⟨steps ++ [s]⟩ =
      ⟨(log.absorb ⟨steps⟩).steps ++ [{ s with ordinal := log.count + steps.length + 1 }]⟩ := by
  simp [absorb, renumber_concat, Nat.add_right_comm]

theorem hasFailure_absorb (log other : StepLog) :
    (log.absorb other).hasFailure = (log.hasFailure || other.hasFailure) := by
  suffices h : ∀ first (steps : List Step),
      (renumber first steps).any (fun s => s.status == .failed) =
        steps.any fun s => s.status == .failed by
    simp [absorb, hasFailure, h]
  intro first steps
  induction steps generalizing first with
  | nil => rfl
  | cons t rest ih => simp [renumber, ih]

/-! ## Logs that are over -/

/-- A log without an open step: its names begin a list of names, it is numbered from one, every step
but the last is completed, and the last is completed or failed. -/
structure Closed (names : List String) (log : StepLog) : Prop where
  names : log.steps.map (·.name) <+: names
  ordinals : log.steps.map (·.ordinal) = List.range' 1 log.count
  completed : ∀ s ∈ log.steps.dropLast, s.status = .completed
  last : ∀ s, log.last? = some s → s.status = .completed ∨ s.status = .failed

/-- A log whose steps are all completed. -/
structure Done (names : List String) (log : StepLog) : Prop where
  names : log.steps.map (·.name) = names
  ordinals : log.steps.map (·.ordinal) = List.range' 1 log.count
  completed : ∀ s ∈ log.steps, s.status = .completed

theorem done_empty : Done [] empty :=
  ⟨rfl, rfl, by simp [empty]⟩

variable {names more : List String} {log other : StepLog} {s : Step}

theorem ordinals_concat (h : log.steps.map (·.ordinal) = List.range' 1 log.count)
    (ho : s.ordinal = log.count + 1) :
    (log.steps ++ [s]).map (·.ordinal) = List.range' 1 (log.count + 1) := by
  rw [List.map_append, h, List.map_singleton, ho, List.range'_1_concat, Nat.add_comm 1]

theorem Done.concat (h : Done names log) (ho : s.ordinal = log.count + 1)
    (hs : s.status = .completed) : Done (names ++ [s.name]) ⟨log.steps ++ [s]⟩ where
  names := by rw [List.map_append, h.names, List.map_singleton]
  ordinals := by simpa [count] using ordinals_concat h.ordinals ho
  completed := by
    intro t ht
    rcases List.mem_append.1 ht with ht | ht
    · exact h.completed t ht
    · rw [List.mem_singleton.1 ht]
      exact hs

theorem Done.closed (h : Done names log) (hp : names <+: more) : Closed more log where
  names := h.names ▸ hp
  ordinals := h.ordinals
  completed t ht := h.completed t (List.dropLast_subset _ ht)
  last t ht := Or.inl (h.completed t (List.mem_of_getLast? ht))

/-- One more step, which may have failed. -/
theorem Done.closed_concat (h : Done names log) (ho : s.ordinal = log.count + 1)
    (hs : s.status = .completed ∨ s.status = .failed) (hp : names ++ [s.name] <+: more) :
    Closed more ⟨log.steps ++ [s]⟩ where
  names := by rwa [List.map_append, h.names, List.map_singleton]
  ordinals := by simpa [count] using ordinals_concat h.ordinals ho
  completed := by
    rw [List.dropLast_concat]
    exact h.completed
  last := by
    intro t ht
    simp only [last?, List.getLast?_concat, Option.some.injEq] at ht
    exact ht ▸ hs

/-! ## Absorbing into completed steps -/

@[simp] theorem length_renumber (first : Nat) (steps : List Step) :
    (renumber first steps).length = steps.length := by
  induction steps generalizing first with
  | nil => rfl
  | cons s rest ih => simp [renumber, ih]

@[simp] theorem map_name_renumber (first : Nat) (steps : List Step) :
    (renumber first steps).map (·.name) = steps.map (·.name) := by
  induction steps generalizing first with
  | nil => rfl
  | cons s rest ih => simp [renumber, ih]

@[simp] theorem map_ordinal_renumber (first : Nat) (steps : List Step) :
    (renumber first steps).map (·.ordinal) = List.range' first steps.length := by
  induction steps generalizing first with
  | nil => rfl
  | cons s rest ih => simp [renumber, ih, List.range'_succ]

/-- Renumbered steps are the old ones but for their ordinals, which start where they are to. -/
theorem mem_renumber {first : Nat} {steps : List Step} (h : s ∈ renumber first steps) :
    first ≤ s.ordinal ∧ ∃ t ∈ steps, s = { t with ordinal := s.ordinal } := by
  induction steps generalizing first with
  | nil => simp [renumber] at h
  | cons t rest ih =>
      rcases List.mem_cons.1 h with rfl | h
      · exact ⟨Nat.le_refl _, t, by simp, rfl⟩
      · obtain ⟨hle, u, hu, hs⟩ := ih h
        exact ⟨Nat.le_of_succ_le hle, u, List.mem_cons_of_mem _ hu, hs⟩

theorem ordinals_absorb (h : log.steps.map (·.ordinal) = List.range' 1 log.count)
    (other : StepLog) :
    (log.absorb other).steps.map (·.ordinal) = List.range' 1 (log.absorb other).count := by
  rw [absorb, List.map_append, h, map_ordinal_renumber]
  simp only [count, List.length_append, length_renumber]
  rw [Nat.add_comm log.steps.length 1]
  exact List.range'_append_1

theorem Done.absorb (h : Done names log) (steps : List Step)
    (hs : ∀ s ∈ steps, s.status = .completed) :
    Done (names ++ steps.map (·.name)) (log.absorb ⟨steps⟩) where
  names := by rw [StepLog.absorb, List.map_append, h.names, map_name_renumber]
  ordinals := ordinals_absorb h.ordinals ⟨steps⟩
  completed := by
    intro t ht
    rcases List.mem_append.1 ht with ht | ht
    · exact h.completed t ht
    · obtain ⟨-, u, hu, he⟩ := mem_renumber ht
      rw [he]
      exact hs u hu

/-- The steps of another log behind completed steps: only its last one may have failed. -/
theorem Done.closed_absorb (h : Done names log) (k : Closed more other) :
    Closed (names ++ more) (log.absorb other) := by
  obtain ⟨steps⟩ := other
  rcases List.eq_nil_or_concat steps with rfl | ⟨init, s, rfl⟩
  · have ha := h.absorb [] (by simp)
    rw [List.map_nil, List.append_nil] at ha
    exact ha.closed (List.prefix_append names more)
  · rw [List.concat_eq_append] at k ⊢
    have hc := k.completed
    have hl := k.last s List.getLast?_concat
    have hn := k.names
    rw [List.dropLast_concat] at hc
    rw [List.map_append, List.map_singleton] at hn
    rw [absorb_concat]
    refine (h.absorb _ hc).closed_concat ?_ hl ?_
    · simp [StepLog.absorb, count]
    · rw [List.append_assoc]
      exact (List.prefix_append_right_inj names).2 hn

end TestForge.StepLog
