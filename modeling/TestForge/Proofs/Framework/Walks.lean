import TestForge.Proofs.FileSystem.Entering
import TestForge.Proofs.Framework.MarkerScan

/-!
# Walks of a tree

A walk of a directory comes to its entries in the order in which they are listed, and goes into
those that are directories, unless their names are skipped. Whatever the order is, it comes to each
file that no skipped directory hides, and to no other.
-/

namespace TestForge.MarkerScan

open FileSystem

variable {fs : FileSystem} {base : Location} {listing : List String → List String}

/-- The names of the entries of each directory below a place, in any order. -/
def Lists (fs : FileSystem) (base : Location) (listing : List String → List String) : Prop :=
  ∀ dir name, name ∈ listing dir ↔ fs.get? (base ++ (dir ++ [name])) ≠ none

theorem get?_of_content? {place : Location} (h : fs.content? place ≠ none) :
    fs.get? place ≠ none := by
  intro hg
  rw [FileSystem.content?, hg] at h
  exact h rfl

/-- Every name on the way to a file is that of an entry. -/
theorem get?_of_way (ht : fs.IsTree) {place : Location} {name : String} {way : List String}
    (h : fs.content? (place ++ name :: way) ≠ none) : fs.get? (place ++ [name]) ≠ none := by
  by_cases hway : way = []
  · subst hway
    exact get?_of_content? h
  · have hdir : fs.get? (place ++ [name]) = some .directory :=
      ht.directory hway (by simpa using get?_of_content? h)
    rw [hdir]
    exact Option.some_ne_none _

/-- A walk along the listed entries of a directory, with all that it comes to in order. -/
inductive Visits (fs : FileSystem) (base : Location) (listing : List String → List String) :
    List String → List String → List (List String) → Prop
  | done {dir} : Visits fs base listing dir [] []
  | skipped {dir name rest seen} (hd : fs.get? (base ++ (dir ++ [name])) = some .directory)
      (hs : isSkipped name = true) (next : Visits fs base listing dir rest seen) :
      Visits fs base listing dir (name :: rest) seen
  | entered {dir name rest inner seen} (hd : fs.get? (base ++ (dir ++ [name])) = some .directory)
      (hs : isSkipped name = false)
      (within : Visits fs base listing (dir ++ [name]) (listing (dir ++ [name])) inner)
      (next : Visits fs base listing dir rest seen) :
      Visits fs base listing dir (name :: rest) ((dir ++ [name]) :: (inner ++ seen))
  | passed {dir name rest seen} (hd : fs.get? (base ++ (dir ++ [name])) ≠ some .directory)
      (next : Visits fs base listing dir rest seen) :
      Visits fs base listing dir (name :: rest) ((dir ++ [name]) :: seen)

/-! ## Walks come to an end -/

theorem visits_of_within {dir rest : List String}
    (h : ∀ name, fs.get? (base ++ (dir ++ [name])) = some .directory →
      ∃ inner, Visits fs base listing (dir ++ [name]) (listing (dir ++ [name])) inner) :
    ∃ seen, Visits fs base listing dir rest seen := by
  induction rest with
  | nil => exact ⟨[], .done⟩
  | cons name rest ih =>
      obtain ⟨seen, hnext⟩ := ih
      by_cases hd : fs.get? (base ++ (dir ++ [name])) = some .directory
      · cases hs : isSkipped name with
        | true => exact ⟨seen, .skipped hd hs hnext⟩
        | false =>
            obtain ⟨inner, hwithin⟩ := h name hd
            exact ⟨_, .entered hd hs hwithin hnext⟩
      · exact ⟨_, .passed hd hnext⟩

/-- Every directory can be walked, as the tree ends below it. -/
theorem exists_visits (fs : FileSystem) (base : Location) (listing : List String → List String)
    (dir rest : List String) : ∃ seen, Visits fs base listing dir rest seen := by
  obtain ⟨depth, hdepth⟩ := fs.exists_depth
  have hroom : ∀ room dir rest, depth ≤ (base ++ dir).length + room →
      ∃ seen, Visits fs base listing dir rest seen := by
    intro room
    induction room with
    | zero =>
        intro dir rest hr
        refine visits_of_within fun name hd => ?_
        have hle := hdepth (base ++ (dir ++ [name])) (by simp [hd])
        simp only [List.length_append, List.length_singleton] at hr hle
        omega
    | succ room ih =>
        intro dir rest hr
        refine visits_of_within fun name _ => ih (dir ++ [name]) _ ?_
        simp only [List.length_append, List.length_singleton] at hr ⊢
        omega
  exact hroom depth dir rest (Nat.le_add_left _ _)

/-! ## What a walk comes to -/

theorem unskipped_cons {name : String} {names : List String} :
    unskipped (name :: names) = true ↔ isSkipped name = false ∧ unskipped names = true := by
  simp [unskipped]

/-- No skipped directory lies on the way to what a walk comes to. -/
theorem unskipped_of_visits {dir rest : List String} {seen : List (List String)}
    (h : Visits fs base listing dir rest seen) :
    ∀ names ∈ seen, ∃ way, way ≠ [] ∧ names = dir ++ way ∧ unskipped way.dropLast = true := by
  induction h with
  | done => exact fun names hm => absurd hm List.not_mem_nil
  | skipped _ _ _ ih => exact ih
  | @entered dir name rest inner seen _ hs _ _ ihin ih =>
      intro names hm
      rcases List.mem_cons.1 hm with rfl | hm
      · exact ⟨[name], by simp, rfl, rfl⟩
      · rcases List.mem_append.1 hm with hm | hm
        · obtain ⟨way, hne, rfl, hway⟩ := ihin names hm
          refine ⟨name :: way, by simp, by simp, ?_⟩
          rw [List.dropLast_cons_of_ne_nil hne]
          exact unskipped_cons.2 ⟨hs, hway⟩
        · exact ih names hm
  | @passed dir name rest seen _ _ ih =>
      intro names hm
      rcases List.mem_cons.1 hm with rfl | hm
      · exact ⟨[name], by simp, rfl, rfl⟩
      · exact ih names hm

/-- A walk comes to every file that no skipped directory hides. -/
theorem mem_of_visits (ht : fs.IsTree) (hl : Lists fs base listing) {dir rest : List String}
    {seen : List (List String)} (h : Visits fs base listing dir rest seen) {name : String}
    {way : List String} (hm : name ∈ rest) (hf : fs.content? (base ++ (dir ++ name :: way)) ≠ none)
    (hs : unskipped (name :: way).dropLast = true) : dir ++ name :: way ∈ seen := by
  induction h generalizing name way with
  | done => exact absurd hm List.not_mem_nil
  | @skipped dir other rest seen hd hskip _ ih =>
      rcases List.mem_cons.1 hm with rfl | hm
      · cases way with
        | nil =>
            rw [FileSystem.content?, hd] at hf
            exact absurd rfl hf
        | cons next way =>
            rw [List.dropLast_cons_of_ne_nil (List.cons_ne_nil next way), unskipped_cons,
              hskip] at hs
            exact absurd hs.1 (Bool.true_eq_false.mp)
      · exact ih hm hf hs
  | @entered dir other rest inner seen hd hskip _ _ ihin ih =>
      rcases List.mem_cons.1 hm with rfl | hm
      · cases way with
        | nil => exact List.mem_cons_self
        | cons next way =>
            rw [List.dropLast_cons_of_ne_nil (List.cons_ne_nil next way), unskipped_cons] at hs
            have hfile : fs.content? (base ++ (dir ++ [name] ++ next :: way)) ≠ none := by
              simpa using hf
            have hnext : next ∈ listing (dir ++ [name]) := by
              rw [hl, ← List.append_assoc]
              exact get?_of_way ht (by rwa [List.append_assoc])
            have hwithin := ihin hnext hfile hs.2
            rw [List.append_assoc, List.singleton_append] at hwithin
            exact List.mem_cons_of_mem _ (List.mem_append_left _ hwithin)
      · exact List.mem_cons_of_mem _ (List.mem_append_right _ (ih hm hf hs))
  | @passed dir other rest seen hd _ ih =>
      rcases List.mem_cons.1 hm with rfl | hm
      · cases way with
        | nil => exact List.mem_cons_self
        | cons next way =>
            have hdir : fs.get? (base ++ (dir ++ [name])) = some .directory :=
              ht.directory (List.cons_ne_nil next way) (by simpa using get?_of_content? hf)
            exact absurd hdir hd
      · exact List.mem_cons_of_mem _ (ih hm hf hs)

end TestForge.MarkerScan
