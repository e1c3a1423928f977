import TestForge.Proofs.Text.Pieces

/-!
# Texts as lines

A text is written line by line and read again at its line feeds. What comes back are the lines, if
none of them has a line feed itself.
-/

namespace TestForge.Text

def OneLine (text : String) : Prop :=
  '\n' ∉ text.toList

instance (text : String) : Decidable (OneLine text) :=
  inferInstanceAs (Decidable ('\n' ∉ text.toList))

theorem OneLine.literal {s : List Char} (h : '\n' ∉ s) : OneLine (String.ofList s) := by
  rw [OneLine, String.toList_ofList]
  exact h

theorem OneLine.append {a b : String} (ha : OneLine a) (hb : OneLine b) : OneLine (a ++ b) := by
  rw [OneLine, String.toList_append, List.mem_append, not_or]
  exact ⟨ha, hb⟩

/-! ## Writing and reading lines -/

/-- The lines one below the other, each with its line feed. -/
def unlines : List String → String
  | [] => ""
  | line :: lines => line ++ ("\n" ++ unlines lines)

/-- The pieces between line feeds. The one behind the last line feed counts, even if it is empty. -/
def textLines (text : String) : List String :=
  (splitAtChar '\n' text.toList).map String.ofList

theorem unlines_nil : unlines [] = "" :=
  rfl

theorem unlines_cons (line : String) (lines : List String) :
    unlines (line :: lines) = line ++ ("\n" ++ unlines lines) :=
  rfl

theorem unlines_append (front back : List String) :
    unlines (front ++ back) = unlines front ++ unlines back := by
  induction front with
  | nil => rw [List.nil_append, unlines_nil, String.empty_append]
  | cons line front ih =>
      rw [List.cons_append, unlines_cons, unlines_cons, ih, String.append_assoc,
        String.append_assoc]

theorem unlines_flatMap {α : Type} (f : α → List String) (xs : List α) :
    unlines (xs.flatMap f) = String.join (xs.map fun x => unlines (f x)) := by
  induction xs with
  | nil => rfl
  | cons x xs ih =>
      rw [List.flatMap_cons, unlines_append, ih, List.map_cons, String.join_cons]

theorem textLines_unlines {lines : List String} (h : ∀ line ∈ lines, OneLine line) :
    textLines (unlines lines) = lines ++ [""] := by
  induction lines with
  | nil => rfl
  | cons line lines ih =>
      obtain ⟨hline, hlines⟩ := List.forall_mem_cons.1 h
      have htext : (unlines (line :: lines)).toList =
          line.toList ++ '\n' :: (unlines lines).toList := by
        have hfeed : "\n".toList = ['\n'] := rfl
        rw [unlines_cons, String.toList_append, String.toList_append, hfeed, List.singleton_append]
      have hrest := ih hlines
      unfold textLines at hrest ⊢
      rw [htext, splitAtChar_append, splitAtChar_eq_singleton hline, List.map_append, hrest,
        List.map_singleton, String.ofList_toList]
      rfl

/-! ## Lines behind a mark -/

/-- The lines directly below a mark, one for each mark but a last line. -/
def linesBelow (mark : String) : List String → List String
  | line :: next :: lines =>
    if line = mark then next :: linesBelow mark (next :: lines) else linesBelow mark (next :: lines)
  | _ => []

theorem linesBelow_cons_of_ne {mark line : String} (h : line ≠ mark) (lines : List String) :
    linesBelow mark (line :: lines) = linesBelow mark lines := by
  cases lines with
  | nil => rfl
  | cons next lines => exact if_neg h

theorem linesBelow_mark (mark next : String) (lines : List String) :
    linesBelow mark (mark :: next :: lines) = next :: linesBelow mark (next :: lines) :=
  if_pos rfl

theorem linesBelow_append {mark : String} {front : List String} (h : mark ∉ front)
    (back : List String) : linesBelow mark (front ++ back) = linesBelow mark back := by
  induction front with
  | nil => rfl
  | cons line front ih =>
      rw [List.mem_cons, not_or] at h
      rw [List.cons_append, linesBelow_cons_of_ne (Ne.symm h.1), ih h.2]

theorem linesBelow_eq_nil {mark : String} {lines : List String} (h : mark ∉ lines) :
    linesBelow mark lines = [] := by
  rw [← List.append_nil lines, linesBelow_append h]
  rfl

end TestForge.Text
