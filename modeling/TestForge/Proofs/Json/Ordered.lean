import TestForge.Json.Decode
import TestForge.Json.Reader

/-!
# Ordered values

A value is ordered if the members of every object in it ascend by name, each name once. Sorting
leaves such a value as it is, all that is read from text is ordered, and so are the members that a
record takes from an ordered value.
-/

namespace TestForge.Json

/-- Each name comes before all that follow it. -/
def Ascending (members : List (String × Json)) : Prop :=
  members.Pairwise fun a b => a.1 < b.1

mutual

def Ordered : Json → Prop
  | .arr items => OrderedItems items
  | .obj members => Ascending members ∧ OrderedMembers members
  | .null | .bool _ | .num _ | .str _ => True

def OrderedItems : List Json → Prop
  | [] => True
  | j :: rest => j.Ordered ∧ OrderedItems rest

def OrderedMembers : List (String × Json) → Prop
  | [] => True
  | (_, j) :: rest => j.Ordered ∧ OrderedMembers rest

end

theorem orderedItems_iff {items : List Json} :
    OrderedItems items ↔ ∀ j ∈ items, j.Ordered := by
  induction items with
  | nil => simp [OrderedItems]
  | cons j rest ih => simp [OrderedItems, ih]

theorem orderedMembers_iff {members : List (String × Json)} :
    OrderedMembers members ↔ ∀ m ∈ members, m.2.Ordered := by
  induction members with
  | nil => simp [OrderedMembers]
  | cons m rest ih =>
      obtain ⟨name, j⟩ := m
      simp [OrderedMembers, ih]

@[simp]
theorem ordered_null : Ordered .null := by
  simp only [Ordered]

@[simp]
theorem ordered_bool (b : Bool) : Ordered (.bool b) := by
  simp only [Ordered]

@[simp]
theorem ordered_num (n : JsonNumber) : Ordered (.num n) := by
  simp only [Ordered]

@[simp]
theorem ordered_str (s : String) : Ordered (.str s) := by
  simp only [Ordered]

@[simp]
theorem ordered_arr {items : List Json} : Ordered (.arr items) ↔ ∀ j ∈ items, j.Ordered := by
  simp only [Ordered, orderedItems_iff]

@[simp]
theorem ordered_obj {members : List (String × Json)} :
    Ordered (.obj members) ↔ Ascending members ∧ ∀ m ∈ members, m.2.Ordered := by
  simp only [Ordered, orderedMembers_iff]

/-! ## Sorting -/

theorem setMember_concat {name : String} {value : Json} {members : List (String × Json)}
    (h : ∀ m ∈ members, m.1 < name) :
    setMember name value members = members ++ [(name, value)] := by
  induction members with
  | nil => rfl
  | cons m rest ih =>
      obtain ⟨key, old⟩ := m
      have hk : key < name := h (key, old) List.mem_cons_self
      have hlt : ¬name < key := String.lt_asymm hk
      have hne : name ≠ key := fun he => String.lt_irrefl key (he ▸ hk)
      simp only [setMember, hlt, hne, ↓reduceIte, List.cons_append,
        ih fun m hm => h m (List.mem_cons_of_mem _ hm)]

/-- Members in order are put one behind the other. -/
theorem sortMembers_ascending {members : List (String × Json)} (h : Ascending members) :
    sortMembers members = members := by
  -- What is done comes before all that is left, so each member goes to the end.
  suffices hs : ∀ done : List (String × Json), (∀ a ∈ done, ∀ b ∈ members, a.1 < b.1) →
      members.foldl (fun sorted m => setMember m.1 m.2 sorted) done = done ++ members from
    hs [] (by simp)
  induction members with
  | nil => simp
  | cons m rest ih =>
      intro done hdone
      have hm : ∀ b ∈ rest, m.1 < b.1 := (List.pairwise_cons.1 h).1
      have hset : setMember m.1 m.2 done = done ++ [m] :=
        setMember_concat fun a ha => hdone a ha m List.mem_cons_self
      rw [List.foldl_cons, hset, ih (List.pairwise_cons.1 h).2]
      · simp
      · intro a ha b hb
        rcases List.mem_append.1 ha with ha | ha
        · exact hdone a ha b (List.mem_cons_of_mem _ hb)
        · rw [List.mem_singleton.1 ha]
          exact hm b hb

mutual

/-- Nothing is left to sort in an ordered value. -/
theorem sorted_of_ordered : (j : Json) → j.Ordered → j.sorted = j
  | .null, _ => rfl
  | .bool _, _ => rfl
  | .num _, _ => rfl
  | .str _, _ => rfl
  | .arr items, h => by
      simp only [Ordered] at h
      rw [sorted, sortedItems_of_ordered items h]
  | .obj members, h => by
      simp only [Ordered] at h
      rw [sorted, sortedMembers_of_ordered members h.2, sortMembers_ascending h.1]

theorem sortedItems_of_ordered :
    (items : List Json) → OrderedItems items → sortedItems items = items
  | [], _ => rfl
  | j :: rest, h => by
      simp only [OrderedItems] at h
      rw [sortedItems, sorted_of_ordered j h.1, sortedItems_of_ordered rest h.2]

theorem sortedMembers_of_ordered :
    (members : List (String × Json)) → OrderedMembers members → sortedMembers members = members
  | [], _ => rfl
  | (_, j) :: rest, h => by
      simp only [OrderedMembers] at h
      rw [sortedMembers, sorted_of_ordered j h.1, sortedMembers_of_ordered rest h.2]

end

/-! ## Values read from text -/

theorem mem_setMember {name : String} {value : Json} {members : List (String × Json)}
    {m : String × Json} (h : m ∈ setMember name value members) :
    m = (name, value) ∨ m ∈ members := by
  induction members with
  | nil => exact Or.inl (List.mem_singleton.1 h)
  | cons head rest ih =>
      obtain ⟨key, old⟩ := head
      simp only [setMember] at h
      split at h
      · exact List.mem_cons.1 h
      · split at h
        · exact (List.mem_cons.1 h).imp_right (List.mem_cons_of_mem _)
        · rcases List.mem_cons.1 h with rfl | h
          · exact Or.inr List.mem_cons_self
          · exact (ih h).imp_right (List.mem_cons_of_mem _)

theorem ascending_setMember {members : List (String × Json)} (h : Ascending members)
    (name : String) (value : Json) : Ascending (setMember name value members) := by
  induction members with
  | nil => exact List.pairwise_singleton _ _
  | cons head rest ih =>
      obtain ⟨key, old⟩ := head
      obtain ⟨hhead, hrest⟩ := List.pairwise_cons.1 h
      simp only [setMember]
      split
      · rename_i hlt
        refine List.pairwise_cons.2 ⟨fun m hm => ?_, h⟩
        rcases List.mem_cons.1 hm with rfl | hm
        · exact hlt
        · exact String.lt_trans hlt (hhead m hm)
      · split
        · rename_i he
          subst he
          exact List.pairwise_cons.2 ⟨hhead, hrest⟩
        · rename_i hlt hne
          have hk : key < name := Std.lt_of_le_of_ne (String.not_lt.1 hlt) (Ne.symm hne)
          refine List.pairwise_cons.2 ⟨fun m hm => ?_, ih hrest⟩
          rcases mem_setMember hm with rfl | hm
          · exact hk
          · exact hhead m hm

/-- One more member keeps an object ordered. -/
theorem ordered_setMember {members : List (String × Json)} {value : Json}
    (h : Ordered (.obj members)) (hv : value.Ordered) (name : String) :
    Ordered (.obj (setMember name value members)) := by
  obtain ⟨hascending, hordered⟩ := ordered_obj.1 h
  refine ordered_obj.2 ⟨ascending_setMember hascending name value, fun m hm => ?_⟩
  rcases mem_setMember hm with rfl | hm
  · exact hv
  · exact hordered m hm

/-- All that a reading can give is ordered. -/
def GivesOrdered (r : Reading Json) : Prop :=
  ∀ j rest, r = .ok (j, rest) → j.Ordered

theorem givesOrdered_ok {j : Json} (h : j.Ordered) (rest : List Char) :
    GivesOrdered (.ok (j, rest)) := by
  rintro _ _ ⟨⟩
  exact h

theorem givesOrdered_error (f : Fault) : GivesOrdered (.error f) := by
  rintro _ _ ⟨⟩

theorem givesOrdered_stop (kind : FaultKind) (s : List Char) : GivesOrdered (stop kind s) :=
  givesOrdered_error _

theorem givesOrdered_stopAhead (kind : FaultKind) (s : List Char) :
    GivesOrdered (stopAhead kind s) :=
  givesOrdered_error _

theorem givesOrdered_word {value : Json} (h : value.Ordered) (letters s : List Char) :
    GivesOrdered (word value letters s) := by
  fun_induction word value letters s with
  | case1 s => exact givesOrdered_ok h s
  | case2 => exact givesOrdered_stop _ _
  | case3 w ws cs ih => exact ih
  | case4 => exact givesOrdered_stop _ _

theorem givesOrdered_finish (negative : Bool) (significand : Nat) (exponent : Int)
    (s : List Char) : GivesOrdered (finish negative significand exponent s) := by
  unfold finish
  split
  · exact givesOrdered_ok (ordered_num _) s
  · exact givesOrdered_stop _ _

theorem givesOrdered_exponentPart (negative : Bool) (significand : Nat) (start : Int)
    (s : List Char) : GivesOrdered (exponentPart negative significand start s) := by
  unfold exponentPart
  split
  split
  · exact givesOrdered_stop _ _
  · split
    · split
      · exact givesOrdered_finish _ _ _ _
      · split
        · exact givesOrdered_stop _ _
        · exact givesOrdered_finish _ _ _ _
    · exact givesOrdered_stop _ _

theorem givesOrdered_afterFraction (negative : Bool) (significand : Nat) (exponent : Int)
    (s : List Char) : GivesOrdered (afterFraction negative significand exponent s) := by
  unfold afterFraction
  split
  · exact givesOrdered_exponentPart _ _ _ _
  · exact givesOrdered_exponentPart _ _ _ _
  · exact givesOrdered_finish _ _ _ _

theorem givesOrdered_fraction (negative : Bool) (significand : Nat) (exponent : Int)
    (s : List Char) : GivesOrdered (fraction negative significand exponent s) := by
  unfold fraction
  split
  split
  · split
    · exact givesOrdered_stopAhead _ _
    · exact givesOrdered_stopAhead _ _
  · exact givesOrdered_afterFraction _ _ _ _

theorem givesOrdered_afterDigits (negative : Bool) (n : Nat) (s : List Char) :
    GivesOrdered (afterDigits negative n s) := by
  unfold afterDigits
  split
  · exact givesOrdered_fraction _ _ _ _
  · exact givesOrdered_exponentPart _ _ _ _
  · exact givesOrdered_exponentPart _ _ _ _
  · exact givesOrdered_ok (ordered_num _) s

theorem givesOrdered_longNumber (negative : Bool) (significand : Nat) (s : List Char) :
    GivesOrdered (longNumber negative significand s) := by
  unfold longNumber
  simp only
  split
  · exact givesOrdered_fraction _ _ _ _
  · exact givesOrdered_afterFraction _ _ _ _

theorem givesOrdered_number (negative : Bool) (s : List Char) :
    GivesOrdered (number negative s) := by
  unfold number
  split
  · exact givesOrdered_stop _ _
  · split
    · exact givesOrdered_stopAhead _ _
    · exact givesOrdered_afterDigits _ _ _
  · split
    · split
      split
      · exact givesOrdered_longNumber _ _ _
      · exact givesOrdered_afterDigits _ _ _
    · exact givesOrdered_stop _ _

mutual

theorem givesOrdered_value : (fuel levels : Nat) → (s : List Char) →
    GivesOrdered (value fuel levels s)
  | 0, _, _ => by
      rw [value]
      exact givesOrdered_stopAhead _ _
  | fuel + 1, levels, s => by
      rw [value]
      split
      · exact givesOrdered_stopAhead _ _
      · exact givesOrdered_word ordered_null _ _
      · exact givesOrdered_word (ordered_bool true) _ _
      · exact givesOrdered_word (ordered_bool false) _ _
      · exact givesOrdered_number _ _
      · split
        · exact givesOrdered_error _
        · exact givesOrdered_ok (ordered_str _) _
      · split
        · exact givesOrdered_stopAhead _ _
        · exact givesOrdered_items fuel _ true [] _ (by simp)
      · split
        · exact givesOrdered_stopAhead _ _
        · exact givesOrdered_members fuel _ true [] _ (by simp [Ascending])
      · split
        · exact givesOrdered_number _ _
        · exact givesOrdered_stopAhead _ _

theorem givesOrdered_items : (fuel levels : Nat) → (first : Bool) → (done : List Json) →
    (s : List Char) → (∀ j ∈ done, j.Ordered) → GivesOrdered (items fuel levels first done s)
  | 0, _, _, _, _, _ => by
      rw [items]
      exact givesOrdered_stopAhead _ _
  | fuel + 1, levels, first, done, s, hd => by
      rw [items]
      split
      · exact givesOrdered_error _
      · refine givesOrdered_ok ?_ _
        exact ordered_arr.2 fun j hj => hd j (List.mem_reverse.1 hj)
      · split
        · exact givesOrdered_error _
        · rename_i j rest hv
          have hj : j.Ordered := givesOrdered_value fuel levels _ j rest hv
          exact givesOrdered_items fuel levels false (j :: done) rest
            (List.forall_mem_cons.2 ⟨hj, hd⟩)

theorem givesOrdered_members : (fuel levels : Nat) → (first : Bool) →
    (done : List (String × Json)) → (s : List Char) → Ordered (.obj done) →
    GivesOrdered (members fuel levels first done s)
  | 0, _, _, _, _, _ => by
      rw [members]
      exact givesOrdered_stopAhead _ _
  | fuel + 1, levels, first, done, s, hd => by
      rw [members]
      split
      · exact givesOrdered_error _
      · exact givesOrdered_ok hd _
      · split
        · exact givesOrdered_error _
        · rename_i name rest hname
          split
          · exact givesOrdered_error _
          · split
            · exact givesOrdered_error _
            · rename_i j rest' hv
              have hj : j.Ordered := givesOrdered_value fuel levels _ j rest' hv
              exact givesOrdered_members fuel levels false (setMember name j done) rest'
                (ordered_setMember hd hj name)

end

/-- What is read from text is ordered. -/
theorem ordered_read {text : String} {j : Json} (h : read text = .ok j) : j.Ordered := by
  unfold read at h
  simp only at h
  split at h
  · cases h
  · rename_i j' rest hv
    split at h
    · cases h
      exact givesOrdered_value _ _ _ j rest hv
    · cases h

end TestForge.Json
