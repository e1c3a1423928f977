import TestForge.Proofs.Text.Occurrences
import TestForge.Proofs.Text.Words

/-!
# Replacing texts

What is left of a text, and of another one, where every occurrence of it is replaced. A replacement
makes no new occurrence of a text that neither starts in what is put in nor reaches into it from the
front. Two replacements that do not meet in this way can change places.
-/

namespace TestForge.Text

/-! ## Where two texts meet -/

/-- A text can start in another, and go on behind it. -/
def StartsIn (p text : List Char) : Prop :=
  ∃ back ∈ text.tails, back ≠ [] ∧ (back <+: p ∨ p <+: back)

instance (p text : List Char) : Decidable (StartsIn p text) :=
  inferInstanceAs (Decidable (∃ back ∈ text.tails, _))

/-- The beginnings of a text that can stand in front of another, into which the rest reaches. -/
def leads (p text : List Char) : List (List Char) :=
  p.inits.filter fun front =>
    p.drop front.length ≠ [] ∧
      (p.drop front.length <+: text ∨ text <+: p.drop front.length)

theorem mem_leads_iff {front p text : List Char} :
    front ∈ leads p text ↔
      ∃ back, p = front ++ back ∧ back ≠ [] ∧ (back <+: text ∨ text <+: back) := by
  rw [leads, List.mem_filter, List.mem_inits, decide_eq_true_eq]
  constructor
  · rintro ⟨⟨back, rfl⟩, h⟩
    rw [List.drop_left] at h
    exact ⟨back, rfl, h⟩
  · rintro ⟨back, rfl, h⟩
    rw [List.drop_left]
    exact ⟨List.prefix_append front back, h⟩

theorem leads_cons {front p text : List Char} (c : Char) (h : front ∈ leads p text) :
    c :: front ∈ leads (c :: p) text := by
  obtain ⟨back, rfl, hback⟩ := mem_leads_iff.1 h
  exact mem_leads_iff.2 ⟨back, rfl, hback⟩

theorem StartsIn.cons {p text : List Char} (c : Char) (h : StartsIn p text) :
    StartsIn p (c :: text) := by
  obtain ⟨back, hback, h⟩ := h
  refine ⟨back, ?_, h⟩
  rw [List.mem_tails] at hback ⊢
  exact hback.trans (List.suffix_cons c text)

/-- A text that is at the start of what another begins starts in it. -/
theorem StartsIn.of_beginning {p text rest : List Char} (hne : text ≠ [])
    (h : p <+: text ++ rest) : StartsIn p text :=
  ⟨text, (List.mem_tails _ _).2 (List.suffix_refl text), hne,
    List.prefix_or_prefix_of_prefix (List.prefix_append text rest) h⟩

/-! ## One replacement -/

variable {old new p s : List Char}

theorem replaceEvery_nil (old new : List Char) : replaceEvery old new [] = [] := by
  cases old with
  | nil => rfl
  | cons o os => rw [replaceEvery, replaceAll]

theorem replaceEvery_here (hne : old ≠ []) (new rest : List Char) :
    replaceEvery old new (old ++ rest) = new ++ replaceEvery old new rest := by
  cases old with
  | nil => exact absurd rfl hne
  | cons o os =>
      have hafter := after?_append os rest
      rw [replaceEvery, List.cons_append, replaceAll, if_pos rfl]
      split
      · rename_i h
        rw [hafter] at h
        cases h
        rfl
      · rename_i h
        rw [hafter] at h
        cases h

theorem replaceEvery_other {c : Char} {cs : List Char} (h : ¬old <+: c :: cs) (new : List Char) :
    replaceEvery old new (c :: cs) = c :: replaceEvery old new cs := by
  cases old with
  | nil => exact absurd List.nil_prefix h
  | cons o os =>
      rw [replaceEvery, replaceAll]
      split
      · rename_i hc
        split
        · rename_i rest hafter
          rw [hc, eq_append_of_after? hafter] at h
          exact absurd (List.prefix_append (o :: os) rest) h
        · rfl
      · rfl

theorem length_lt_of_front {front rest : List Char} (hne : front ≠ []) (h : front ++ rest = s) :
    rest.length < s.length := by
  have hpos := List.length_pos_iff.2 hne
  rw [← h, List.length_append]
  omega

/-- A text is read from the left: what is replaced in one piece, all else a character at a time. -/
theorem replaceEvery_induction {old : List Char} (hne : old ≠ []) {motive : List Char → Prop}
    (nil : motive []) (here : ∀ rest, motive rest → motive (old ++ rest))
    (other : ∀ c cs, ¬old <+: c :: cs → motive cs → motive (c :: cs)) (s : List Char) :
    motive s := by
  by_cases h : old <+: s
  · obtain ⟨rest, hs⟩ := h
    have hlt := length_lt_of_front hne hs
    exact hs ▸ here rest (replaceEvery_induction hne nil here other rest)
  · cases s with
    | nil => exact nil
    | cons c cs => exact other c cs h (replaceEvery_induction hne nil here other cs)
  termination_by s.length

theorem replaceEvery_eq_self (h : ¬old <:+: s) : replaceEvery old new s = s := by
  induction s with
  | nil => exact replaceEvery_nil old new
  | cons c cs ih =>
      rw [replaceEvery_other fun hp => h hp.isInfix, ih fun hi => h (List.infix_cons hi)]

/-- What a text cannot start in stays as it is when that text is replaced. -/
theorem replaceEvery_pass (h : ¬StartsIn old p) (new rest : List Char) :
    replaceEvery old new (p ++ rest) = p ++ replaceEvery old new rest := by
  induction p with
  | nil => rfl
  | cons c p ih =>
      have hstart : old <+: (c :: p) ++ rest → StartsIn old (c :: p) :=
        StartsIn.of_beginning (List.cons_ne_nil c p)
      have hother : ¬old <+: c :: (p ++ rest) := fun hp => h (hstart hp)
      rw [List.cons_append, replaceEvery_other hother, ih fun hp => h (hp.cons c)]
      rfl

/-- What stands at the start of a result has stood there before, or reaches into what was put in. -/
theorem prefix_of_replaceEvery (hne : old ≠ []) (h : p <+: replaceEvery old new s) :
    p <+: s ∨ ∃ front ∈ leads p new, front ++ old <+: s := by
  induction s using replaceEvery_induction hne generalizing p with
  | nil =>
      rw [replaceEvery_nil] at h
      exact .inl h
  | here rest _ =>
      rw [replaceEvery_here hne] at h
      cases p with
      | nil => exact .inl List.nil_prefix
      | cons c p =>
          refine .inr ⟨[], mem_leads_iff.2 ⟨c :: p, rfl, List.cons_ne_nil c p, ?_⟩, ?_⟩
          · exact List.prefix_or_prefix_of_prefix h (List.prefix_append new _)
          · exact List.prefix_append old rest
  | other c cs hc ih =>
      rw [replaceEvery_other hc] at h
      cases p with
      | nil => exact .inl List.nil_prefix
      | cons d p =>
          obtain ⟨rfl, hp⟩ := List.cons_prefix_cons.1 h
          rcases ih hp with hp | ⟨front, hfront, hp⟩
          · exact .inl (List.cons_prefix_cons.2 ⟨rfl, hp⟩)
          · exact .inr ⟨d :: front, leads_cons d hfront, List.cons_prefix_cons.2 ⟨rfl, hp⟩⟩

/-! ## What a replacement leaves -/

/-- A text does not occur in a result if it did not occur where nothing was replaced, does not start
in what is put in and does not reach into it from the front. -/
theorem not_infix_replaceEvery (hne : old ≠ []) (hp : p ≠ []) (hin : ¬StartsIn p new)
    (hs : ∀ t, t <:+ s → ¬old <+: t → ¬p <+: t)
    (hleads : ∀ front ∈ leads p new, ¬front ++ old <:+: s) : ¬p <:+: replaceEvery old new s := by
  induction s using replaceEvery_induction hne with
  | nil =>
      rw [replaceEvery_nil, List.infix_nil]
      exact hp
  | here rest ih =>
      have hrest : rest <:+ old ++ rest := List.suffix_append old rest
      have hresult := ih (fun t ht => hs t (ht.trans hrest))
        fun front hfront hi => hleads front hfront (hi.trans hrest.isInfix)
      rw [replaceEvery_here hne]
      intro hi
      rcases List.infix_append_iff.1 hi with hnew | hlater | ⟨front, back, rfl, hfront, hback⟩
      · obtain ⟨t, hpt, ht⟩ := List.infix_iff_prefix_suffix.1 hnew
        have htne : t ≠ [] := fun hnil => hp (List.prefix_nil.1 (hnil ▸ hpt))
        exact hin ⟨t, (List.mem_tails _ _).2 ht, htne, .inr hpt⟩
      · exact hresult hlater
      · cases front with
        | nil => exact hresult hback.isInfix
        | cons c front =>
            exact hin ⟨c :: front, (List.mem_tails _ _).2 hfront, List.cons_ne_nil c front,
              .inl (List.prefix_append _ back)⟩
  | other c cs hc ih =>
      have hcs : cs <:+ c :: cs := List.suffix_cons c cs
      have hresult := ih (fun t ht => hs t (ht.trans hcs))
        fun front hfront hi => hleads front hfront (hi.trans hcs.isInfix)
      rw [replaceEvery_other hc, List.infix_cons_iff, not_or, ← replaceEvery_other hc]
      refine ⟨fun h => ?_, hresult⟩
      rcases prefix_of_replaceEvery hne h with h | ⟨front, hfront, h⟩
      · exact hs _ (List.suffix_refl _) hc h
      · exact hleads front hfront h.isInfix

theorem not_infix_replaceEvery_self (hne : old ≠ []) (hin : ¬StartsIn old new)
    (hleads : leads old new = []) : ¬old <:+: replaceEvery old new s := by
  refine not_infix_replaceEvery hne hne hin (fun _ _ h => h) ?_
  rw [hleads]
  exact List.forall_mem_nil _

theorem not_infix_replaceEvery_of_not (hne : old ≠ []) (hin : ¬StartsIn p new) (h : ¬p <:+: s)
    (hleads : ∀ front ∈ leads p new, ¬front ++ old <:+: s) : ¬p <:+: replaceEvery old new s := by
  have hp : p ≠ [] := by
    rintro rfl
    exact h List.nil_infix
  exact not_infix_replaceEvery hne hp hin
    (fun t ht _ hbegin => h (hbegin.isInfix.trans ht.isInfix)) hleads

theorem not_infix_replaceEvery_of_apart (hne : old ≠ []) (hin : ¬StartsIn p new)
    (hleads : leads p new = []) (h : ¬p <:+: s) : ¬p <:+: replaceEvery old new s := by
  refine not_infix_replaceEvery_of_not hne hin h ?_
  rw [hleads]
  exact List.forall_mem_nil _

/-! ## Two replacements -/

/-- Replacements of two texts that do not meet, neither with each other nor with what is put in for
them, can be made in either order. -/
theorem replaceEvery_comm {a a' b b' s : List Char} (ha : a ≠ []) (hb : b ≠ [])
    (hab : ¬StartsIn a b) (hba : ¬StartsIn b a) (hab' : ¬StartsIn a b') (hba' : ¬StartsIn b a')
    (hleads : ∀ front ∈ leads a b', ¬front ++ b <:+: s)
    (hleads' : ∀ front ∈ leads b a', ¬front ++ a <:+: s) :
    replaceEvery a a' (replaceEvery b b' s) = replaceEvery b b' (replaceEvery a a' s) := by
  have hsuffix {t : List Char} (ht : t <:+ s) :
      (∀ front ∈ leads a b', ¬front ++ b <:+: t) ∧ ∀ front ∈ leads b a', ¬front ++ a <:+: t :=
    ⟨fun front hfront hi => hleads front hfront (hi.trans ht.isInfix),
      fun front hfront hi => hleads' front hfront (hi.trans ht.isInfix)⟩
  by_cases hafirst : a <+: s
  · obtain ⟨rest, hs⟩ := hafirst
    have hlt := length_lt_of_front ha hs
    have hrest := hsuffix ⟨a, hs⟩
    have ih := replaceEvery_comm ha hb hab hba hab' hba' hrest.1 hrest.2
    rw [← hs, replaceEvery_pass hba, replaceEvery_here ha, replaceEvery_here ha, replaceEvery_pass hba',
      ih]
  by_cases hbfirst : b <+: s
  · obtain ⟨rest, hs⟩ := hbfirst
    have hlt := length_lt_of_front hb hs
    have hrest := hsuffix ⟨b, hs⟩
    have ih := replaceEvery_comm ha hb hab hba hab' hba' hrest.1 hrest.2
    rw [← hs, replaceEvery_here hb, replaceEvery_pass hab', replaceEvery_pass hab, replaceEvery_here hb,
      ih]
  cases s with
  | nil => rw [replaceEvery_nil, replaceEvery_nil, replaceEvery_nil]
  | cons c cs =>
      have hrest := hsuffix (List.suffix_cons c cs)
      have ih := replaceEvery_comm ha hb hab hba hab' hba' hrest.1 hrest.2
      have hanew : ¬a <+: c :: replaceEvery b b' cs := by
        rw [← replaceEvery_other hbfirst]
        intro h
        rcases prefix_of_replaceEvery hb h with h | ⟨front, hfront, h⟩
        · exact hafirst h
        · exact hleads front hfront h.isInfix
      have hbnew : ¬b <+: c :: replaceEvery a a' cs := by
        rw [← replaceEvery_other hafirst]
        intro h
        rcases prefix_of_replaceEvery ha h with h | ⟨front, hfront, h⟩
        · exact hbfirst h
        · exact hleads' front hfront h.isInfix
      rw [replaceEvery_other hbfirst, replaceEvery_other hanew, replaceEvery_other hafirst,
        replaceEvery_other hbnew, ih]
  termination_by s.length

end TestForge.Text
