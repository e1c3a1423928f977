import TestForge.Proofs.FileSystem.Descent
import TestForge.Proofs.Layout.Sources

/-!
# Ways to sources and to tests

The way to a test parts from the way to its source at the directory `test`. No way to a main source
goes through what lies behind that, so what tests need on their ways is off the ways to all sources.
-/

namespace TestForge.Layout

open FileSystem Text

/-- The names on the way to a main source and on the way to its test. -/
structure Ways (service : String) (front back : List String) (source test : String) : Prop where
  nonempty : front ≠ []
  first : "main" ∉ front.tail
  noTest : "test" ∉ front.tail
  noTestBelow : "test" ∉ back
  source : pieces service = front ++ "main" :: (back ++ [source])
  test : pieces (testPath service) = front ++ "test" :: (back ++ [test])

theorem MainSource.ways {service : String} (h : MainSource service) :
    ∃ front back source test, Ways service front back source test := by
  obtain ⟨front, back, file, ha⟩ := h.around
  have hmem {name : String} {names : List (List Char)} (hm : name ∈ names.map String.ofList) :
      name.toList ∈ names := by
    obtain ⟨cs, hcs, rfl⟩ := List.mem_map.1 hm
    rwa [String.toList_ofList]
  refine ⟨front.map String.ofList, back.map String.ofList, String.ofList file,
    String.ofList (testFileName file), by simpa using ha.nonempty, fun hm => ?_, fun hm => ?_,
    fun hm => ha.noTestBelow (hmem hm), ?_, ?_⟩
  · exact ha.first (hmem (by rwa [List.map_tail]))
  · exact ha.noTest (hmem (by rwa [List.map_tail]))
  · rw [pieces, ha.source]
    simp
  · rw [pieces, ha.test]
    simp

section

variable {service other : String} {front back way : List String} {source test : String}

theorem mem_tail_append {α : Type} {a : α} {xs : List α} (h : a ∈ xs.tail) (ys : List α) :
    a ∈ (xs ++ ys).tail := by
  cases xs with
  | nil => cases h
  | cons x xs => exact List.mem_append_left ys h

/-- The way to a test is first that to its source, and then leads through `test`. -/
theorem Ways.prefix_cases (h : Ways service front back source test)
    (hp : way <+: pieces (testPath service)) : way <+: front ∨ front ++ ["test"] <+: way := by
  have htest : front ++ ["test"] <+: pieces (testPath service) := by
    rw [h.test]
    exact ⟨back ++ [test], by simp⟩
  rcases List.prefix_or_prefix_of_prefix hp htest with hway | hway
  · rcases List.prefix_concat_iff.1 hway with he | hway
    · exact Or.inr (he ▸ List.prefix_refl _)
    · exact Or.inl hway
  · exact Or.inr hway

theorem MainSource.test_mem (h : MainSource service) :
    "test" ∈ (pieces (testPath service)).tail := by
  obtain ⟨front, back, source, test, hs⟩ := h.ways
  have hne := hs.nonempty
  obtain ⟨first, front, rfl⟩ := List.exists_cons_of_ne_nil hne
  simp [hs.test]

/-- What lies below `test` on the way to a test is not on the way to a source. -/
theorem MainSource.off_way (h : MainSource service) (ho : MainSource other)
    (hp : way <+: pieces (testPath service)) (hm : "test" ∈ way.tail) :
    ¬way <+: pieces other := by
  intro hother
  obtain ⟨front, back, source, test, hs⟩ := h.ways
  obtain ⟨front', back', source', test', ht⟩ := ho.ways
  have hne := hs.nonempty
  have hne' := ht.nonempty
  obtain ⟨first, front, rfl⟩ := List.exists_cons_of_ne_nil hne
  obtain ⟨first', front', rfl⟩ := List.exists_cons_of_ne_nil hne'
  rcases hs.prefix_cases hp with ⟨more, hmore⟩ | hfront
  · exact hs.noTest (hmore ▸ mem_tail_append hm more)
  · obtain ⟨rest, hrest⟩ := hfront.trans hother
    rw [ht.source] at hrest
    rcases List.eq_nil_or_concat rest with rfl | ⟨rest, last, rfl⟩
    · -- the source is called `test`, and lies in the directory that the other source lies in
      have hpieces : first :: front ++ ["test"] = first' :: front' ++ "main" :: back' ++ [source'] := by
        simpa using hrest
      refine hs.first ?_
      rw [(List.append_inj' hpieces rfl).1]
      simp
    · have hpieces : first :: (front ++ "test" :: rest) ++ [last] =
          first' :: (front' ++ "main" :: back') ++ [source'] := by
        simpa using hrest
      have hmem : "test" ∈ front' ++ "main" :: back' := by
        rw [← (List.cons.inj (List.append_inj' hpieces rfl).1).2]
        simp
      rcases List.mem_append.1 hmem with hf | hb
      · exact ht.noTest hf
      · rcases List.mem_cons.1 hb with he | hb
        · exact absurd he (by decide)
        · exact ht.noTestBelow hb

theorem map_toList_pieces (path : String) :
    (pieces path).map String.toList = splitAtChar '/' path.toList := by
  rw [pieces, List.map_map]
  exact (List.map_congr_left fun cs _ => String.toList_ofList).trans (List.map_id _)

/-- A test that is on the way to a test is that test, unless its path is that of a directory. -/
theorem MainSource.eq_of_onWay (h : MainSource service) (ho : MainSource other)
    (ha : ¬(testPath service).toList ++ ['/'] <+: (testPath other).toList)
    (hp : pieces (testPath service) <+: pieces (testPath other)) : service = other := by
  obtain ⟨rest, hrest⟩ := hp
  rcases Classical.em (rest = []) with rfl | hne
  · rw [List.append_nil] at hrest
    exact h.testPath_injective ho (pieces_injective hrest)
  · refine absurd ⟨joinWith ['/'] (rest.map String.toList), ?_⟩ ha
    have hsplit := congrArg (List.map String.toList) hrest
    rw [List.map_append, map_toList_pieces, map_toList_pieces] at hsplit
    rw [← joinWith_splitAtChar '/' (testPath other).toList, ← hsplit,
      joinWith_append ['/'] (splitAtChar_ne_nil _ _) (by simpa using hne), joinWith_splitAtChar]

/-- What is on the way to a test and not on the way to its source lies below `test`. -/
theorem MainSource.below_test (h : MainSource service) (hp : way <+: pieces (testPath service))
    (hn : ¬way <+: (pieces service).dropLast) : "test" ∈ way.tail := by
  obtain ⟨front, back, source, test, hs⟩ := h.ways
  have hdirectory : front <+: (pieces service).dropLast := by
    rw [hs.source, ← List.cons_append, ← List.append_assoc, List.dropLast_concat]
    exact List.prefix_append _ _
  rcases hs.prefix_cases hp with hway | ⟨rest, rfl⟩
  · exact absurd (hway.trans hdirectory) hn
  · have hne := hs.nonempty
    obtain ⟨first, front, rfl⟩ := List.exists_cons_of_ne_nil hne
    simp

end

end TestForge.Layout
