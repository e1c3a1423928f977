import TestForge.Proofs.Service.Overview

/-!
# Lists of parameters

A list of entries is read back as it was joined, however deep the entries nest and whatever white
space stands between further commas. The parenthesis that closes the list is found because all that
is opened inside it is closed there.
-/

namespace TestForge.Signature

open Text

variable {entries padded : List (List Char)} {front inside : List Char}

/-- Entries with blank ones in between are still entries. -/
theorem listEntry_of_padded (h : ∀ entry ∈ entries, ListEntry entry ∧ isAllBlank entry = false)
    (hp : padded.filter (fun entry => !isAllBlank entry) = entries) :
    ∀ entry ∈ padded, ListEntry entry := by
  intro entry hm
  cases hb : isAllBlank entry with
  | true => exact .of_blank hb
  | false =>
      have hkept : entry ∈ padded.filter fun entry => !isAllBlank entry :=
        List.mem_filter.2 ⟨hm, by rw [hb]; rfl⟩
      exact (h entry (hp ▸ hkept)).1

theorem parameters_behind (default : String) (hf : '(' ∉ front) (h : Nested inside)
    (tail : List Char) :
    parameters default (front ++ '(' :: (inside ++ ')' :: tail)) = parametersOf default inside := by
  simp only [parameters, firstGroup?_behind hf h]

/-- Entries that are not blank, nest properly and have commas only inside brackets are what
splitting makes of the text that joins them, with any number of blank entries in between. The parenthesis in
front of properly nested text is closed by the one behind it, so the parameters of a signature whose
first parentheses hold the joined entries are those of the entries, one for each and in order. -/
theorem joined_read_back
    (h : ∀ entry ∈ entries, ListEntry entry ∧ isAllBlank entry = false)
    (hp : padded.filter (fun entry => !isAllBlank entry) = entries)
    (hi : Nested inside) (hf : '(' ∉ front) (default : String) (tail : List Char) :
    splitTopLevel (joinWith [','] entries) = entries ∧
    splitTopLevel (joinWith [','] padded) = entries ∧
    group? '(' ')' ('(' :: (inside ++ ')' :: tail)) = some (inside, tail) ∧
    parameters default (front ++ '(' :: (joinWith [','] entries ++ ')' :: tail)) =
      entries.map (parameter default) ∧
    parameters default (front ++ '(' :: (joinWith [','] padded ++ ')' :: tail)) =
      entries.map (parameter default) := by
  have hpadded := listEntry_of_padded h hp
  have hsplit : splitTopLevel (joinWith [','] entries) = entries := splitTopLevel_joinWith_comma h
  have hsplit' : splitTopLevel (joinWith [','] padded) = entries := by
    rw [splitTopLevel_joinWith hpadded, hp]
  have hcomma : Nested [','] := by decide
  have hnested : Nested (joinWith [','] entries) :=
    hcomma.join fun entry hm => (h entry hm).1.nested
  have hnested' : Nested (joinWith [','] padded) :=
    hcomma.join fun entry hm => (hpadded entry hm).nested
  refine ⟨hsplit, hsplit', ?_, ?_, ?_⟩
  · simpa [firstGroup?] using firstGroup?_list hi tail
  · rw [parameters_behind default hf hnested, parametersOf, hsplit]
  · rw [parameters_behind default hf hnested', parametersOf, hsplit']

/-- Commas and arrows inside brackets, white space at an end, and letters of more than one byte. -/
def callbackEntries : List (List Char) :=
  ["größe: Map<K, List<V>>".toList, " onPaid: (Order, (Int) -> Long) -> Unit".toList,
    "lock".toList]

/-- The same with nothing, a line feed and two kinds of spaces in between. -/
def callbackEntriesApart : List (List Char) :=
  [] :: "größe: Map<K, List<V>>".toList :: "\n".toList ::
    " onPaid: (Order, (Int) -> Long) -> Unit".toList :: [] :: "lock".toList :: [" \u3000".toList]

theorem joined_read_back_callbacks :
    (∀ entry ∈ callbackEntries, ListEntry entry ∧ isAllBlank entry = false) ∧
    callbackEntriesApart.filter (fun entry => !isAllBlank entry) = callbackEntries ∧
    Nested "a -> <[(é)], (b)>".toList ∧ '(' ∉ "fun <T> ) pay".toList ∧
    splitTopLevel (joinWith [','] callbackEntriesApart) = callbackEntries ∧
    group? '(' ')' ('(' :: ("a -> <[(é)], (b)>".toList ++ ')' :: "): Unit".toList)) =
      some ("a -> <[(é)], (b)>".toList, "): Unit".toList) ∧
    parameters parameterName ("fun <T> ) pay".toList ++
        '(' :: (joinWith [','] callbackEntriesApart ++ ')' :: "): Unit".toList)) =
      [⟨"größe", "Map<K, List<V>>"⟩, ⟨"onPaid", "(Order, (Int) -> Long) -> Unit"⟩,
        ⟨"lock", "Any"⟩] := by
  have h : ∀ entry ∈ callbackEntries, ListEntry entry ∧ isAllBlank entry = false := by decide
  have hp : callbackEntriesApart.filter (fun entry => !isAllBlank entry) = callbackEntries := by
    decide
  have hi : Nested "a -> <[(é)], (b)>".toList := by decide
  have hf : '(' ∉ "fun <T> ) pay".toList := by decide
  have hread : callbackEntries.map (parameter parameterName) =
      [⟨"größe", "Map<K, List<V>>"⟩, ⟨"onPaid", "(Order, (Int) -> Long) -> Unit"⟩,
        ⟨"lock", "Any"⟩] := by
    decide
  obtain ⟨-, hsplit, hgroup, -, hparameters⟩ :=
    joined_read_back h hp hi hf parameterName "): Unit".toList
  exact ⟨h, hp, hi, hf, hsplit, hgroup, hparameters.trans hread⟩

end TestForge.Signature
