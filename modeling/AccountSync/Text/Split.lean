/-!
Cutting text at a separator.
-/

set_option autoImplicit false
set_option relaxedAutoImplicit false

namespace AccountSync.Text

/-- The parts before and after the first separator. -/
def splitOnce? (sep : Char) : List Char → Option (List Char × List Char)
  | [] => none
  | c :: rest =>
    if c = sep then some ([], rest)
    else (splitOnce? sep rest).map fun p => (c :: p.1, p.2)

theorem splitOnce?_eq_some_iff {sep : Char} {cs a b : List Char} :
    splitOnce? sep cs = some (a, b) ↔ cs = a ++ sep :: b ∧ sep ∉ a := by
  induction cs generalizing a with
  | nil => simp [splitOnce?]
  | cons c cs ih =>
    by_cases hc : c = sep
    · subst hc
      cases a with
      | nil => simp [splitOnce?]
      | cons x xs =>
        simp only [splitOnce?, if_true, Option.some.injEq, Prod.mk.injEq, List.cons_append,
          List.cons.injEq, List.mem_cons, not_or]
        constructor
        · rintro ⟨h, _⟩
          cases h
        · rintro ⟨⟨rfl, _⟩, h, _⟩
          exact absurd rfl h
    · cases a with
      | nil => simp [splitOnce?, hc]
      | cons x xs =>
        simp only [splitOnce?, hc, if_false, Option.map_eq_some_iff, Prod.exists, Prod.mk.injEq,
          List.cons.injEq, List.cons_append, List.mem_cons, not_or]
        constructor
        · rintro ⟨p, q, hs, ⟨rfl, rfl⟩, rfl⟩
          obtain ⟨rfl, hn⟩ := ih.mp hs
          exact ⟨⟨rfl, rfl⟩, fun h => hc h.symm, hn⟩
        · rintro ⟨⟨rfl, rfl⟩, _, hn⟩
          exact ⟨xs, b, ih.mpr ⟨rfl, hn⟩, ⟨rfl, rfl⟩, rfl⟩

/-- The parts between separators, at least one. -/
def splitAll (sep : Char) : List Char → List (List Char)
  | [] => [[]]
  | c :: rest =>
    if c = sep then [] :: splitAll sep rest
    else
      match splitAll sep rest with
      | part :: parts => (c :: part) :: parts
      | [] => [[c]]

theorem splitAll_ne_nil (sep : Char) (cs : List Char) : splitAll sep cs ≠ [] := by
  cases cs with
  | nil => simp [splitAll]
  | cons c cs =>
    unfold splitAll
    split
    · simp
    · split <;> simp

/-- The parts with separators between them make up the text. -/
theorem intercalate_splitAll (sep : Char) (cs : List Char) : [sep].intercalate (splitAll sep cs) = cs := by
  induction cs with
  | nil => rfl
  | cons c cs ih =>
    obtain ⟨part, parts, h⟩ := List.exists_cons_of_ne_nil (splitAll_ne_nil sep cs)
    rw [h] at ih
    by_cases hc : c = sep
    · subst hc
      simpa [splitAll, h, List.intercalate] using ih
    · have hs : splitAll sep (c :: cs) = (c :: part) :: parts := by simp [splitAll, hc, h]
      rw [hs, ← ih]
      cases parts <;> simp [List.intercalate]

theorem not_mem_of_mem_splitAll {sep : Char} {cs part : List Char} (h : part ∈ splitAll sep cs) :
    sep ∉ part := by
  induction cs generalizing part with
  | nil => simp_all [splitAll]
  | cons c cs ih =>
    obtain ⟨first, parts, hs⟩ := List.exists_cons_of_ne_nil (splitAll_ne_nil sep cs)
    by_cases hc : c = sep
    · subst hc
      simp only [splitAll, if_true, List.mem_cons] at h
      rcases h with rfl | h
      · simp
      · exact ih h
    · simp only [splitAll, hc, if_false, hs, List.mem_cons] at h
      rcases h with rfl | h
      · simp only [List.mem_cons, not_or]
        exact ⟨fun e => hc e.symm, ih (by simp [hs])⟩
      · exact ih (by simp [hs, h])

theorem splitAll_of_not_mem {sep : Char} {part : List Char} (h : sep ∉ part) : splitAll sep part = [part] := by
  induction part with
  | nil => rfl
  | cons c part ih =>
    have hc : c ≠ sep := fun hc => h (hc ▸ List.mem_cons_self)
    have hpart : sep ∉ part := fun hpart => h (List.mem_cons_of_mem c hpart)
    rw [splitAll, if_neg hc, ih hpart]

theorem splitAll_append {sep : Char} {part : List Char} (h : sep ∉ part) (rest : List Char) :
    splitAll sep (part ++ sep :: rest) = part :: splitAll sep rest := by
  induction part with
  | nil => simp [splitAll]
  | cons c part ih =>
    have hc : c ≠ sep := fun hc => h (hc ▸ List.mem_cons_self)
    have hpart : sep ∉ part := fun hpart => h (List.mem_cons_of_mem c hpart)
    rw [List.cons_append, splitAll, if_neg hc, ih hpart]

/-- Drops every separator at the end of a text. -/
def trimEndMatches (sep : Char) (text : String) : String :=
  String.ofList (text.toList.reverse.dropWhile (· = sep)).reverse

end AccountSync.Text
