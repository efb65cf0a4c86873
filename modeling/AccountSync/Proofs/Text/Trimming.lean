import AccountSync.Text.Blank
import Mathlib.Data.List.TakeWhile

/-!
Texts without the blanks around them. `Trimmed` says what remains of a text, whatever counts as blank. Main statement:
`trim_eq_iff`, that this and nothing else is what trimming gives.
-/

set_option autoImplicit false
set_option relaxedAutoImplicit false

namespace AccountSync.Text

/-- `core` is what remains of a text without the blanks at both of its ends. -/
structure Trimmed (blank : Char → Prop) (cs core : List Char) : Prop where
  around : ∃ left right, cs = left ++ core ++ right ∧ (∀ c ∈ left, blank c) ∧ ∀ c ∈ right, blank c
  starts : ∀ c ∈ core.head?, ¬ blank c
  ends : ∀ c ∈ core.getLast?, ¬ blank c

variable {blank blank' : Char → Prop} {p : Char → Bool} {cs core left right : List Char}

private theorem Trimmed.congr (h : ∀ c ∈ cs, blank c ↔ blank' c) (htrimmed : Trimmed blank cs core) :
    Trimmed blank' cs core := by
  obtain ⟨⟨left, right, rfl, hleft, hright⟩, hstarts, hends⟩ := htrimmed
  have hcore : ∀ c ∈ core, c ∈ left ++ core ++ right := fun c hc =>
    List.mem_append_left _ (List.mem_append_right _ hc)
  refine ⟨⟨left, right, rfl, fun c hc => ?_, fun c hc => ?_⟩, fun c hc => ?_, fun c hc => ?_⟩
  · exact (h c (List.mem_append_left _ (List.mem_append_left _ hc))).mp (hleft c hc)
  · exact (h c (List.mem_append_right _ hc)).mp (hright c hc)
  · exact fun hblank => hstarts c hc ((h c (hcore c (List.mem_of_mem_head? hc))).mpr hblank)
  · exact fun hblank => hends c hc ((h c (hcore c (List.mem_of_mem_getLast? hc))).mpr hblank)

theorem trimmed_congr (h : ∀ c ∈ cs, blank c ↔ blank' c) : Trimmed blank cs core ↔ Trimmed blank' cs core :=
  ⟨.congr h, .congr fun c hc => (h c hc).symm⟩

private theorem not_of_mem_head?_dropWhile (p : Char → Bool) (cs : List Char) :
    ∀ c ∈ (cs.dropWhile p).head?, p c = false := by
  intro c hc
  have hnot := List.head?_dropWhile_not p cs
  rwa [Option.mem_def.mp hc] at hnot

private theorem dropWhile_append (hleft : ∀ c ∈ left, p c = true) (hcs : ∀ c ∈ cs.head?, p c = false) :
    (left ++ cs).dropWhile p = cs := by
  rw [List.dropWhile_append_of_pos hleft]
  cases cs with
  | nil => rfl
  | cons c cs => exact List.dropWhile_cons_of_neg (Bool.eq_false_iff.mp (hcs c rfl))

private theorem trimEnd_trimStart_eq_iff : trimEnd (trimStart cs) = core ↔ Trimmed (isBlank · = true) cs core := by
  unfold trimEnd trimStart
  constructor
  · rintro rfl
    generalize hrest : cs.dropWhile isBlank = rest
    have hsplit : (rest.reverse.dropWhile isBlank).reverse ++ (rest.reverse.takeWhile isBlank).reverse = rest := by
      rw [← List.reverse_append, List.takeWhile_append_dropWhile, List.reverse_reverse]
    refine ⟨⟨cs.takeWhile isBlank, (rest.reverse.takeWhile isBlank).reverse, ?_, ?_, ?_⟩, ?_, ?_⟩
    · rw [List.append_assoc, hsplit, ← hrest, List.takeWhile_append_dropWhile]
    · exact fun c hc => List.mem_takeWhile_imp hc
    · exact fun c hc => List.mem_takeWhile_imp (List.mem_reverse.mp hc)
    · -- what is first here is first behind the blanks at the start
      intro c hc
      have hfirst : c ∈ rest.head? := by
        rw [← hsplit, List.head?_append, Option.mem_def.mp hc]
        rfl
      rw [← hrest] at hfirst
      exact Bool.eq_false_iff.mp (not_of_mem_head?_dropWhile isBlank cs c hfirst)
    · intro c hc
      rw [List.getLast?_reverse] at hc
      exact Bool.eq_false_iff.mp (not_of_mem_head?_dropWhile isBlank _ c hc)
  · rintro ⟨⟨left, right, rfl, hleft, hright⟩, hstarts, hends⟩
    have hend : ∀ c ∈ core.reverse.head?, isBlank c = false := by
      intro c hc
      rw [List.head?_reverse] at hc
      exact Bool.eq_false_iff.mpr (hends c hc)
    have hright' : ∀ c ∈ right.reverse, isBlank c = true := fun c hc => hright c (List.mem_reverse.mp hc)
    cases core with
    | nil =>
      have hall : ∀ c ∈ left ++ right, isBlank c = true := fun c hc =>
        (List.mem_append.mp hc).elim (hleft c) (hright c)
      rw [List.append_nil, List.dropWhile_eq_nil_iff.mpr hall]
      rfl
    | cons first core =>
      have hstart : ∀ c ∈ (first :: core ++ right).head?, isBlank c = false := fun c hc =>
        Bool.eq_false_iff.mpr (hstarts c hc)
      rw [List.append_assoc, dropWhile_append hleft hstart, List.reverse_append, dropWhile_append hright' hend,
        List.reverse_reverse]

theorem trim_eq_iff {text trimmed : String} :
    trim text = trimmed ↔ Trimmed (isBlank · = true) text.toList trimmed.toList := by
  rw [← trimEnd_trimStart_eq_iff, trim, ← String.toList_inj, String.toList_ofList]

end AccountSync.Text
