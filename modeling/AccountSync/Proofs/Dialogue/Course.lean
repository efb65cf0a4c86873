import AccountSync.Dialogue

/-!
Courses of dialogues that are put together from parts. A course of the whole is a course of each part in
turn (`course_bind_iff`, `course_translate_iff`), and what none of the parts asks is not asked at all
(`Asks.of_course`).
-/

set_option autoImplicit false
set_option relaxedAutoImplicit false

namespace AccountSync.Dialogue

variable {Q Q' : Type} {A : Q → Type} {A' : Q' → Type} {α β : Type}

theorem course_pure_iff {a r : α} {xs : List (Exchange A)} :
    Course (pure a : Dialogue Q A α) xs r ↔ xs = [] ∧ r = a := by
  constructor
  · intro h
    cases h
    exact ⟨rfl, rfl⟩
  · rintro ⟨rfl, rfl⟩
    exact .done r

theorem course_ask_iff {q : Q} {next : A q → Dialogue Q A α} {xs : List (Exchange A)} {r : α} :
    Course (.ask q next) xs r ↔ ∃ a rest, xs = ⟨q, a⟩ :: rest ∧ Course (next a) rest r := by
  constructor
  · intro h
    cases h with
    | ask _ _ a rest _ h => exact ⟨a, rest, rfl, h⟩
  · rintro ⟨a, rest, rfl, h⟩
    exact .ask q next a rest r h

theorem course_question_iff {q : Q} {xs : List (Exchange A)} {r : A q} :
    Course (question q) xs r ↔ xs = [⟨q, r⟩] := by
  constructor
  · intro h
    obtain ⟨a, rest, rfl, hr⟩ := course_ask_iff.mp h
    obtain ⟨rfl, rfl⟩ := course_pure_iff.mp hr
    rfl
  · rintro rfl
    exact .ask q _ r [] r (.done r)

theorem course_bind_iff {d : Dialogue Q A α} {f : α → Dialogue Q A β} {xs : List (Exchange A)} {r : β} :
    Course (d >>= f) xs r ↔ ∃ ys a zs, Course d ys a ∧ Course (f a) zs r ∧ xs = ys ++ zs := by
  change Course (d.bind f) xs r ↔ _
  induction d generalizing xs with
  | done a =>
    constructor
    · intro h
      exact ⟨[], a, xs, .done a, h, rfl⟩
    · rintro ⟨ys, a', zs, hd, hf, rfl⟩
      obtain ⟨rfl, rfl⟩ := course_pure_iff.mp hd
      exact hf
  | ask q next ih =>
    constructor
    · intro h
      obtain ⟨a, rest, rfl, hn⟩ := course_ask_iff.mp h
      obtain ⟨ys, b, zs, hd, hf, rfl⟩ := (ih a).mp hn
      exact ⟨⟨q, a⟩ :: ys, b, zs, .ask q next a ys b hd, hf, rfl⟩
    · rintro ⟨ys, b, zs, hd, hf, rfl⟩
      obtain ⟨a, rest, rfl, hn⟩ := course_ask_iff.mp hd
      exact .ask q _ a _ r ((ih a).mpr ⟨rest, b, zs, hn, hf, rfl⟩)

/-- Exchanges in other surroundings, of which each part settles one question. -/
inductive Translated (f : (q : Q) → Dialogue Q' A' (A q)) : List (Exchange A) → List (Exchange A') → Prop
  | nil : Translated f [] []
  | cons {q : Q} {a : A q} {part : List (Exchange A')} {xs : List (Exchange A)}
      {ys : List (Exchange A')} :
      Course (f q) part a → Translated f xs ys → Translated f (⟨q, a⟩ :: xs) (part ++ ys)

theorem course_translate_iff {f : (q : Q) → Dialogue Q' A' (A q)} {d : Dialogue Q A α}
    {ys : List (Exchange A')} {r : α} :
    Course (d.translate f) ys r ↔ ∃ xs, Course d xs r ∧ Translated f xs ys := by
  induction d generalizing ys with
  | done a =>
    constructor
    · intro h
      obtain ⟨rfl, rfl⟩ := course_pure_iff.mp h
      exact ⟨[], .done r, .nil⟩
    · rintro ⟨xs, hd, ht⟩
      obtain ⟨rfl, rfl⟩ := course_pure_iff.mp hd
      cases ht
      exact .done r
  | ask q next ih =>
    constructor
    · intro h
      obtain ⟨part, a, zs, hq, hn, rfl⟩ := course_bind_iff.mp h
      obtain ⟨xs, hd, ht⟩ := (ih a).mp hn
      exact ⟨⟨q, a⟩ :: xs, .ask q next a xs r hd, .cons hq ht⟩
    · rintro ⟨xs, hd, ht⟩
      obtain ⟨a, rest, rfl, hn⟩ := course_ask_iff.mp hd
      cases ht with
      | cons hq ht => exact course_bind_iff.mpr ⟨_, a, _, hq, (ih a).mpr ⟨rest, hn, ht⟩, rfl⟩

theorem Translated.exists_part {f : (q : Q) → Dialogue Q' A' (A q)} {xs : List (Exchange A)} {ys : List (Exchange A')}
    (h : Translated f xs ys) {x : Exchange A} (hx : x ∈ xs) :
    ∃ part, Course (f x.question) part x.answer ∧ part ⊆ ys := by
  induction h with
  | nil => cases hx
  | @cons q a part xs ys hpart _ ih =>
    rcases List.mem_cons.mp hx with rfl | hx
    · exact ⟨part, hpart, List.subset_append_left _ _⟩
    · obtain ⟨later, hlater, hsub⟩ := ih hx
      exact ⟨later, hlater, List.Subset.trans hsub (List.subset_append_right _ _)⟩

/-- Every question of a dialogue, whatever the answers, is of a kind. -/
def Asks (P : Q → Prop) : Dialogue Q A α → Prop
  | .done _ => True
  | .ask q next => P q ∧ ∀ a, (next a).Asks P

variable {P : Q → Prop}

@[simp] theorem asks_pure (a : α) : (pure a : Dialogue Q A α).Asks P := trivial

@[simp] theorem asks_question {q : Q} : (question q : Dialogue Q A (A q)).Asks P ↔ P q :=
  ⟨fun h => h.1, fun h => ⟨h, fun _ => trivial⟩⟩

theorem asks_bind {d : Dialogue Q A α} {f : α → Dialogue Q A β} (hd : d.Asks P)
    (hf : ∀ a, (f a).Asks P) : (d >>= f).Asks P := by
  change (d.bind f).Asks P
  induction d with
  | done a => exact hf a
  | ask q next ih => exact ⟨hd.1, fun a => ih a (hd.2 a)⟩

theorem asks_translate {P' : Q' → Prop} {f : (q : Q) → Dialogue Q' A' (A q)} {d : Dialogue Q A α}
    (hd : d.Asks P) (hf : ∀ q, P q → (f q).Asks P') : (d.translate f).Asks P' := by
  induction d with
  | done a => trivial
  | ask q next ih => exact asks_bind (hf q hd.1) fun a => ih a (hd.2 a)

theorem Asks.mono {P' : Q → Prop} {d : Dialogue Q A α} (hd : d.Asks P) (h : ∀ q, P q → P' q) :
    d.Asks P' := by
  induction d with
  | done a => trivial
  | ask q next ih => exact ⟨h q hd.1, fun a => ih a (hd.2 a)⟩

theorem asks_any (d : Dialogue Q A α) : d.Asks fun _ => True := by
  induction d with
  | done a => trivial
  | ask q next ih => exact ⟨trivial, ih⟩

theorem Asks.of_course {d : Dialogue Q A α} {xs : List (Exchange A)} {r : α} (hd : d.Asks P)
    (h : Course d xs r) : ∀ x ∈ xs, P x.question := by
  induction h with
  | done a => simp
  | ask q next a rest r _ ih =>
    intro x hx
    rcases List.mem_cons.mp hx with rfl | hx
    · exact hd.1
    · exact ih (hd.2 a) x hx

/-- What was asked, as far as it is of one kind. -/
def asked {γ : Type} (kind? : Q → Option γ) (xs : List (Exchange A)) : List γ := xs.filterMap fun x => kind? x.question

theorem asked_append {γ : Type} (kind? : Q → Option γ) (xs ys : List (Exchange A)) :
    asked kind? (xs ++ ys) = asked kind? xs ++ asked kind? ys := List.filterMap_append

theorem getLast?_filterMap_append {γ : Type} {f : Exchange A → Option γ} (xs : List (Exchange A))
    {ys : List (Exchange A)} {c : γ} (h : (ys.filterMap f).getLast? = some c) :
    ((xs ++ ys).filterMap f).getLast? = some c := by
  rw [List.filterMap_append, List.getLast?_append, h]
  rfl

section Split

variable {γ : Type} {as bs before after : List γ} {x : γ}

theorem split_behind (h : as ++ bs = before ++ x :: after) (hx : x ∉ as) :
    ∃ between, before = as ++ between ∧ bs = between ++ x :: after := by
  rcases List.append_eq_append_iff.mp h with ⟨between, hbefore, hbs⟩ | ⟨rest, has, hrest⟩
  · exact ⟨between, hbefore, hbs⟩
  · cases rest with
    | nil => exact ⟨[], by rw [has, List.append_nil, List.append_nil], hrest.symm⟩
    | cons y rest =>
      obtain ⟨rfl, -⟩ := List.cons.inj hrest
      exact (hx (has ▸ List.mem_append_right before List.mem_cons_self)).elim

theorem split_before (h : as ++ bs = before ++ x :: after) (hx : x ∉ bs) :
    ∃ between, as = before ++ x :: between ∧ after = between ++ bs := by
  rcases List.append_eq_append_iff.mp h with ⟨between, _, hbs⟩ | ⟨rest, has, hrest⟩
  · exact (hx (hbs ▸ List.mem_append_right between List.mem_cons_self)).elim
  · cases rest with
    | nil =>
      rw [List.nil_append] at hrest
      exact (hx (hrest ▸ List.mem_cons_self)).elim
    | cons y rest =>
      obtain ⟨rfl, hafter⟩ := List.cons.inj hrest
      exact ⟨rest, has, hafter⟩

end Split

end AccountSync.Dialogue
