import AccountSync.Proofs.Login.Walk

/-!
What a login run keeps of an account. Main statement: `keeps_of_advance`, that whatever is answered the owner
stays the same, keys stay with the account until it is dropped, and a dropped account stays as it is.
-/

set_option autoImplicit false
set_option relaxedAutoImplicit false

namespace AccountSync.Login

open Dialogue

/-- The session token, the keys and the key pair, where an account has them. -/
def credentials? : Account → Option Cohabiting
  | .cohabiting k => some k
  | .married m => some m.account
  | _ => none

/-- A later state of the same account: what was given to it is there until all is dropped. -/
structure Keeps (earlier later : Account) : Prop where
  owner : later.owner = earlier.owner
  dropped : Dropped earlier → later = earlier
  credentials : ∀ k, credentials? earlier = some k → credentials? later = some k ∨ Dropped later

theorem Keeps.refl (state : Account) : Keeps state state :=
  ⟨rfl, fun _ => rfl, fun _ hk => .inl hk⟩

theorem Keeps.trans {a b c : Account} (hab : Keeps a b) (hbc : Keeps b c) : Keeps a c := by
  refine ⟨hbc.owner.trans hab.owner, ?_, ?_⟩
  · intro hd
    obtain rfl := hab.dropped hd
    exact hbc.dropped hd
  · intro k hk
    rcases hab.credentials k hk with hb | hd
    · exact hbc.credentials k hb
    · right
      rwa [hbc.dropped hd]

private theorem not_dropped_of_remote {state : Account} {action : Action} (h : Remote state.label action) :
    ¬ Dropped state := by
  rintro (hd | hd) <;> (rw [hd] at h; cases h)

private theorem keeps_drop {state next : Account} (hn : ¬ Dropped state) (ho : next.owner = state.owner)
    (hd : Dropped next) : Keeps state next :=
  ⟨ho, fun h => (hn h).elim, fun _ _ => .inr hd⟩

private theorem keeps_married (k : Cohabiting) (certificate : String) :
    Keeps (.cohabiting k) (.married ⟨k, certificate⟩) := by
  refine ⟨rfl, ?_, fun _ hk => .inl hk⟩
  rintro (h | h) <;> cases h

theorem keeps_cohabiting (m : Married) : Keeps (.married m) (.cohabiting m.account) := by
  refine ⟨rfl, ?_, fun _ hk => .inl hk⟩
  rintro (h | h) <;> cases h

private theorem keeps_of_engaged {s : Engaged} {next : Account} (ho : next.owner = ⟨s.email, s.uid⟩) :
    Keeps (.engaged s) next := by
  refine ⟨ho, ?_, fun _ hk => by cases hk⟩
  rintro (h | h) <;> cases h

theorem Moves.keeps {state next : Account} {t : Transition} (h : Moves state t next) : Keeps state next := by
  cases h with
  | @fetched s k he hu _ =>
    refine keeps_of_engaged ?_
    change (⟨k.email, k.uid⟩ : Owner) = _
    rw [he, hu]
  | unverified s => exact .refl _
  | signed k certificate => exact keeps_married k certificate
  | expired m => exact keeps_cohabiting m
  | separated remote _ => exact keeps_drop (not_dropped_of_remote remote) rfl (.inl rfl)
  | doghouse remote _ _ => exact keeps_drop (not_dropped_of_remote remote) rfl (.inr rfl)
  | disproved _ _ _ => exact keeps_of_engaged rfl
  | failed _ _ _ _ => exact .refl _

variable {duration bound maxSteps : Nat} {target : StateLabel} {state initial : Account} {xs : Exchanges}
  {run : Run}

theorem Walk.keeps (h : Walk duration target bound state xs run) : Keeps state run.state := by
  induction h with
  | settled _ => exact .refl _
  | ended _ _ => exact .refl _
  | exhausted _ _ => exact .refl _
  | stayed _ ha hstep _ => exact (moves_of_course (own_of_nextAction ha) hstep).keeps
  | moved _ ha hstep _ _ ih => exact (moves_of_course (own_of_nextAction ha) hstep).keeps.trans ih

theorem keeps_of_advance (h : Course (advance maxSteps duration initial target) xs run) :
    Keeps initial run.state := by
  obtain ⟨ys, hw, _⟩ := course_advance_iff.mp h
  exact hw.keeps

theorem advance_of_dropped (hd : Dropped initial)
    (h : Course (advance maxSteps duration initial target) xs run) :
    run = ⟨[], initial⟩ ∧ ∀ x ∈ xs, ¬ x.question.IsCall := by
  obtain ⟨ys, hw, rfl⟩ := course_advance_iff.mp h
  obtain ⟨rfl, now, rfl⟩ := hw.of_dropped hd
  refine ⟨rfl, ?_⟩
  intro x hx hcall
  simp only [List.cons_append, List.nil_append, List.mem_cons, List.not_mem_nil, or_false] at hx
  rcases hx with rfl | rfl
  · exact hcall
  · exact hcall

end AccountSync.Login
