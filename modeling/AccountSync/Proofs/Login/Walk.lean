import AccountSync.Proofs.Login.Step

/-!
Whole login runs. `Walk` lists the ways through a run, with a constructor for each reason to stop; the courses
of a run are exactly its walks (`course_steps_iff`), and what holds of all runs is proved by induction on
the walk.
-/

set_option autoImplicit false
set_option relaxedAutoImplicit false

namespace AccountSync.Login

open Dialogue

/-- A run of at most so many steps from a state: its exchanges and what it comes to. -/
inductive Walk (duration : Nat) (target : StateLabel) : Nat → Account → Exchanges → Run → Prop
  | settled {bound : Nat} {state : Account} {now : Instant} : isSettled state target now = true →
      Walk duration target bound state [⟨.now, now⟩] ⟨[], state⟩
  | ended {bound : Nat} {state : Account} {now : Instant} : isSettled state target now = false →
      nextAction state now = none → Walk duration target bound state [⟨.now, now⟩] ⟨[], state⟩
  | exhausted {state : Account} {now : Instant} {action : Action} : isSettled state target now = false →
      nextAction state now = some action → Walk duration target 0 state [⟨.now, now⟩] ⟨[], state⟩
  | stayed {bound : Nat} {state next : Account} {now : Instant} {action : Action} {xs : Exchanges}
      {t : Transition} : isSettled state target now = false → nextAction state now = some action →
      Course (step duration action state) xs (t, next) → t.kind = .stay →
      Walk duration target (bound + 1) state (⟨.now, now⟩ :: (xs ++ [⟨.report t next, ()⟩])) ⟨[t], next⟩
  | moved {bound : Nat} {state next : Account} {now : Instant} {action : Action} {xs ys : Exchanges}
      {t : Transition} {run : Run} : isSettled state target now = false →
      nextAction state now = some action → Course (step duration action state) xs (t, next) →
      t.kind ≠ .stay → Walk duration target bound next ys run →
      Walk duration target (bound + 1) state (⟨.now, now⟩ :: (xs ++ ⟨.report t next, ()⟩ :: ys))
        ⟨t :: run.transitions, run.state⟩

variable {duration bound maxSteps : Nat} {target : StateLabel} {state initial : Account} {xs : Exchanges}
  {run : Run}

private theorem walk_of_course_steps (h : Course (steps duration target bound state) xs run) :
    Walk duration target bound state xs run := by
  induction bound generalizing state xs run with
  | zero =>
    unfold steps at h
    obtain ⟨_, now, zs, hnow, hc, rfl⟩ := course_bind_iff.mp h
    obtain rfl := course_question_iff.mp hnow
    split at hc
    · rename_i hs
      obtain ⟨rfl, rfl⟩ := course_pure_iff.mp hc
      exact .settled hs
    · rename_i hs
      split at hc
      · rename_i ha
        obtain ⟨rfl, rfl⟩ := course_pure_iff.mp hc
        exact .ended (Bool.not_eq_true _ ▸ hs) ha
      · rename_i action ha
        obtain ⟨rfl, rfl⟩ := course_pure_iff.mp hc
        exact .exhausted (Bool.not_eq_true _ ▸ hs) ha
  | succ bound ih =>
    unfold steps at h
    obtain ⟨_, now, zs, hnow, hc, rfl⟩ := course_bind_iff.mp h
    obtain rfl := course_question_iff.mp hnow
    split at hc
    · rename_i hs
      obtain ⟨rfl, rfl⟩ := course_pure_iff.mp hc
      exact .settled hs
    · rename_i hs
      have hs' : isSettled state target now = false := Bool.not_eq_true _ ▸ hs
      split at hc
      · rename_i ha
        obtain ⟨rfl, rfl⟩ := course_pure_iff.mp hc
        exact .ended hs' ha
      · rename_i action ha
        obtain ⟨ys, ⟨t, next⟩, us, hstep, hrest, rfl⟩ := course_bind_iff.mp hc
        obtain ⟨_, _, ws, hreport, hgo, rfl⟩ := course_bind_iff.mp hrest
        obtain rfl := course_question_iff.mp hreport
        split at hgo
        · rename_i hk
          obtain ⟨rfl, rfl⟩ := course_pure_iff.mp hgo
          exact .stayed hs' ha hstep hk
        · rename_i hk
          obtain ⟨vs, run', _, hsteps, hp, rfl⟩ := course_bind_iff.mp hgo
          obtain ⟨rfl, rfl⟩ := course_pure_iff.mp hp
          rw [List.append_nil]
          exact .moved hs' ha hstep hk (ih hsteps)

private theorem course_steps_of_walk (h : Walk duration target bound state xs run) :
    Course (steps duration target bound state) xs run := by
  induction h with
  | settled hs =>
    unfold steps
    refine course_bind_iff.mpr ⟨_, _, [], course_question_iff.mpr rfl, ?_, rfl⟩
    simp only [hs, if_true]
    exact .done _
  | ended hs ha =>
    unfold steps
    refine course_bind_iff.mpr ⟨_, _, [], course_question_iff.mpr rfl, ?_, rfl⟩
    simp only [hs, ha, Bool.false_eq_true, if_false]
    exact .done _
  | exhausted hs ha =>
    unfold steps
    refine course_bind_iff.mpr ⟨_, _, [], course_question_iff.mpr rfl, ?_, rfl⟩
    simp only [hs, ha, Bool.false_eq_true, if_false]
    exact .done _
  | stayed hs ha hstep hk =>
    unfold steps
    refine course_bind_iff.mpr ⟨_, _, _, course_question_iff.mpr rfl, ?_, rfl⟩
    simp only [hs, ha, Bool.false_eq_true, if_false]
    refine course_bind_iff.mpr ⟨_, _, _, hstep, ?_, rfl⟩
    refine course_bind_iff.mpr ⟨_, (), [], course_question_iff.mpr rfl, ?_, rfl⟩
    simp only [hk, if_true]
    exact .done _
  | moved hs ha hstep hk _ ih =>
    unfold steps
    refine course_bind_iff.mpr ⟨_, _, _, course_question_iff.mpr rfl, ?_, rfl⟩
    simp only [hs, ha, Bool.false_eq_true, if_false]
    refine course_bind_iff.mpr ⟨_, _, _, hstep, ?_, rfl⟩
    refine course_bind_iff.mpr ⟨_, (), _, course_question_iff.mpr rfl, ?_, rfl⟩
    simp only [hk, if_false]
    exact course_bind_iff.mpr ⟨_, _, [], ih, .done _, (List.append_nil _).symm⟩

theorem course_steps_iff :
    Course (steps duration target bound state) xs run ↔ Walk duration target bound state xs run :=
  ⟨walk_of_course_steps, course_steps_of_walk⟩

theorem course_advance_iff :
    Course (advance maxSteps duration initial target) xs run ↔
      ∃ ys, Walk duration target (max 1 maxSteps) initial ys run ∧ xs = ys ++ [⟨.final run.state, ()⟩] := by
  unfold advance
  constructor
  · intro h
    obtain ⟨ys, run', zs, hs, hf, rfl⟩ := course_bind_iff.mp h
    obtain ⟨_, _, _, hq, hp, rfl⟩ := course_bind_iff.mp hf
    obtain rfl := course_question_iff.mp hq
    obtain ⟨rfl, rfl⟩ := course_pure_iff.mp hp
    exact ⟨ys, course_steps_iff.mp hs, rfl⟩
  · rintro ⟨ys, hw, rfl⟩
    refine course_bind_iff.mpr ⟨_, _, _, course_steps_iff.mpr hw, ?_, rfl⟩
    exact course_bind_iff.mpr ⟨_, (), [], course_question_iff.mpr rfl, .done _, rfl⟩

/-- The account was dropped: its owner is all that is left of it. -/
def Dropped (state : Account) : Prop := state.label = .separated ∨ state.label = .doghouse

theorem nextAction_eq_none_of_dropped {now : Instant} (h : Dropped state) : nextAction state now = none := by
  cases state with
  | engaged s => rcases h with h | h <;> cases h
  | cohabiting s => rcases h with h | h <;> cases h
  | married m => rcases h with h | h <;> cases h
  | separated o => rfl
  | doghouse o => rfl

theorem Walk.of_dropped (h : Walk duration target bound state xs run) (hd : Dropped state) :
    run = ⟨[], state⟩ ∧ ∃ now, xs = [⟨.now, now⟩] := by
  cases h with
  | settled _ => exact ⟨rfl, _, rfl⟩
  | ended _ _ => exact ⟨rfl, _, rfl⟩
  | exhausted _ ha => simp [nextAction_eq_none_of_dropped hd] at ha
  | stayed _ ha _ _ => simp [nextAction_eq_none_of_dropped hd] at ha
  | moved _ ha _ _ _ => simp [nextAction_eq_none_of_dropped hd] at ha

end AccountSync.Login
