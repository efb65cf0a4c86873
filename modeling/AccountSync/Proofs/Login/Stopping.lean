import AccountSync.Proofs.Login.Certificate
import AccountSync.Proofs.Login.Failure
import AccountSync.Proofs.Login.Progress
import AccountSync.Proofs.Login.Table

/-!
Why a login run stops. A run is judged each time that it looks at the clock and after each step: `Walk.look_iff` and
`Walk.report_iff` say when it is over there. Main statement: `advance_stops_exactly`, that a run stops for one of four
reasons and as soon as there is one, and that it does nothing exactly if there is one to begin with that is not its
bound.
-/

set_option autoImplicit false
set_option relaxedAutoImplicit false

namespace AccountSync.Login

open Dialogue

/-- The state is the one wanted, and is not one of being married by a certificate that is no good. -/
def Arrived (target : StateLabel) (state : Account) (now : Instant) : Prop :=
  state.label = target ∧ ∀ m, state = .married m → m.hasValidCertificate now = true

/-- Nothing leads away from the state: the account was dropped, or it is married by a good certificate. -/
def Cornered (state : Account) (now : Instant) : Prop :=
  Dropped state ∨ ∃ m, state = .married m ∧ m.hasValidCertificate now = true

/-- The state in which some exchanges leave a run: the last one that they report. -/
def standing (initial : Account) (xs : Exchanges) : Account :=
  xs.foldl (fun state x => (state? x).getD state) initial

variable {duration bound maxSteps : Nat} {target : StateLabel} {state next initial : Account}
  {xs ys zs rest : Exchanges} {x : Exchange Question.Answer} {t : Transition} {run : Run} {now later : Instant}
  {action : Action}

private theorem standing_append : standing state (xs ++ ys) = standing (standing state xs) ys := List.foldl_append

private theorem standing_of_isCall (h : ∀ x ∈ xs, x.question.IsCall) : standing state xs = state := by
  induction xs with
  | nil => rfl
  | cons x xs ih =>
    have hx : state? x = none := state?_eq_none_of_isCall (h x List.mem_cons_self)
    have hcons : standing state (x :: xs) = standing ((state? x).getD state) xs := rfl
    rw [hcons, hx]
    exact ih fun y hy => h y (List.mem_cons_of_mem x hy)

private theorem isSettled_iff : isSettled state target now = true ↔ Arrived target state now := by
  unfold isSettled Arrived
  rw [Bool.and_eq_true, decide_eq_true_eq]
  refine and_congr_right fun _ => ?_
  cases state with
  | married m => exact ⟨by rintro h _ ⟨⟩; exact h, fun h => h m rfl⟩
  | engaged s => exact iff_of_true rfl nofun
  | cohabiting k => exact iff_of_true rfl nofun
  | separated o => exact iff_of_true rfl nofun
  | doghouse o => exact iff_of_true rfl nofun

private theorem nextAction_eq_none_iff : nextAction state now = none ↔ Cornered state now := by
  constructor
  · intro h
    cases state with
    | engaged s => cases h
    | cohabiting k => cases h
    | married m => exact .inr ⟨m, rfl, valid_of_nextAction h⟩
    | separated o => exact .inl (.inl rfl)
    | doghouse o => exact .inl (.inr rfl)
  · rintro (hd | ⟨m, rfl, hm⟩)
    · exact nextAction_eq_none_of_dropped hd
    · rw [nextAction, if_pos hm]

/-- Where a step is taken there is no reason to stop but for the bound. -/
theorem not_arrived_or_cornered (hs : isSettled state target now = false) (ha : nextAction state now = some action) :
    ¬ (Arrived target state now ∨ Cornered state now) := by
  rintro (h | h)
  · cases hs.symm.trans (isSettled_iff.mpr h)
  · cases ha.symm.trans (nextAction_eq_none_iff.mpr h)

section Round

/-! One round of a run: a look at the clock, a step and the report of it. -/

variable (hcalls : ∀ x ∈ xs, x.question.IsCall)

include hcalls

private theorem standing_of_round :
    standing state (⟨.now, now⟩ :: (xs ++ ⟨.report t next, ()⟩ :: ys)) = standing next ys := by
  have hnow : standing state (⟨.now, now⟩ :: (xs ++ ⟨.report t next, ()⟩ :: ys)) =
      standing state (xs ++ ⟨.report t next, ()⟩ :: ys) := rfl
  rw [hnow, standing_append, standing_of_isCall hcalls]
  rfl

private theorem reports_of_round : reports (⟨.now, now⟩ :: (xs ++ ⟨.report t next, ()⟩ :: ys)) = t :: reports ys := by
  have hnow : reports (⟨.now, now⟩ :: (xs ++ ⟨.report t next, ()⟩ :: ys)) =
      reports (xs ++ ⟨.report t next, ()⟩ :: ys) := rfl
  rw [hnow, reports_append, reports_eq_nil hcalls]
  rfl

private theorem split_round (hx : ¬ x.question.IsCall)
    (h : ⟨.now, now⟩ :: (xs ++ ⟨.report t next, ()⟩ :: rest) = ys ++ x :: zs) :
    (ys = [] ∧ x = ⟨.now, now⟩ ∧ zs = xs ++ ⟨.report t next, ()⟩ :: rest) ∨
      (ys = ⟨.now, now⟩ :: xs ∧ x = ⟨.report t next, ()⟩ ∧ zs = rest) ∨
      ∃ between, ys = ⟨.now, now⟩ :: (xs ++ ⟨.report t next, ()⟩ :: between) ∧ rest = between ++ x :: zs := by
  cases ys with
  | nil =>
    cases h
    exact .inl ⟨rfl, rfl, rfl⟩
  | cons y ys =>
    obtain ⟨rfl, htail⟩ := List.cons.inj h
    obtain ⟨between, rfl, hrest⟩ := split_behind htail fun hmem => hx (hcalls x hmem)
    cases between with
    | nil =>
      cases hrest
      exact .inr (.inl ⟨by rw [List.append_nil], rfl, rfl⟩)
    | cons b between =>
      cases hrest
      exact .inr (.inr ⟨between, rfl, rfl⟩)

end Round

/-- A walk ends in the state that it reports last. -/
theorem Walk.standing_eq (h : Walk duration target bound state xs run) : standing state xs = run.state := by
  induction h with
  | settled _ => rfl
  | ended _ _ => rfl
  | exhausted _ _ => rfl
  | stayed _ _ hstep _ => exact standing_of_round ((asks_step _ _ _).of_course hstep)
  | moved _ _ hstep _ _ ih => exact (standing_of_round ((asks_step _ _ _).of_course hstep)).trans ih

private theorem Walk.reason (h : Walk duration target bound state xs run) : ∃ now, lastLook xs = some now ∧
    (Arrived target run.state now ∨ Cornered run.state now ∨ (∃ t, run.transitions.getLast? = some t ∧ t.kind = .stay) ∨
      run.transitions.length = bound) := by
  induction h with
  | settled hs => exact ⟨_, rfl, .inl (isSettled_iff.mp hs)⟩
  | ended _ ha => exact ⟨_, rfl, .inr (.inl (nextAction_eq_none_iff.mp ha))⟩
  | exhausted _ _ => exact ⟨_, rfl, .inr (.inr (.inr rfl))⟩
  | @stayed bound _ _ _ _ _ _ hs ha hstep hk =>
    have hwalk : Walk duration target (bound + 1) _ _ _ := .stayed hs ha hstep hk
    obtain ⟨now, hnow⟩ := hwalk.exists_lastLook
    exact ⟨now, hnow, .inr (.inr (.inl ⟨_, rfl, hk⟩))⟩
  | @moved bound state next now action xs ys t run _ _ _ _ _ ih =>
    obtain ⟨last, hlast, hreason⟩ := ih
    have hlook : lastLook (⟨.now, now⟩ :: (xs ++ ⟨.report t next, ()⟩ :: ys)) = some last := by
      have happend := lastLook_append (⟨.now, now⟩ :: xs ++ [⟨.report t next, ()⟩]) hlast
      rwa [List.append_assoc] at happend
    refine ⟨last, hlook, ?_⟩
    rcases hreason with harrived | hcornered | ⟨u, hu, hstay⟩ | hlength
    · exact .inl harrived
    · exact .inr (.inl hcornered)
    · refine .inr (.inr (.inl ⟨u, ?_, hstay⟩))
      rw [List.getLast?_cons, hu]
      rfl
    · exact .inr (.inr (.inr (congrArg (· + 1) hlength)))

private theorem Walk.left (h : Walk duration target bound state xs run) (hsplit : xs = ys ++ ⟨.now, later⟩ :: zs) :
    ∃ left run', bound = (reports ys).length + left ∧
      Walk duration target left (standing state ys) (⟨.now, later⟩ :: zs) run' := by
  have hwhole : ∀ {bound : Nat} {state : Account} {xs : Exchanges} {run : Run},
      Walk duration target bound state xs run → xs = ⟨.now, later⟩ :: zs →
      ∃ left run', bound = (reports []).length + left ∧
        Walk duration target left (standing state []) (⟨.now, later⟩ :: zs) run' := by
    rintro bound state _ run hw rfl
    exact ⟨bound, run, (Nat.zero_add bound).symm, hw⟩
  have hsingle : ∀ {now : Instant} {ys : Exchanges}, [⟨.now, now⟩] = ys ++ ⟨.now, later⟩ :: zs → ys = [] := by
    intro now ys hone
    cases ys with
    | nil => rfl
    | cons y ys => simp at hone
  have hlook : ¬ (⟨.now, later⟩ : Exchange Question.Answer).question.IsCall := id
  induction h generalizing ys with
  | settled hs =>
    obtain rfl := hsingle hsplit
    exact hwhole (.settled hs) hsplit
  | ended hs ha =>
    obtain rfl := hsingle hsplit
    exact hwhole (.ended hs ha) hsplit
  | exhausted hs ha =>
    obtain rfl := hsingle hsplit
    exact hwhole (.exhausted hs ha) hsplit
  | stayed hs ha hstep hk =>
    rcases split_round ((asks_step _ _ _).of_course hstep) hlook hsplit with ⟨rfl, -, -⟩ | ⟨-, hx, -⟩ | ⟨_, -, hnil⟩
    · exact hwhole (.stayed hs ha hstep hk) hsplit
    · cases hx
    · simp at hnil
  | @moved bound state next now action xs _ t run hs ha hstep hk hw ih =>
    have hcalls := (asks_step duration action state).of_course hstep
    rcases split_round hcalls hlook hsplit with ⟨rfl, -, -⟩ | ⟨-, hx, -⟩ | ⟨between, rfl, hrest⟩
    · exact hwhole (.moved hs ha hstep hk hw) hsplit
    · cases hx
    · obtain ⟨left, run', hbound, hleft⟩ := ih hrest
      rw [standing_of_round hcalls, reports_of_round hcalls]
      refine ⟨left, run', ?_, hleft⟩
      rw [hbound, List.length_cons]
      omega

theorem Walk.look_iff (h : Walk duration target bound state xs run) (hsplit : xs = ys ++ ⟨.now, later⟩ :: zs) :
    zs = [] ↔ Arrived target (standing state ys) later ∨ Cornered (standing state ys) later ∨
      (reports ys).length = bound := by
  obtain ⟨left, run', hbound, hleft⟩ := h.left hsplit
  have hbound : (reports ys).length = bound ↔ left = 0 := by omega
  rw [hbound]
  cases hleft with
  | settled hs => exact iff_of_true rfl (.inl (isSettled_iff.mp hs))
  | ended _ ha => exact iff_of_true rfl (.inr (.inl (nextAction_eq_none_iff.mp ha)))
  | exhausted _ _ => exact iff_of_true rfl (.inr (.inr rfl))
  | stayed hs ha _ _ =>
    refine iff_of_false (by simp) ?_
    rw [← or_assoc]
    exact not_or.mpr ⟨not_arrived_or_cornered hs ha, Nat.succ_ne_zero _⟩
  | moved hs ha _ _ _ =>
    refine iff_of_false (by simp) ?_
    rw [← or_assoc]
    exact not_or.mpr ⟨not_arrived_or_cornered hs ha, Nat.succ_ne_zero _⟩

/-- A walk is over after the report of a step exactly if the step changed nothing. -/
theorem Walk.report_iff (h : Walk duration target bound state xs run) (hsplit : xs = ys ++ ⟨.report t next, ()⟩ :: zs) :
    zs = [] ↔ t.kind = .stay := by
  have hreport : ¬ (⟨.report t next, ()⟩ : Exchange Question.Answer).question.IsCall := id
  have hsingle : ∀ {now : Instant} {ys : Exchanges}, [⟨.now, now⟩] ≠ ys ++ ⟨.report t next, ()⟩ :: zs := by
    intro now ys hone
    cases ys <;> simp at hone
  induction h generalizing ys with
  | settled _ => exact (hsingle hsplit).elim
  | ended _ _ => exact (hsingle hsplit).elim
  | exhausted _ _ => exact (hsingle hsplit).elim
  | stayed _ _ hstep hk =>
    rcases split_round ((asks_step _ _ _).of_course hstep) hreport hsplit with ⟨-, hx, -⟩ | ⟨-, hx, hzs⟩ | ⟨_, -, hnil⟩
    · cases hx
    · cases hx
      exact iff_of_true hzs hk
    · simp at hnil
  | moved _ _ hstep hk hw ih =>
    rcases split_round ((asks_step _ _ _).of_course hstep) hreport hsplit with ⟨-, hx, -⟩ | ⟨-, hx, hzs⟩ | ⟨_, -, hrest⟩
    · cases hx
    · cases hx
      obtain ⟨now, hnow⟩ := hw.exists_now
      refine iff_of_false ?_ hk
      rintro rfl
      rw [← hzs] at hnow
      cases hnow
    · exact ih hrest

/-- All that a run goes through which has nothing to do. -/
def idle (state : Account) (now : Instant) : Exchanges := [⟨.now, now⟩, ⟨.final state, ()⟩]

private theorem idle_of_reason (h : Course (advance maxSteps duration initial target) xs run)
    (hnow : xs.head? = some ⟨.now, now⟩) (hreason : Arrived target initial now ∨ Cornered initial now) :
    xs = idle initial now ∧ run = ⟨[], initial⟩ := by
  obtain ⟨ys, hw, rfl⟩ := course_advance_iff.mp h
  generalize max 1 maxSteps = bound at hw
  cases hw with
  | settled _ =>
    cases hnow
    exact ⟨rfl, rfl⟩
  | ended _ _ =>
    cases hnow
    exact ⟨rfl, rfl⟩
  | exhausted _ _ =>
    cases hnow
    exact ⟨rfl, rfl⟩
  | stayed hs ha _ _ =>
    cases hnow
    exact (not_arrived_or_cornered hs ha hreason).elim
  | moved hs ha _ _ _ =>
    cases hnow
    exact (not_arrived_or_cornered hs ha hreason).elim

private theorem Walk.reason_of_unmoved (h : Walk duration target (bound + 1) initial xs run)
    (hnow : xs.head? = some ⟨.now, now⟩) (hnone : run.transitions = []) :
    Arrived target initial now ∨ Cornered initial now := by
  cases h with
  | settled hs =>
    cases hnow
    exact .inl (isSettled_iff.mp hs)
  | ended _ ha =>
    cases hnow
    exact .inr (nextAction_eq_none_iff.mp ha)
  | stayed _ _ _ _ => cases hnone
  | moved _ _ _ _ _ => cases hnone

/-- What follows an exchange of a run is the hand-over of the state that the run stands in, if the walk is over. -/
theorem handed_over_iff {state : Account} (hw : Walk duration target bound initial xs run)
    (hsplit : xs ++ [⟨.final run.state, ()⟩] = ys ++ x :: zs) (hx : x.question.isFinal = false)
    (hstate : standing initial (ys ++ [x]) = state) :
    ∃ between, xs = ys ++ x :: between ∧ (zs = [⟨.final state, ()⟩] ↔ between = []) := by
  have hmem : x ∉ [(⟨.final run.state, ()⟩ : Exchange Question.Answer)] := by
    rintro hmem
    obtain rfl := List.mem_singleton.mp hmem
    cases hx
  obtain ⟨between, rfl, rfl⟩ := split_before hsplit hmem
  refine ⟨between, rfl, ?_⟩
  constructor
  · intro hfinal
    have hlength := congrArg List.length hfinal
    simp only [List.length_append, List.length_cons, List.length_nil] at hlength
    exact List.eq_nil_of_length_eq_zero (by omega)
  · rintro rfl
    rw [← hstate, hw.standing_eq]
    rfl

/-- A run stops for one of four reasons by the time that it last looked at the clock: it arrived where it was to get to,
nothing leads away from there, the last step changed nothing, or all steps are taken that may be. It stops as soon as
one of them holds, and it does nothing exactly if one of the first two does at the first look. To run it again from
where one of these stopped it, at the same time, does nothing either. -/
theorem advance_stops_exactly (maxSteps duration : Nat) (initial : Account) (target : StateLabel) {xs : Exchanges}
    {run : Run} (h : Course (advance maxSteps duration initial target) xs run) :
    (∃ last, lastLook xs = some last ∧
      (Arrived target run.state last ∨ Cornered run.state last ∨
        (∃ t, (reports xs).getLast? = some t ∧ t.kind = .stay) ∨ (reports xs).length = max 1 maxSteps)) ∧
    (∀ ys now zs, xs = ys ++ ⟨.now, now⟩ :: zs →
      (zs = [⟨.final (standing initial ys), ()⟩] ↔
        Arrived target (standing initial ys) now ∨ Cornered (standing initial ys) now ∨
          (reports ys).length = max 1 maxSteps)) ∧
    (∀ ys t state zs, xs = ys ++ ⟨.report t state, ()⟩ :: zs → (zs = [⟨.final state, ()⟩] ↔ t.kind = .stay)) ∧
    (∃ first, xs.head? = some ⟨.now, first⟩ ∧
      (asked Question.request? xs = [] ∧ reports xs = [] ↔ Arrived target initial first ∨ Cornered initial first) ∧
      (Arrived target initial first ∨ Cornered initial first → xs = idle initial first ∧ run = ⟨[], initial⟩)) ∧
    ∀ last, lastLook xs = some last → Arrived target run.state last ∨ Cornered run.state last →
      ∀ maxSteps' duration' again run', Course (advance maxSteps' duration' run.state target) again run' →
        again.head? = some ⟨.now, last⟩ → again = idle run.state last ∧ run' = ⟨[], run.state⟩ := by
  obtain ⟨ys, hw, rfl⟩ := course_advance_iff.mp h
  have hreports : reports (ys ++ [⟨.final run.state, ()⟩]) = run.transitions := by
    rw [reports_append, hw.reports_eq]
    exact List.append_nil _
  refine ⟨?_, ?_, ?_, ?_, ?_⟩
  · rw [lastLook_final, hreports]
    exact hw.reason
  · intro before now zs hsplit
    have hstate : standing initial (before ++ [⟨.now, now⟩]) = standing initial before := standing_append
    obtain ⟨between, hys, hover⟩ := handed_over_iff hw hsplit rfl hstate
    exact hover.trans (hw.look_iff hys)
  · intro before t state zs hsplit
    have hstate : standing initial (before ++ [⟨.report t state, ()⟩]) = state := standing_append
    obtain ⟨between, hys, hover⟩ := handed_over_iff hw hsplit rfl hstate
    exact hover.trans (hw.report_iff hys)
  · obtain ⟨first, hfirst⟩ := hw.exists_now
    have hhead : List.head? (ys ++ [⟨.final run.state, ()⟩]) = some ⟨.now, first⟩ := by
      rw [List.head?_append, hfirst]
      rfl
    refine ⟨first, hhead, ⟨?_, ?_⟩, idle_of_reason h hhead⟩
    · rintro ⟨-, hnone⟩
      obtain ⟨bound, hbound⟩ : ∃ bound, max 1 maxSteps = bound + 1 := ⟨max 1 maxSteps - 1, by omega⟩
      rw [hbound] at hw
      exact hw.reason_of_unmoved hfirst (hreports ▸ hnone)
    · intro hreason
      obtain ⟨hidle, -⟩ := idle_of_reason h hhead hreason
      rw [hidle]
      exact ⟨rfl, rfl⟩
  · intro last _ hreason maxSteps' duration' again run' hagain hlast
    exact idle_of_reason hagain hlast hreason

/-- The session of `guest` is found ended, with which nothing is left to do, and nothing is when it is run again. -/
theorem advance_stops_exactly_rejected :
    ∃ xs run, Course (advance 8 0 (.cohabiting guest) .married) xs run ∧ lastLook xs = some 2 ∧
      run.state = .separated ⟨"ada@example.org", "u"⟩ ∧ (reports xs).length = 1 ∧
      ¬ (Arrived .married (.cohabiting guest) 1 ∨ Cornered (.cohabiting guest) 1) ∧
      ∃ again run', Course (advance 1 7 run.state .married) again run' ∧
        again = idle run.state 2 ∧ run' = ⟨[], run.state⟩ := by
  have hunsettled : isSettled (.cohabiting guest) .married 1 = false := rfl
  have hsign : Signing guest 0 _ _ := .refused (.tokenRejected "")
  have hend : Walk 0 .married 7 (.separated ⟨"ada@example.org", "u"⟩) [⟨.now, 2⟩] _ := .ended rfl rfl
  have hwalk : Walk 0 .married 8 (.cohabiting guest) _ _ :=
    .moved hunsettled rfl (course_step_iff.mpr (.sign hsign)) (by decide) hend
  have hcourse : Course (advance 8 0 (.cohabiting guest) .married) _ _ := course_advance_iff.mpr ⟨_, hwalk, rfl⟩
  have hagain : Walk 7 .married 1 (.separated ⟨"ada@example.org", "u"⟩) [⟨.now, 2⟩] _ := .ended rfl rfl
  have hcourse' : Course (advance 1 7 (.separated ⟨"ada@example.org", "u"⟩) .married) _ _ :=
    course_advance_iff.mpr ⟨_, hagain, rfl⟩
  obtain ⟨-, -, -, ⟨_, hfirst, hnothing, -⟩, hrerun⟩ := advance_stops_exactly 8 0 (.cohabiting guest) .married hcourse
  cases hfirst
  refine ⟨_, _, hcourse, rfl, rfl, rfl, fun hreason => ?_, _, _, hcourse', ?_⟩
  · cases (hnothing.mpr hreason).1
  · exact hrerun 2 rfl (.inr (.inl (.inl rfl))) 1 7 _ _ hcourse' rfl

end AccountSync.Login
