import AccountSync.Proofs.Login.Walk

/-!
The transition table of login runs. `Edge` is a line of the table, `Path` a run through it. Main statement:
`advance_follows_table`, that whatever the provider, the clock and the source of key pairs answer, the
steps that a run reports are such a path from the first state to the last one.
-/

set_option autoImplicit false
set_option relaxedAutoImplicit false

namespace AccountSync.Login

open Dialogue

/-- A line of the table. What is said of a step apart from it is left open. -/
inductive Edge : Transition → Prop
  | fetched (detail : String) : Edge ⟨.engaged, .cohabiting, .fetchKeys, .progress, detail⟩
  | signed (detail : String) : Edge ⟨.cohabiting, .married, .signCertificate, .progress, detail⟩
  | expired (detail : String) : Edge ⟨.married, .cohabiting, .checkCertificate, .reset, detail⟩
  | separated {label : StateLabel} {action : Action} (detail : String) : Remote label action →
      Edge ⟨label, .separated, action, .reset, detail⟩
  | doghouse {label : StateLabel} {action : Action} (detail : String) : Remote label action →
      Edge ⟨label, .doghouse, action, .reset, detail⟩
  | stayed {label : StateLabel} {action : Action} (detail : String) : Remote label action →
      Edge ⟨label, label, action, .stay, detail⟩

def Transition.Closes (t : Transition) : Prop :=
  t.kind = .stay ∨ t.target = .separated ∨ t.target = .doghouse

/-- Steps from one label to another, each from where the one before it led, none after one that closes the
run. -/
inductive Path : StateLabel → List Transition → StateLabel → Prop
  | nil (label : StateLabel) : Path label [] label
  | single {t : Transition} : Edge t → Path t.source [t] t.target
  | cons {t : Transition} {ts : List Transition} {label : StateLabel} : Edge t → ¬ t.Closes →
      Path t.target ts label → Path t.source (t :: ts) label

def reported? : Exchange Question.Answer → Option Transition
  | ⟨.report t _, _⟩ => some t
  | _ => none

def reports (xs : Exchanges) : List Transition := xs.filterMap reported?

def Question.isFinal : Question → Bool
  | .final _ => true
  | _ => false

@[simp] theorem reports_append (xs ys : Exchanges) : reports (xs ++ ys) = reports xs ++ reports ys :=
  List.filterMap_append

theorem reports_eq_nil {xs : Exchanges} (h : ∀ x ∈ xs, x.question.IsCall) : reports xs = [] := by
  refine List.filterMap_eq_nil_iff.mpr fun x hx => ?_
  have hq := h x hx
  obtain ⟨q, a⟩ := x
  cases q with
  | now => exact hq.elim
  | ask r => rfl
  | keyPair => rfl
  | report t s => exact hq.elim
  | final s => exact hq.elim

private theorem Question.IsCall.not_final {q : Question} (h : q.IsCall) : q.isFinal = false := by
  cases q with
  | now => rfl
  | ask r => rfl
  | keyPair => rfl
  | report t s => rfl
  | final s => exact h.elim

private theorem Moves.edge {state next : Account} {t : Transition} (h : Moves state t next) : Edge t := by
  cases h with
  | fetched _ _ _ => exact .fetched _
  | unverified s => exact .stayed _ .fetchKeys
  | signed k certificate => exact .signed _
  | expired m => exact .expired _
  | separated remote _ => exact .separated _ remote
  | doghouse remote _ _ => exact .doghouse _ remote
  | disproved _ _ _ => exact .stayed _ .fetchKeys
  | failed remote _ _ _ => exact .stayed _ remote

private theorem Moves.source_eq {state next : Account} {t : Transition} (h : Moves state t next) :
    t.source = state.label := by
  cases h <;> rfl

private theorem Moves.target_eq {state next : Account} {t : Transition} (h : Moves state t next) :
    t.target = next.label := by
  cases h <;> rfl

private theorem Edge.own {t : Transition} (h : Edge t) : Own t.source t.action := by
  cases h with
  | fetched detail => exact .fetchKeys
  | signed detail => exact .signCertificate
  | expired detail => exact .checkCertificate
  | separated detail remote => cases remote <;> constructor
  | doghouse detail remote => cases remote <;> constructor
  | stayed detail remote => cases remote <;> constructor

variable {duration bound maxSteps : Nat} {target : StateLabel} {state initial : Account} {xs : Exchanges}
  {run : Run}

theorem Walk.reports_eq (h : Walk duration target bound state xs run) : reports xs = run.transitions := by
  induction h with
  | settled _ => rfl
  | ended _ _ => rfl
  | exhausted _ _ => rfl
  | @stayed bound state next now action xs t _ _ hstep _ =>
    have hcalls := (asks_step duration action state).of_course hstep
    change reports (xs ++ _) = _
    rw [reports_append, reports_eq_nil hcalls]
    rfl
  | @moved bound state next now action xs ys t run _ _ hstep _ _ ih =>
    have hcalls := (asks_step duration action state).of_course hstep
    change reports (xs ++ _) = _
    rw [reports_append, reports_eq_nil hcalls, List.nil_append]
    change t :: reports ys = _
    rw [ih]

private theorem Walk.length_le (h : Walk duration target bound state xs run) :
    run.transitions.length ≤ bound := by
  induction h with
  | settled _ => exact Nat.zero_le _
  | ended _ _ => exact Nat.zero_le _
  | exhausted _ _ => exact Nat.le_refl _
  | stayed _ _ _ _ => simp
  | moved _ _ _ _ _ ih => simpa using ih

private theorem Walk.path (h : Walk duration target bound state xs run) :
    Path state.label run.transitions run.state.label := by
  induction h with
  | settled _ => exact .nil _
  | ended _ _ => exact .nil _
  | exhausted _ _ => exact .nil _
  | stayed _ ha hstep _ =>
    have hm := moves_of_course (own_of_nextAction ha) hstep
    have hp := Path.single hm.edge
    rwa [hm.source_eq, hm.target_eq] at hp
  | @moved bound state next now action xs ys t run _ ha hstep hk hw ih =>
    have hm := moves_of_course (own_of_nextAction ha) hstep
    rw [← hm.source_eq]
    by_cases hd : Dropped next
    · obtain ⟨rfl, _⟩ := hw.of_dropped hd
      rw [← hm.target_eq]
      exact .single hm.edge
    · refine .cons hm.edge ?_ (hm.target_eq ▸ ih)
      rintro (hstay | hdrop)
      · exact hk hstay
      · refine hd ?_
        unfold Dropped
        rwa [← hm.target_eq]

private theorem Walk.not_final (h : Walk duration target bound state xs run) :
    ∀ x ∈ xs, x.question.isFinal = false := by
  induction h with
  | settled _ => simp [Question.isFinal]
  | ended _ _ => simp [Question.isFinal]
  | exhausted _ _ => simp [Question.isFinal]
  | @stayed bound state next now action xs t _ _ hstep _ =>
    have hcalls := (asks_step duration action state).of_course hstep
    intro x hx
    simp only [List.mem_cons, List.mem_append, List.not_mem_nil, or_false] at hx
    rcases hx with rfl | hx | rfl
    · rfl
    · exact (hcalls x hx).not_final
    · rfl
  | @moved bound state next now action xs ys t run _ _ hstep _ _ ih =>
    have hcalls := (asks_step duration action state).of_course hstep
    intro x hx
    simp only [List.mem_cons, List.mem_append] at hx
    rcases hx with rfl | hx | rfl | hx
    · rfl
    · exact (hcalls x hx).not_final
    · rfl
    · exact ih x hx

private theorem Path.edges {l l' : StateLabel} {ts : List Transition} (h : Path l ts l') : ∀ t ∈ ts, Edge t := by
  induction h with
  | nil label => simp
  | single he => simpa using he
  | cons he _ _ ih => simpa using ⟨he, ih⟩

/-- Whatever is answered, a run reports a path through the table, of no more steps than it may take, from the
label of the first state to that of the last; the last state is handed over once, after all reports. No
step is one that does not belong to the state that it is taken from. -/
theorem advance_follows_table (maxSteps duration : Nat) (initial : Account) (target : StateLabel)
    {xs : Exchanges} {run : Run} (h : Course (advance maxSteps duration initial target) xs run) :
    (reports xs).length ≤ max 1 maxSteps ∧
    Path initial.label (reports xs) run.state.label ∧
    (∀ (state : Account) (action : Action), ¬ Own state.label action →
      ∀ ys t next, Course (step duration action state) ys (t, next) → t ∉ reports xs) ∧
    ∃ ys, xs = ys ++ [⟨.final run.state, ()⟩] ∧ (∀ x ∈ ys, x.question.isFinal = false) ∧
      reports ys = reports xs := by
  obtain ⟨ys, hw, rfl⟩ := course_advance_iff.mp h
  have hr : reports (ys ++ [⟨.final run.state, ()⟩]) = run.transitions := by
    rw [reports_append, hw.reports_eq]
    exact List.append_nil _
  rw [hr]
  refine ⟨hw.length_le, hw.path, ?_, ys, rfl, hw.not_final, hw.reports_eq⟩
  intro state action hown zs t next hstep hmem
  -- A step that goes astray says so by its label and action, and these are on no line of the table.
  have hastray : t.source = state.label ∧ t.action = action := by
    generalize hp : (t, next) = p at hstep
    cases course_step_iff.mp hstep with
    | fetch _ => exact (hown .fetchKeys).elim
    | sign _ => exact (hown .signCertificate).elim
    | check m => exact (hown .checkCertificate).elim
    | astray _ =>
      cases hp
      exact ⟨rfl, rfl⟩
  have hedge := (hw.path.edges t hmem).own
  rw [hastray.1, hastray.2] at hedge
  exact hown hedge

def guest : Cohabiting := ⟨"ada@example.org", "u", "s", .zero, .zero, default⟩

/-- A married account whose certificate is none is told that its session has ended. -/
def lapse : Exchanges :=
  [⟨.now, 1⟩,
    ⟨.report ⟨.married, .cohabiting, .checkCertificate, .reset, "certificate expired"⟩ (.cohabiting guest), ()⟩,
    ⟨.now, 2⟩,
    ⟨.ask (.signCertificate guest.sessionToken guest.keyPair.descriptor (clampMillis 0)),
      .error (.tokenRejected "")⟩,
    ⟨.report ⟨.cohabiting, .separated, .signCertificate, .reset, "token server rejected credentials: "⟩
      (.separated ⟨"ada@example.org", "u"⟩), ()⟩,
    ⟨.now, 3⟩,
    ⟨.final (.separated ⟨"ada@example.org", "u"⟩), ()⟩]

theorem lapse_follows_table :
    (∃ run, Course (advance 2 0 (.married ⟨guest, "x"⟩) .married) lapse run ∧ run.state.label = .separated) ∧
    (reports lapse).length ≤ max 1 2 ∧ Path .married (reports lapse) .separated := by
  have hread : (certificateExpiry "x").isOk = false := by decide
  have hv : (⟨guest, "x"⟩ : Married).hasValidCertificate 1 = false := invalid_of_unreadable hread 1
  have hs : isSettled (.married ⟨guest, "x"⟩) .married 1 = false := by simp [isSettled, hv]
  have ha : nextAction (.married ⟨guest, "x"⟩) 1 = some .checkCertificate := by simp [nextAction, hv]
  have hs' : isSettled (.cohabiting guest) .married 2 = false := rfl
  have hr : Signing guest 0 _ _ := .refused (.tokenRejected "")
  have hend : Walk 0 .married 0 (.separated ⟨"ada@example.org", "u"⟩) [⟨.now, 3⟩] _ := .ended rfl rfl
  have hrest : Walk 0 .married 1 (.cohabiting guest) _ _ :=
    .moved hs' rfl (course_step_iff.mpr (.sign hr)) (by decide) hend
  have hw : Walk 0 .married 2 (.married ⟨guest, "x"⟩) _ _ :=
    .moved hs ha (course_step_iff.mpr (.check _)) (by decide) hrest
  have hc : Course (advance 2 0 (.married ⟨guest, "x"⟩) .married) lapse _ :=
    course_advance_iff.mpr ⟨_, hw, rfl⟩
  obtain ⟨hl, hp, _⟩ := advance_follows_table 2 0 (.married ⟨guest, "x"⟩) .married hc
  exact ⟨⟨_, hc, rfl⟩, hl, hp⟩

end AccountSync.Login
