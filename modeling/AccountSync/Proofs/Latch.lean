import AccountSync.Latch

/-!
What the two sides of a latch are answered, told by the steps taken before, over any channel that keeps its promises.
Main statement: `first_completion_wins`. The first value completed is the one handed over, and the waiting side is left
without one exactly where the completing side went away first.
-/

set_option autoImplicit false
set_option relaxedAutoImplicit false

namespace AccountSync.Latch

variable {σ α : Type} {c : Channel σ α} {l : Over c} {steps before : List (Step α)} {s t : Step α} {a : Answer α}
  {d : Option α} {v : α} {b : Bool}

def Undecided (steps : List (Step α)) : Prop := .drop ∉ steps ∧ ∀ v, .complete v ∉ steps

/-- The step came while the completing side was there and had not completed. -/
def DecidedBy (s : Step α) (steps : List (Step α)) : Prop :=
  ∃ earlier, earlier ++ [s] <+: steps ∧ Undecided earlier

/-- The waiting side is there: it has not gone away, and there was nothing to be had yet whenever it waited. -/
def Awaited (steps : List (Step α)) : Prop :=
  .dropWaiter ∉ steps ∧ ∀ earlier, earlier ++ [.wait] <+: steps → Undecided earlier

/-- A step is answered so in every run of a new latch in which it comes right after the others. -/
def Answered (c : Channel σ α) (before : List (Step α)) (s : Step α) (a : Answer α) : Prop :=
  ∀ after, (({} : Over c).run (before ++ s :: after)).1[before.length]? = some a

private theorem run_append (l : Over c) (steps rest : List (Step α)) :
    l.run (steps ++ rest) =
      ((l.run steps).1 ++ ((l.run steps).2.run rest).1, ((l.run steps).2.run rest).2) := by
  induction steps generalizing l with
  | nil => rfl
  | cons s steps ih => simp only [List.cons_append, Over.run, ih]

private theorem length_run (l : Over c) (steps : List (Step α)) : (l.run steps).1.length = steps.length := by
  induction steps generalizing l with
  | nil => rfl
  | cons s steps ih => simp only [Over.run, List.length_cons, ih]

private theorem answered_iff : Answered c before s a ↔ ((({} : Over c).run before).2.step s).1 = a := by
  have hrun (after : List (Step α)) : (({} : Over c).run (before ++ s :: after)).1[before.length]? =
      some ((({} : Over c).run before).2.step s).1 := by
    rw [run_append, List.getElem?_append_right (Nat.le_of_eq (length_run _ _)), length_run, Nat.sub_self]
    rfl
  constructor
  · intro ha
    exact Option.some.inj ((hrun []).symm.trans (ha []))
  · rintro rfl after
    exact hrun after

/-! ### What is decided -/

/-- What a step decides for the waiting side: the value, or that there will be none. -/
def Step.decision? : Step α → Option (Option α)
  | .complete v => some (some v)
  | .drop => some none
  | _ => none

private theorem Step.eq_of_decision? (hs : s.decision? = some d) (ht : t.decision? = some d) : s = t := by
  cases s <;> cases t <;> grind [Step.decision?]

def decision? (steps : List (Step α)) : Option (Option α) := steps.findSome? Step.decision?

private theorem undecided_iff : Undecided steps ↔ ∀ s ∈ steps, s.decision? = none := by
  constructor
  · rintro ⟨hdrop, hcomplete⟩ s hs
    cases s with
    | complete v => exact (hcomplete v hs).elim
    | drop => exact (hdrop hs).elim
    | isCompleted | dropWaiter | wait => rfl
  · intro h
    refine ⟨?_, ?_⟩
    · intro hdrop
      cases h _ hdrop
    · intro v hcomplete
      cases h _ hcomplete

private theorem not_undecided_iff (hdrop : .drop ∉ steps) : ¬ Undecided steps ↔ ∃ v, .complete v ∈ steps := by
  simp [Undecided, hdrop]

private theorem decision?_eq_none_iff : decision? steps = none ↔ Undecided steps :=
  List.findSome?_eq_none_iff.trans undecided_iff.symm

private theorem decision?_eq_some_iff (hs : s.decision? = some d) : decision? steps = some d ↔ DecidedBy s steps := by
  constructor
  · intro h
    obtain ⟨earlier, t, later, rfl, ht, hearlier⟩ := List.findSome?_eq_some_iff.mp h
    obtain rfl := Step.eq_of_decision? hs ht
    exact ⟨earlier, ⟨later, by simp⟩, undecided_iff.mpr hearlier⟩
  · rintro ⟨earlier, ⟨later, rfl⟩, hearlier⟩
    exact List.findSome?_eq_some_iff.mpr ⟨earlier, s, later, by simp, hs, undecided_iff.mp hearlier⟩

/-! ### One more step -/

private theorem undecided_append_singleton : Undecided (steps ++ [s]) ↔ Undecided steps ∧ s.decision? = none := by
  simp [undecided_iff, or_imp, forall_and]

private theorem decision?_append_singleton : decision? (steps ++ [s]) = (decision? steps).or s.decision? := by
  simp [decision?, List.findSome?_append]

private theorem awaited_append_singleton :
    Awaited (steps ++ [s]) ↔ Awaited steps ∧ s ≠ .dropWaiter ∧ (s = .wait → Undecided steps) := by
  constructor
  · rintro ⟨hstays, hwaits⟩
    rw [List.mem_append, List.mem_singleton, not_or] at hstays
    refine ⟨⟨hstays.1, ?_⟩, Ne.symm hstays.2, ?_⟩
    · intro earlier h
      exact hwaits earlier (h.trans (List.prefix_append _ _))
    · rintro rfl
      exact hwaits steps (List.prefix_refl _)
  · rintro ⟨⟨hstays, hwaits⟩, hlast, hwait⟩
    refine ⟨?_, ?_⟩
    · rw [List.mem_append, List.mem_singleton, not_or]
      exact ⟨hstays, Ne.symm hlast⟩
    · intro earlier h
      rcases List.prefix_concat_iff.mp h with hend | hbefore
      · obtain ⟨rfl, hs⟩ := List.append_inj' hend rfl
        cases hs
        exact hwait rfl
      · exact hwaits earlier hbefore

/-! ### What a latch shows of the steps taken -/

def channelAfter (c : Channel σ α) : Option (Option α) → σ
  | none => c.opened
  | some (some v) => (c.send c.opened v).2
  | some none => c.dropSender c.opened

private theorem receive_channelAfter (decision : Option (Option α)) : c.receive (channelAfter c decision) = decision :=
  match decision with
  | none => c.receive_opened
  | some (some v) => c.receive_send v
  | some none => c.receive_dropSender

/-- A latch shows the steps taken. Of the channel nothing is said once there is no one left to receive from it. -/
structure Shows (steps : List (Step α)) (l : Over c) : Prop where
  isOpen : l.isOpen = true ↔ .drop ∉ steps
  holdsSender : l.holdsSender = true ↔ Undecided steps
  isAwaited : l.isAwaited = true ↔ Awaited steps
  channel : l.isAwaited = true → l.channel = channelAfter c (decision? steps)

private theorem shows_nil : Shows [] ({} : Over c) where
  isOpen := by simp
  holdsSender := by simp [Undecided]
  isAwaited := by simp [Awaited]
  channel _ := rfl

namespace Shows

private theorem receive (h : Shows steps l) (hwaits : l.isAwaited = true) : c.receive l.channel = decision? steps := by
  rw [h.channel hwaits, receive_channelAfter]

private theorem idle (h : Shows steps l) (hdrop : s = .drop → .drop ∈ steps)
    (hundecided : Undecided steps → s.decision? = none)
    (hawaited : Awaited steps → s ≠ .dropWaiter ∧ (s = .wait → Undecided steps)) : Shows (steps ++ [s]) l where
  isOpen := by grind [h.isOpen]
  holdsSender := h.holdsSender.trans ((iff_self_and.mpr hundecided).trans undecided_append_singleton.symm)
  isAwaited := h.isAwaited.trans ((iff_self_and.mpr hawaited).trans awaited_append_singleton.symm)
  channel ha := by
    rw [h.channel ha, decision?_append_singleton]
    cases hd : decision? steps with
    | some d => rfl
    | none => rw [hundecided (decision?_eq_none_iff.mp hd), Option.or_none]

/-- A step of the waiting side that comes after it has gone. -/
theorem idle_of_not_awaited (h : Shows steps l) (hs : s.decision? = none) (hwaits : ¬ l.isAwaited = true) :
    Shows (steps ++ [s]) l := by
  refine h.idle ?_ (fun _ => hs) ?_
  · rintro rfl
    cases hs
  · intro hawaited
    exact (hwaits (h.isAwaited.mpr hawaited)).elim

private theorem complete (h : Shows steps l) (v : α) : Shows (steps ++ [.complete v]) (l.complete v).2 := by
  rw [Over.complete]
  split
  case isTrue hholds =>
    have hundecided : Undecided steps := h.holdsSender.mp hholds
    refine ⟨?_, ?_, ?_, ?_⟩
    · simp [h.isOpen]
    · simp [undecided_append_singleton, Step.decision?]
    · simp [h.isAwaited, awaited_append_singleton]
    · intro ha
      -- What is promised of sending is promised of a channel just opened, which it still is while nothing is decided.
      have hd : decision? steps = none := decision?_eq_none_iff.mpr hundecided
      have hchannel : l.channel = channelAfter c (decision? steps) := h.channel ha
      simp [decision?_append_singleton, hchannel, hd, Step.decision?, channelAfter]
  case isFalse hholds =>
    refine h.idle (by simp) ?_ (by simp)
    intro hundecided
    exact (hholds (h.holdsSender.mpr hundecided)).elim

private theorem drop (h : Shows steps l) : Shows (steps ++ [.drop]) l.drop where
  isOpen := by simp [Over.drop]
  holdsSender := by simp [Over.drop, undecided_append_singleton, Step.decision?]
  isAwaited := by simp [Over.drop, h.isAwaited, awaited_append_singleton]
  channel ha := by
    have hchannel : l.channel = channelAfter c (decision? steps) := h.channel ha
    simp only [Over.drop, decision?_append_singleton]
    cases hd : decision? steps with
    | none =>
      have hholds : l.holdsSender = true := h.holdsSender.mpr (decision?_eq_none_iff.mp hd)
      rw [if_pos hholds, hchannel, hd]
      rfl
    | some d =>
      -- The sender was used before, so the value it sent is not lost.
      have hholds : ¬ l.holdsSender = true := by
        rw [h.holdsSender, ← decision?_eq_none_iff, hd]
        exact Option.some_ne_none d
      rw [if_neg hholds, hchannel, hd, Option.some_or]

private theorem dropWaiter (h : Shows steps l) (hs : s.decision? = none) (hleaves : ¬ Awaited (steps ++ [s])) :
    Shows (steps ++ [s]) l.dropWaiter where
  isOpen := by
    have hne : s ≠ .drop := by
      rintro rfl
      cases hs
    simp [Over.dropWaiter, h.isOpen, Ne.symm hne]
  holdsSender := by simp [Over.dropWaiter, h.holdsSender, undecided_append_singleton, hs]
  isAwaited := by simp [Over.dropWaiter, hleaves]
  channel ha := by cases ha

private theorem wait (h : Shows steps l) (hwaits : l.isAwaited = true) : Shows (steps ++ [.wait]) l.wait.2 := by
  rw [Over.wait, h.receive hwaits]
  cases hd : decision? steps with
  | none => exact h.idle (by simp) (fun _ => rfl) (fun _ => ⟨by simp, fun _ => decision?_eq_none_iff.mp hd⟩)
  | some d =>
    refine h.dropWaiter rfl ?_
    intro hawaited
    have hundecided : Undecided steps := (awaited_append_singleton.mp hawaited).2.2 rfl
    rw [decision?_eq_none_iff.mpr hundecided] at hd
    cases hd

private theorem step (h : Shows steps l) (s : Step α) : Shows (steps ++ [s]) (l.step s).2 := by
  cases s with
  | complete v =>
    simp only [Over.step]
    split
    case isTrue hopen => exact h.complete v
    case isFalse hopen =>
      refine h.idle (by simp) ?_ (by simp)
      intro hundecided
      exact (hopen (h.isOpen.mpr hundecided.1)).elim
  | isCompleted =>
    simp only [Over.step]
    split <;> exact h.idle (by simp) (fun _ => rfl) (by simp)
  | drop =>
    simp only [Over.step]
    split
    case isTrue hopen => exact h.drop
    case isFalse hopen =>
      have hdropped : .drop ∈ steps := Classical.not_not.mp (mt h.isOpen.mpr hopen)
      exact h.idle (fun _ => hdropped) (fun hundecided => (hundecided.1 hdropped).elim) (by simp)
  | dropWaiter =>
    simp only [Over.step]
    split
    case isTrue hwaits => exact h.dropWaiter rfl (by simp [awaited_append_singleton])
    case isFalse hwaits => exact h.idle_of_not_awaited rfl hwaits
  | wait =>
    simp only [Over.step]
    split
    case isTrue hwaits => exact h.wait hwaits
    case isFalse hwaits => split <;> exact h.idle_of_not_awaited rfl hwaits

private theorem run (h : Shows before l) (steps : List (Step α)) : Shows (before ++ steps) (l.run steps).2 := by
  induction steps generalizing before l with
  | nil => rwa [List.append_nil]
  | cons s steps ih =>
    rw [List.append_cons]
    exact ih (h.step s)

/-! ### What a step is answered -/

private theorem open_holding_iff (h : Shows steps l) : l.isOpen = true ∧ l.holdsSender = true ↔ Undecided steps := by
  rw [h.isOpen, h.holdsSender]
  exact and_iff_right_of_imp And.left

private theorem open_not_holding_iff (h : Shows steps l) :
    l.isOpen = true ∧ l.holdsSender = false ↔ .drop ∉ steps ∧ ∃ v, .complete v ∈ steps := by
  rw [← Bool.not_eq_true, h.isOpen, h.holdsSender]
  exact and_congr_right not_undecided_iff

private theorem wait_eq_iff (h : Shows steps l) (hpending : a ≠ .pending) (hgone : a ≠ .gone) :
    (l.step .wait).1 = a ↔ Awaited steps ∧ Over.told (decision? steps) = a := by
  rw [← h.isAwaited]
  simp only [Over.step]
  split
  case isTrue hwaits => simp [Over.wait, h.receive hwaits, hwaits]
  case isFalse hwaits => split <;> simp [hwaits, Ne.symm hpending, Ne.symm hgone]

private theorem wait_eq_pending_iff (h : Shows steps l) : (l.step .wait).1 = .pending ↔ Undecided steps := by
  simp only [Over.step]
  split
  case isTrue hwaits => rw [Over.wait, h.receive hwaits, Over.told_eq_pending_iff, decision?_eq_none_iff]
  case isFalse hwaits =>
    rw [← h.holdsSender]
    split <;> simp_all

end Shows

private theorem complete_flag_iff : (l.step (.complete v)).1 = .flag b ↔ l.isOpen = true ∧ l.holdsSender = b := by
  rcases l with ⟨isOpen, holdsSender, isAwaited, channel⟩
  cases isOpen <;> cases holdsSender <;> simp [Over.step, Over.complete]

private theorem isCompleted_flag_iff : (l.step .isCompleted).1 = .flag b ↔ l.isOpen = true ∧ l.holdsSender = !b := by
  rcases l with ⟨isOpen, holdsSender, isAwaited, channel⟩
  cases isOpen <;> cases holdsSender <;> simp [Over.step, Over.isCompleted]

private theorem drop_dropped_iff : (l.step .drop).1 = .dropped ↔ l.isOpen = true := by
  simp only [Over.step]
  split <;> simp_all

private theorem dropWaiter_dropped_iff : (l.step .dropWaiter).1 = .dropped ↔ l.isAwaited = true := by
  simp only [Over.step]
  split <;> simp_all

/-- Over any channel that keeps its promises the first value completed counts. Completing succeeds that once, whether
or not anyone waits, and from then on the latch is completed. The waiting side gets that value, or is told that there
is none where the completing side went away first, and has to wait only until either has come about. -/
theorem first_completion_wins (c : Channel σ α) (before : List (Step α)) :
    (∀ v, (Answered c before (.complete v) (.flag true) ↔ Undecided before) ∧
      (Answered c before (.complete v) (.flag false) ↔ .drop ∉ before ∧ ∃ w, .complete w ∈ before)) ∧
    ((Answered c before .isCompleted (.flag true) ↔ .drop ∉ before ∧ ∃ w, .complete w ∈ before) ∧
      (Answered c before .isCompleted (.flag false) ↔ Undecided before)) ∧
    ((∀ v, Answered c before .wait (.value v) ↔ Awaited before ∧ DecidedBy (.complete v) before) ∧
      (Answered c before .wait .abandoned ↔ Awaited before ∧ DecidedBy .drop before) ∧
      (Answered c before .wait .pending ↔ Undecided before)) ∧
    (Answered c before .drop .dropped ↔ .drop ∉ before) ∧
    (Answered c before .dropWaiter .dropped ↔ Awaited before) := by
  have h : Shows before (({} : Over c).run before).2 := shows_nil.run before
  simp only [answered_iff]
  refine ⟨fun v => ⟨?_, ?_⟩, ⟨?_, ?_⟩, ⟨fun v => ?_, ?_, h.wait_eq_pending_iff⟩, ?_, ?_⟩
  · exact complete_flag_iff.trans h.open_holding_iff
  · exact complete_flag_iff.trans h.open_not_holding_iff
  · exact isCompleted_flag_iff.trans h.open_not_holding_iff
  · exact isCompleted_flag_iff.trans h.open_holding_iff
  · rw [h.wait_eq_iff (by simp) (by simp), Over.told_eq_value_iff, decision?_eq_some_iff (s := .complete v) rfl]
  · rw [h.wait_eq_iff (by simp) (by simp), Over.told_eq_abandoned_iff, decision?_eq_some_iff (s := .drop) rfl]
  · exact drop_dropped_iff.trans h.isOpen
  · exact dropWaiter_dropped_iff.trans h.isAwaited

/-- A value that came too late is not heard of, and one that was completed outlives the completing side. -/
example : (({} : Latch Nat).run [.wait, .complete 5, .complete 6, .drop, .wait, .wait]).1 =
    [.pending, .flag true, .flag false, .dropped, .value 5, .gone] := rfl

end AccountSync.Latch
