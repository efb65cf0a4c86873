import AccountSync.Proofs.Login.Custody

/-!
Failures in login runs. A run meets at most one, with which it ends (`Walk.failures_cases`). Main statement:
`failures_decide_end`, that the kind of the error alone decides between a dropped account and one that holds
all that it held when the failing step began.
-/

set_option autoImplicit false
set_option relaxedAutoImplicit false

namespace AccountSync.Login

open Dialogue

/-- What a request failed with, or the drawing of a key pair. -/
def refusal? : Exchange Question.Answer → Option SyncError
  | ⟨.ask _, .error e⟩ => some e
  | ⟨.keyPair, .error e⟩ => some e
  | _ => none

/-- What is wrong with an answer that is of no use: keys that cannot be read, or an empty certificate. -/
def defect? : Exchange Question.Answer → Option SyncError
  | ⟨.ask (.fetchKeys _), .ok keys⟩ =>
    if (Key32.ofHex? keys.kA).isNone then some (.malformed "kA is not 32 hex-encoded bytes")
    else if (Key32.ofHex? keys.wrapKB).isNone then some (.malformed "wrapKB is not 32 hex-encoded bytes")
    else none
  | ⟨.ask (.signCertificate ..), .ok certificate⟩ =>
    if certificate.isEmpty then some (.malformed "empty certificate") else none
  | _ => none

def fault? (x : Exchange Question.Answer) : Option SyncError := (refusal? x).or (defect? x)

def state? : Exchange Question.Answer → Option Account
  | ⟨.report _ state, _⟩ => some state
  | _ => none

/-- A step that failed: the state that it began in, and why. -/
structure Failure where
  state : Account
  error : SyncError

/-- The failures of a run that goes on from a state. -/
def failures : Account → Exchanges → List Failure
  | _, [] => []
  | state, x :: xs => (fault? x).toList.map (Failure.mk state) ++ failures ((state? x).getD state) xs

/-- All that an account holds but for its certificate, and whose it is. -/
structure Holdings where
  owner : Owner
  sessionToken : Option String := none
  keyFetchToken : Option String := none
  unwrapKey : Option Key32 := none
  kA : Option Key32 := none
  kB : Option Key32 := none
  keyPair : Option KeyPair := none
  deriving DecidableEq

def holdings : Account → Holdings
  | .engaged s => ⟨⟨s.email, s.uid⟩, s.sessionToken, s.keyFetchToken, s.unwrapKey, none, none, none⟩
  | .cohabiting k => ofKeys k
  | .married m => ofKeys m.account
  | .separated o => { owner := o }
  | .doghouse o => { owner := o }
where
  ofKeys (k : Cohabiting) : Holdings :=
    ⟨⟨k.email, k.uid⟩, k.sessionToken, none, none, k.kA, k.kB, k.keyPair⟩

variable {duration bound maxSteps : Nat} {target : StateLabel} {state initial next : Account}
  {xs ys : Exchanges} {run : Run} {e : SyncError} {r : Except SyncError Outcome} {action : Action} {t : Transition}

theorem malformed_of_defect {x : Exchange Question.Answer} (h : defect? x = some e) :
    ∃ detail, e = .malformed detail := by
  unfold defect? at h
  split at h
  · split at h
    · exact ⟨_, (Option.some.inj h).symm⟩
    · split at h
      · exact ⟨_, (Option.some.inj h).symm⟩
      · cases h
  · split at h
    · exact ⟨_, (Option.some.inj h).symm⟩
    · cases h
  · cases h

private theorem map_error_failures (state : Account) (xs : Exchanges) :
    (failures state xs).map Failure.error = xs.filterMap fault? := by
  induction xs generalizing state with
  | nil => rfl
  | cons x xs ih =>
    rw [failures, List.map_append, ih, List.filterMap_cons]
    cases fault? x <;> rfl

theorem state?_eq_none_of_isCall {x : Exchange Question.Answer} (h : x.question.IsCall) : state? x = none := by
  obtain ⟨q, a⟩ := x
  cases q with
  | now => exact h.elim
  | ask request => rfl
  | keyPair => rfl
  | report t s => exact h.elim
  | final s => exact h.elim

/-- Calls report no state, so they all belong to the step that began in the first one. -/
theorem failures_append (state : Account) (h : ∀ x ∈ xs, x.question.IsCall) (ys : Exchanges) :
    failures state (xs ++ ys) = (xs.filterMap fault?).map (Failure.mk state) ++ failures state ys := by
  induction xs with
  | nil => rfl
  | cons x xs ih =>
    have hx : state? x = none := state?_eq_none_of_isCall (h x List.mem_cons_self)
    have hxs := ih fun y hy => h y (List.mem_cons_of_mem x hy)
    rw [List.cons_append, failures, hx, Option.getD_none, hxs, List.filterMap_cons]
    cases fault? x <;> rfl

def errorOf : Except SyncError Outcome → List SyncError
  | .ok _ => []
  | .error e => [e]

theorem defect?_of_withKeys_error {s : Engaged} {keys : Provider.KeysResponse} (h : withKeys s keys = .error e)
    (token : String) : defect? ⟨.ask (.fetchKeys token), .ok keys⟩ = some e := by
  unfold withKeys at h
  simp only [defect?]
  split at h
  · rename_i hk
    rw [hk]
    cases h
    rfl
  · rename_i kA hk
    rw [hk]
    split at h
    · rename_i hw
      rw [hw]
      cases h
      rfl
    · cases h

private theorem defect?_of_withKeys_ok {s : Engaged} {keys : Provider.KeysResponse} {account : KeyPair → Cohabiting}
    (h : withKeys s keys = .ok account) (token : String) : defect? ⟨.ask (.fetchKeys token), .ok keys⟩ = none := by
  unfold withKeys at h
  simp only [defect?]
  split at h
  · cases h
  · rename_i kA hk
    rw [hk]
    split at h
    · cases h
    · rename_i wrapKB hw
      rw [hw]
      rfl

private theorem faults_of_fetching {s : Engaged} (h : Fetching s xs r) : xs.filterMap fault? = errorOf r := by
  cases h with
  | refused e => rfl
  | malformed keys e hk =>
    have hfault : fault? ⟨.ask (.fetchKeys s.keyFetchToken), .ok keys⟩ = some e :=
      defect?_of_withKeys_error hk s.keyFetchToken
    rw [List.filterMap_cons_some hfault]
    rfl
  | pairless keys account e hk =>
    have hfault : fault? ⟨.ask (.fetchKeys s.keyFetchToken), .ok keys⟩ = none :=
      defect?_of_withKeys_ok hk s.keyFetchToken
    rw [List.filterMap_cons_none hfault]
    rfl
  | fetched keys account pair hk =>
    have hfault : fault? ⟨.ask (.fetchKeys s.keyFetchToken), .ok keys⟩ = none :=
      defect?_of_withKeys_ok hk s.keyFetchToken
    rw [List.filterMap_cons_none hfault]
    rfl

private theorem faults_of_checking {s : Engaged} (h : Checking s xs r) : xs.filterMap fault? = errorOf r := by
  cases h with
  | verified _ hf => exact faults_of_fetching hf
  | refused e _ => rfl
  | unverified status _ _ => rfl
  | @confirmed status ys _ _ _ hf =>
    have hrest : ys.filterMap fault? = errorOf r := faults_of_fetching hf
    exact hrest

private theorem faults_of_signing {k : Cohabiting} (h : Signing k duration xs r) : xs.filterMap fault? = errorOf r := by
  cases h with
  | refused e => rfl
  | empty certificate hc => simp [fault?, refusal?, defect?, hc, errorOf]
  | signed certificate hc => simp [fault?, refusal?, defect?, hc, errorOf]

private theorem undropped_of_fetching {s : Engaged} {o : Outcome} (h : Fetching s xs (.ok o)) :
    ∃ k, o = .advanced (.cohabiting k) := by
  cases h with
  | fetched keys account pair _ => exact ⟨account pair, rfl⟩

theorem not_dropped_cohabiting (k : Cohabiting) : ¬ Dropped (.cohabiting k) := by
  rintro (h | h) <;> cases h

theorem not_dropped_engaged (s : Engaged) : ¬ Dropped (.engaged s) := by
  rintro (h | h) <;> cases h

theorem not_dropped_married (m : Married) : ¬ Dropped (.married m) := by
  rintro (h | h) <;> cases h

private theorem faults_of_step (own : Own state.label action) (h : Course (step duration action state) xs (t, next)) :
    (xs.filterMap fault? = [] ∧ ¬ Dropped next) ∨
      ∃ e, xs.filterMap fault? = [e] ∧ (t, next) = conclude action state (.error e) := by
  generalize hr : (t, next) = r at h
  cases course_step_iff.mp h with
  | @fetch s _ r hc =>
    have hfaults := faults_of_checking hc
    cases r with
    | error e => exact .inr ⟨e, hfaults, rfl⟩
    | ok o =>
      have hnext : next = (conclude .fetchKeys (.engaged s) (.ok o)).2 := congrArg Prod.snd hr
      refine .inl ⟨hfaults, ?_⟩
      rw [hnext]
      cases hc with
      | verified _ hf =>
        obtain ⟨k, rfl⟩ := undropped_of_fetching hf
        exact not_dropped_cohabiting k
      | unverified status _ _ => exact not_dropped_engaged s
      | confirmed status _ _ hf =>
        obtain ⟨k, rfl⟩ := undropped_of_fetching hf
        exact not_dropped_cohabiting k
  | @sign k _ r hs =>
    have hfaults := faults_of_signing hs
    cases hs with
    | refused e => exact .inr ⟨e, hfaults, rfl⟩
    | empty certificate _ => exact .inr ⟨_, hfaults, rfl⟩
    | signed certificate _ =>
      have hnext : next = .married ⟨k, certificate⟩ := congrArg Prod.snd hr
      rw [hnext]
      exact .inl ⟨hfaults, not_dropped_married _⟩
  | check m =>
    have hnext : next = .cohabiting m.account := congrArg Prod.snd hr
    rw [hnext]
    exact .inl ⟨rfl, not_dropped_cohabiting _⟩
  | astray hn => exact (hn own).elim

private theorem fallBack_of_invalid (state : Account) (hi : e.isInvalidAuthentication = true) :
    fallBack state e = (.reset, state.toSeparated) := by
  unfold fallBack
  rw [if_pos hi]

private theorem fallBack_of_upgrade (state : Account) (hi : e.isInvalidAuthentication = false)
    (hu : e.isUpgradeRequired = true) : fallBack state e = (.reset, state.toDoghouse) := by
  unfold fallBack
  rw [if_neg (by simp [hi]), if_pos hu]

theorem fallBack_of_other (state : Account) (hi : e.isInvalidAuthentication = false)
    (hu : e.isUpgradeRequired = false) :
    (fallBack state e).1 = .stay ∧ (fallBack state e).2.label = state.label ∧
      holdings (fallBack state e).2 = holdings state ∧
      (e.isUnverified = false → (fallBack state e).2 = state) := by
  unfold fallBack
  rw [if_neg (by simp [hi]), if_neg (by simp [hu])]
  cases hv : e.isUnverified with
  | false => exact ⟨rfl, rfl, rfl, fun _ => rfl⟩
  | true =>
    rw [if_pos rfl]
    cases state with
    | engaged s => exact ⟨rfl, rfl, rfl, nofun⟩
    | cohabiting k => exact ⟨rfl, rfl, rfl, nofun⟩
    | married m => exact ⟨rfl, rfl, rfl, nofun⟩
    | separated o => exact ⟨rfl, rfl, rfl, nofun⟩
    | doghouse o => exact ⟨rfl, rfl, rfl, nofun⟩

private theorem dropped_of_fallBack (h : (fallBack state e).1 ≠ .stay) : Dropped (fallBack state e).2 := by
  cases hi : e.isInvalidAuthentication with
  | true =>
    rw [fallBack_of_invalid state hi]
    exact .inl rfl
  | false =>
    cases hu : e.isUpgradeRequired with
    | true =>
      rw [fallBack_of_upgrade state hi hu]
      exact .inr rfl
    | false => exact (h (fallBack_of_other state hi hu).1).elim

/-- A run of an account that has not been dropped ends with its first failure, or meets none and drops
nothing. -/
theorem Walk.failures_cases (h : Walk duration target bound state xs run) (hn : ¬ Dropped state) :
    (failures state xs = [] ∧ ¬ Dropped run.state) ∨
      ∃ f, failures state xs = [f] ∧ ¬ Dropped f.state ∧ run.state = (fallBack f.state f.error).2 := by
  induction h with
  | settled _ => exact .inl ⟨rfl, hn⟩
  | ended _ _ => exact .inl ⟨rfl, hn⟩
  | exhausted _ _ => exact .inl ⟨rfl, hn⟩
  | @stayed bound state next now action xs t _ ha hstep _ =>
    have hcalls := (asks_step duration action state).of_course hstep
    have hsplit := failures_append state hcalls [⟨.report t next, ()⟩]
    rcases faults_of_step (own_of_nextAction ha) hstep with ⟨hnone, hnext⟩ | ⟨e, hone, hend⟩
    · rw [hnone] at hsplit
      exact .inl ⟨hsplit, hnext⟩
    · rw [hone] at hsplit
      exact .inr ⟨⟨state, e⟩, hsplit, hn, congrArg Prod.snd hend⟩
  | @moved bound state next now action xs ys t run _ ha hstep hk hw ih =>
    have hcalls := (asks_step duration action state).of_course hstep
    have hsplit := failures_append state hcalls (⟨.report t next, ()⟩ :: ys)
    rcases faults_of_step (own_of_nextAction ha) hstep with ⟨hnone, hnext⟩ | ⟨e, hone, hend⟩
    · rw [hnone] at hsplit
      have hrest : failures state (⟨.now, now⟩ :: (xs ++ ⟨.report t next, ()⟩ :: ys)) = failures next ys := hsplit
      rw [hrest]
      exact ih hnext
    · -- The step moved the account although it failed, so it dropped it, and nothing is left to do.
      have hfall : next = (fallBack state e).2 := congrArg Prod.snd hend
      have hkind : t.kind = (fallBack state e).1 := congrArg (fun p => p.1.kind) hend
      have hdrop : Dropped next := by
        rw [hfall]
        exact dropped_of_fallBack (hkind ▸ hk)
      obtain ⟨rfl, last, rfl⟩ := hw.of_dropped hdrop
      rw [hone] at hsplit
      exact .inr ⟨⟨state, e⟩, hsplit, hn, hfall⟩

theorem failures_advance (h : Course (advance maxSteps duration initial target) xs run) (hn : ¬ Dropped initial) :
    (failures initial xs = [] ∧ ¬ Dropped run.state) ∨
      ∃ f, failures initial xs = [f] ∧ ¬ Dropped f.state ∧ run.state = (fallBack f.state f.error).2 := by
  obtain ⟨ys, hw, rfl⟩ := course_advance_iff.mp h
  have hfinal : ∀ (zs : Exchanges) (state : Account),
      failures state (zs ++ [⟨.final run.state, ()⟩]) = failures state zs := by
    intro zs
    induction zs with
    | nil => intro state; rfl
    | cons z zs ih =>
      intro state
      rw [List.cons_append, failures, failures, ih]
  rw [hfinal]
  exact hw.failures_cases hn

private theorem fault?_of_refusal? {x : Exchange Question.Answer} (h : refusal? x = some e) : fault? x = some e := by
  unfold fault?
  rw [h]
  rfl

private theorem refusal?_of_fault? {x : Exchange Question.Answer} (h : fault? x = some e)
    (hc : e.isInvalidAuthentication = true ∨ e.isUpgradeRequired = true) : refusal? x = some e := by
  unfold fault? at h
  rcases Option.or_eq_some_iff.mp h with hr | ⟨_, hd⟩
  · exact hr
  · obtain ⟨detail, rfl⟩ := malformed_of_defect hd
    rcases hc with hc | hc <;> cases hc

/-- Calls that fail with an error that tells something about the account are the failures with such errors. -/
theorem exists_refusal_iff (state : Account) (xs : Exchanges) {P : SyncError → Prop}
    (hp : ∀ e, P e → e.isInvalidAuthentication = true ∨ e.isUpgradeRequired = true) :
    (∃ x ∈ xs, ∃ e, refusal? x = some e ∧ P e) ↔ ∃ f ∈ failures state xs, P f.error := by
  constructor
  · rintro ⟨x, hx, e, hr, he⟩
    have hmem : e ∈ (failures state xs).map Failure.error := by
      rw [map_error_failures]
      exact List.mem_filterMap.mpr ⟨x, hx, fault?_of_refusal? hr⟩
    obtain ⟨f, hf, rfl⟩ := List.mem_map.mp hmem
    exact ⟨f, hf, he⟩
  · rintro ⟨f, hf, he⟩
    have hmem : f.error ∈ xs.filterMap fault? := by
      rw [← map_error_failures state]
      exact List.mem_map_of_mem hf
    obtain ⟨x, hx, hfault⟩ := List.mem_filterMap.mp hmem
    exact ⟨x, hx, f.error, refusal?_of_fault? hfault (hp _ he), he⟩

private theorem label_ne_separated_of_not_dropped (hn : ¬ Dropped state) : state.label ≠ .separated :=
  fun h => hn (.inl h)

private theorem label_ne_doghouse_of_not_dropped (hn : ¬ Dropped state) : state.label ≠ .doghouse :=
  fun h => hn (.inr h)

private theorem label_fallBack_eq_separated_iff (hn : ¬ Dropped state) (e : SyncError) :
    (fallBack state e).2.label = .separated ↔ e.isInvalidAuthentication = true := by
  cases hi : e.isInvalidAuthentication with
  | true =>
    rw [fallBack_of_invalid state hi]
    exact iff_of_true rfl rfl
  | false =>
    refine iff_of_false ?_ Bool.false_ne_true
    cases hu : e.isUpgradeRequired with
    | true =>
      rw [fallBack_of_upgrade state hi hu]
      exact nofun
    | false =>
      rw [(fallBack_of_other state hi hu).2.1]
      exact label_ne_separated_of_not_dropped hn

private theorem label_fallBack_eq_doghouse_iff (hn : ¬ Dropped state) (e : SyncError) :
    (fallBack state e).2.label = .doghouse ↔
      e.isInvalidAuthentication = false ∧ e.isUpgradeRequired = true := by
  cases hi : e.isInvalidAuthentication with
  | true =>
    rw [fallBack_of_invalid state hi]
    exact iff_of_false nofun fun h => Bool.noConfusion h.1
  | false =>
    cases hu : e.isUpgradeRequired with
    | true =>
      rw [fallBack_of_upgrade state hi hu]
      exact iff_of_true rfl ⟨rfl, rfl⟩
    | false =>
      rw [(fallBack_of_other state hi hu).2.1]
      exact iff_of_false (label_ne_doghouse_of_not_dropped hn) fun h => Bool.noConfusion h.2

private theorem eq_separated_of_label {state : Account} (h : state.label = .separated) :
    state = .separated state.owner := by
  cases state with
  | separated o => rfl
  | engaged s => cases h
  | cohabiting k => cases h
  | married m => cases h
  | doghouse o => cases h

private theorem eq_doghouse_of_label {state : Account} (h : state.label = .doghouse) :
    state = .doghouse state.owner := by
  cases state with
  | doghouse o => rfl
  | engaged s => cases h
  | cohabiting k => cases h
  | married m => cases h
  | separated o => cases h

/-- A run of an account that has not been dropped ends separated exactly if a call was refused for want of good
credentials, and in the doghouse exactly if one was refused, for another reason, to a client that is too old; of
the account its owner is then all that is left. Any other failure, be it of a call or for an answer of no use, ends
the run with all that the account held when the failing step began. -/
theorem failures_decide_end (maxSteps duration : Nat) {initial : Account} (target : StateLabel)
    (hn : ¬ Dropped initial) {xs : Exchanges} {run : Run}
    (h : Course (advance maxSteps duration initial target) xs run) :
    (run.state.label = .separated ↔
      ∃ x ∈ xs, ∃ e, refusal? x = some e ∧ e.isInvalidAuthentication = true) ∧
    (run.state.label = .doghouse ↔
      ∃ x ∈ xs, ∃ e, refusal? x = some e ∧ e.isInvalidAuthentication = false ∧ e.isUpgradeRequired = true) ∧
    (run.state.label = .separated → run.state = .separated initial.owner) ∧
    (run.state.label = .doghouse → run.state = .doghouse initial.owner) ∧
    (failures initial xs).map Failure.error = xs.filterMap fault? ∧
    (∀ f ∈ failures initial xs, f.error.isInvalidAuthentication = false → f.error.isUpgradeRequired = false →
      run.state.label = f.state.label ∧ holdings run.state = holdings f.state ∧
        (f.error.isUnverified = false → run.state = f.state)) ∧
    ∀ status errno text,
      (SyncError.remote status errno text).isInvalidAuthentication = true ↔ status = 401 ∨ errno = 110 := by
  have howner : run.state.owner = initial.owner := (keeps_of_advance h).owner
  have hends := failures_advance h hn
  rw [exists_refusal_iff initial xs (fun e he => .inl he), exists_refusal_iff initial xs (fun e he => .inr he.2)]
  refine ⟨?_, ?_, ?_, ?_, map_error_failures initial xs, ?_, ?_⟩
  · rcases hends with ⟨hnone, hkept⟩ | ⟨f, hone, hf, hend⟩
    · rw [hnone]
      exact iff_of_false (label_ne_separated_of_not_dropped hkept) (by simp)
    · rw [hone, hend, label_fallBack_eq_separated_iff hf]
      simp
  · rcases hends with ⟨hnone, hkept⟩ | ⟨f, hone, hf, hend⟩
    · rw [hnone]
      exact iff_of_false (label_ne_doghouse_of_not_dropped hkept) (by simp)
    · rw [hone, hend, label_fallBack_eq_doghouse_iff hf]
      simp
  · intro hl
    rw [← howner]
    exact eq_separated_of_label hl
  · intro hl
    rw [← howner]
    exact eq_doghouse_of_label hl
  · intro g hg hi hu
    rcases hends with ⟨hnone, _⟩ | ⟨f, hone, _, hend⟩
    · rw [hnone] at hg
      cases hg
    · rw [hone] at hg
      obtain rfl := List.mem_singleton.mp hg
      rw [hend]
      exact (fallBack_of_other g.state hi hu).2
  · intro status errno text
    simp only [SyncError.isInvalidAuthentication, Bool.or_eq_true, decide_eq_true_eq]
    rfl

def newcomer : Engaged := ⟨"ada@example.org", "u", true, "s", "f", .zero⟩

def newcomerWithKeys : Cohabiting := ⟨"ada@example.org", "u", "s", .zero, unwrapKB .zero .zero, default⟩

theorem withKeys_newcomer : withKeys newcomer ⟨Key32.zero.hex, Key32.zero.hex⟩ =
    .ok fun pair => { newcomerWithKeys with keyPair := pair } := by
  unfold withKeys
  simp only [Key32.ofHex?_hex]
  rfl

/-- Keys are fetched, and then the session turns out to have been ended. -/
theorem failures_decide_end_revoked :
    ¬ Dropped (.engaged newcomer) ∧ ∃ xs run, Course (advance 8 0 (.engaged newcomer) .married) xs run ∧
      run.transitions.length = 2 ∧ run.state = .separated ⟨"ada@example.org", "u"⟩ := by
  have hnew : ¬ Dropped (.engaged newcomer) := not_dropped_engaged newcomer
  have hfetch : Checking newcomer _ (.ok (.advanced (.cohabiting newcomerWithKeys))) :=
    .verified rfl (.fetched _ _ default withKeys_newcomer)
  have hsign : Signing newcomerWithKeys 0 _ _ := .refused (.remote 401 0 "gone")
  have hend : Walk 0 .married 6 (.separated (Account.cohabiting newcomerWithKeys).owner) [⟨.now, 3⟩] _ := .ended rfl rfl
  have hsettled : isSettled (.cohabiting newcomerWithKeys) .married 2 = false := rfl
  have hrest : Walk 0 .married 7 (.cohabiting newcomerWithKeys) _ _ :=
    .moved hsettled rfl (course_step_iff.mpr (.sign hsign)) (by decide) hend
  have hunsettled : isSettled (.engaged newcomer) .married 1 = false := rfl
  have hwalk : Walk 0 .married 8 (.engaged newcomer) _ _ :=
    .moved hunsettled rfl (course_step_iff.mpr (.fetch hfetch)) (by decide) hrest
  have hcourse : Course (advance 8 0 (.engaged newcomer) .married) _ _ := course_advance_iff.mpr ⟨_, hwalk, rfl⟩
  have hall := failures_decide_end 8 0 .married hnew hcourse
  have hrefused : (Account.separated (Account.cohabiting newcomerWithKeys).owner).label = .separated := rfl
  exact ⟨hnew, _, _, hcourse, rfl, hall.2.2.1 hrefused⟩

end AccountSync.Login
