import AccountSync.Proofs.Login.Walk

/-!
Certificates that are no good at the end of a login run. A run that is not stopped by its bound ends married
by a good certificate only; one that is may end by a certificate that it has not looked at yet. Main
statements: `Walk.stale` and `exists_stale_advance`, that this happens from exactly the states from which the
bound is met right after a certificate was signed (`Exposed`).
-/

set_option autoImplicit false
set_option relaxedAutoImplicit false

namespace AccountSync.Login

open Dialogue

def look? : Exchange Question.Answer → Option Instant
  | ⟨.now, now⟩ => some now
  | _ => none

/-- The time when a run last looked at the clock. -/
def lastLook (xs : Exchanges) : Option Instant := (xs.filterMap look?).getLast?

/-- Married by a certificate that was no good when the clock was last looked at. -/
def Stale (xs : Exchanges) (state : Account) : Prop :=
  ∃ m now, state = .married m ∧ lastLook xs = some now ∧ m.hasValidCertificate now = false

/-- The states from which a run of exactly so many steps can lead to the married state. -/
def Exposed (count : Nat) : Account → Prop
  | .engaged _ => count % 2 = 0 ∧ count ≠ 0
  | .cohabiting _ => count % 2 = 1
  | .married _ => count % 2 = 0
  | .separated _ => False
  | .doghouse _ => False

instance (count : Nat) (state : Account) : Decidable (Exposed count state) := by
  cases state <;> unfold Exposed <;> infer_instance

theorem lastLook_append (xs : Exchanges) {ys : Exchanges} {now : Instant} (h : lastLook ys = some now) :
    lastLook (xs ++ ys) = some now :=
  getLast?_filterMap_append xs h

theorem lastLook_final (xs : Exchanges) (state : Account) :
    lastLook (xs ++ [⟨.final state, ()⟩]) = lastLook xs := by
  unfold lastLook
  rw [List.filterMap_append]
  exact congrArg List.getLast? (List.append_nil _)

variable {duration bound : Nat} {state next : Account} {xs : Exchanges} {run : Run}

theorem Walk.exists_lastLook {target : StateLabel} (h : Walk duration target bound state xs run) :
    ∃ now, lastLook xs = some now := by
  induction h with
  | settled _ => exact ⟨_, rfl⟩
  | ended _ _ => exact ⟨_, rfl⟩
  | exhausted _ _ => exact ⟨_, rfl⟩
  | @stayed bound state next now action xs t _ _ _ _ =>
    have hne : List.filterMap look? (⟨.now, now⟩ :: (xs ++ [⟨.report t next, ()⟩])) ≠ [] := by
      simp [look?]
    exact ⟨_, List.getLast?_eq_some_getLast hne⟩
  | @moved bound state next now action xs ys t run _ _ _ _ _ ih =>
    obtain ⟨last, hl⟩ := ih
    refine ⟨last, ?_⟩
    have hw := lastLook_append (⟨.now, now⟩ :: xs ++ [⟨.report t next, ()⟩]) hl
    rwa [List.append_assoc] at hw

theorem valid_of_nextAction {m : Married} {now : Instant} (h : nextAction (.married m) now = none) :
    m.hasValidCertificate now = true := by
  cases hv : m.hasValidCertificate now with
  | true => rfl
  | false => simp [nextAction, hv] at h

private theorem valid_of_isSettled {m : Married} {target : StateLabel} {now : Instant}
    (h : isSettled (.married m) target now = true) : m.hasValidCertificate now = true := by
  unfold isSettled at h
  rw [Bool.and_eq_true] at h
  exact h.2

private theorem Moves.ne_married_of_stay {t : Transition} (h : Moves state t next) (hk : t.kind = .stay) (m : Married) :
    next ≠ .married m := by
  rintro rfl
  cases h with
  | signed k certificate => cases hk
  | failed remote _ _ _ => cases remote

private theorem Moves.exposed {t : Transition} (h : Moves state t next) (hk : t.kind ≠ .stay)
    (he : Exposed bound next) : Exposed (bound + 1) state := by
  cases h with
  | fetched _ _ _ =>
    change bound % 2 = 1 at he
    change (bound + 1) % 2 = 0 ∧ bound + 1 ≠ 0
    omega
  | unverified s => exact (hk rfl).elim
  | signed k certificate =>
    change bound % 2 = 0 at he
    change (bound + 1) % 2 = 1
    omega
  | expired m =>
    change bound % 2 = 1 at he
    change (bound + 1) % 2 = 0
    omega
  | separated _ _ => exact he.elim
  | doghouse _ _ _ => exact he.elim
  | disproved _ _ _ => exact (hk rfl).elim
  | failed _ _ _ _ => exact (hk rfl).elim

theorem Walk.stale (h : Walk duration .married bound state xs run) (hs : Stale xs run.state) :
    run.transitions.length = bound ∧ Exposed bound state := by
  induction h with
  | settled hset =>
    obtain ⟨m, now, rfl, hl, hv⟩ := hs
    obtain rfl := Option.some.inj hl
    have hgood := valid_of_isSettled hset
    exact (Bool.false_ne_true (hv.symm.trans hgood)).elim
  | ended _ ha =>
    obtain ⟨m, now, rfl, hl, hv⟩ := hs
    obtain rfl := Option.some.inj hl
    have hgood := valid_of_nextAction ha
    exact (Bool.false_ne_true (hv.symm.trans hgood)).elim
  | exhausted _ _ =>
    obtain ⟨m, now, rfl, _, _⟩ := hs
    exact ⟨rfl, Nat.zero_mod 2⟩
  | stayed _ ha hstep hk =>
    obtain ⟨m, now, hm, _, _⟩ := hs
    exact ((moves_of_course (own_of_nextAction ha) hstep).ne_married_of_stay hk m hm).elim
  | @moved bound state next now action xs ys t run _ ha hstep hk hw ih =>
    obtain ⟨m, last, hm, hl, hv⟩ := hs
    obtain ⟨last', hl'⟩ := hw.exists_lastLook
    -- The run looks again after this step, so its last look is that of the rest.
    have hw' := lastLook_append (⟨.now, now⟩ :: xs ++ [⟨.report t next, ()⟩]) hl'
    rw [List.append_assoc] at hw'
    obtain rfl : last' = last := Option.some.inj (hw'.symm.trans hl)
    obtain ⟨hlen, he⟩ := ih ⟨m, last', hm, hl', hv⟩
    exact ⟨congrArg (· + 1) hlen, (moves_of_course (own_of_nextAction ha) hstep).exposed hk he⟩

def blankCertificate : String := "x"

theorem blankCertificate_invalid (k : Cohabiting) (now : Instant) :
    (⟨k, blankCertificate⟩ : Married).hasValidCertificate now = false := by
  have hread : (certificateExpiry blankCertificate).isOk = false := by decide
  exact invalid_of_unreadable hread now

private theorem hasValidCertificate_last (m : Married) :
    m.hasValidCertificate (UInt64.ofNat maxMillis) = false := by
  unfold Married.hasValidCertificate
  cases m.certificateExpiry with
  | error e => rfl
  | ok expiry =>
    have hle : expiry.toNat < 2 ^ 64 := expiry.toNat_lt
    simp only [decide_eq_false_iff_not, UInt64.lt_iff_toNat_lt, maxMillis, UInt64.size, UInt64.toNat_ofNat']
    omega

/-- The exchanges in which a key pair is drawn whenever one is asked for. -/
def Drawn (xs : Exchanges) : Prop := ∀ e : SyncError, ⟨.keyPair, .error e⟩ ∉ xs

/-- A run, as long as it may be, that ends married by a text that is no certificate. -/
def Blank (duration bound : Nat) (state : Account) : Prop :=
  ∃ xs ts k, Walk duration .married bound state xs ⟨ts, .married ⟨k, blankCertificate⟩⟩ ∧ Drawn xs

private theorem blank_zero (duration : Nat) (k : Cohabiting) :
    Blank duration 0 (.married ⟨k, blankCertificate⟩) := by
  have hv := blankCertificate_invalid k 0
  have hs : isSettled (.married ⟨k, blankCertificate⟩) .married 0 = false := by
    simp [isSettled, hv]
  have ha : nextAction (.married ⟨k, blankCertificate⟩) 0 = some .checkCertificate := by
    simp [nextAction, hv]
  refine ⟨[⟨.now, 0⟩], [], k, .exhausted hs ha, ?_⟩
  intro e he
  simp at he

private theorem blank_step {now : Instant} {action : Action} {t : Transition}
    (hs : isSettled state .married now = false) (ha : nextAction state now = some action)
    (hstep : Course (step duration action state) xs (t, next)) (hk : t.kind ≠ .stay) (hd : Drawn xs)
    (h : Blank duration bound next) : Blank duration (bound + 1) state := by
  obtain ⟨ys, ts, k, hw, hy⟩ := h
  refine ⟨_, t :: ts, k, .moved hs ha hstep hk hw, ?_⟩
  intro e he
  simp only [List.mem_cons, List.mem_append, Exchange.mk.injEq, reduceCtorEq, false_and, false_or] at he
  rcases he with he | he
  · exact hd e he
  · exact hy e he

private theorem blank_of_expired (m : Married) (h : Blank duration bound (.cohabiting m.account)) :
    Blank duration (bound + 1) (.married m) := by
  have hv := hasValidCertificate_last m
  have hs : isSettled (.married m) .married (UInt64.ofNat maxMillis) = false := by
    simp [isSettled, hv]
  have ha : nextAction (.married m) (UInt64.ofNat maxMillis) = some .checkCertificate := by
    simp [nextAction, hv]
  refine blank_step hs ha (course_step_iff.mpr (.check m)) ?_ ?_ h
  · intro hk
    cases hk
  · intro e he
    cases he

private theorem blank_of_signed (k : Cohabiting) (h : Blank duration bound (.married ⟨k, blankCertificate⟩)) :
    Blank duration (bound + 1) (.cohabiting k) := by
  have hs : isSettled (.cohabiting k) .married 0 = false := rfl
  have hsign : Signing k duration _ _ := .signed blankCertificate rfl
  refine blank_step hs rfl (course_step_iff.mpr (.sign hsign)) ?_ ?_ h
  · intro hk
    cases hk
  · intro e he
    simp at he

private theorem blank_of_cohabiting (k : Cohabiting) (n : Nat) : Blank duration (2 * n + 1) (.cohabiting k) := by
  induction n with
  | zero => exact blank_of_signed k (blank_zero duration k)
  | succ n ih => exact blank_of_signed k (blank_of_expired ⟨k, blankCertificate⟩ ih)

private theorem exists_withKeys (s : Engaged) : ∃ keys account, withKeys s keys = .ok account := by
  have hzero := Key32.ofHex?_hex .zero
  refine ⟨⟨Key32.zero.hex, Key32.zero.hex⟩,
    fun pair => ⟨s.email, s.uid, s.sessionToken, .zero, unwrapKB .zero s.unwrapKey, pair⟩, ?_⟩
  unfold withKeys
  simp only [hzero]

private theorem exists_fetch (s : Engaged) : ∃ xs k, Checking s xs (.ok (.advanced (.cohabiting k))) ∧ Drawn xs := by
  cases hv : s.verified with
  | true =>
    obtain ⟨keys, account, hk⟩ := exists_withKeys s
    refine ⟨_, _, .verified hv (.fetched keys account default hk), ?_⟩
    intro e he
    simp at he
  | false =>
    obtain ⟨keys, account, hk⟩ := exists_withKeys { s with verified := true }
    refine ⟨_, _, .confirmed ⟨none, true⟩ hv rfl (.fetched keys account default hk), ?_⟩
    intro e he
    simp at he

private theorem blank_of_engaged (s : Engaged) (n : Nat) : Blank duration (2 * n + 2) (.engaged s) := by
  obtain ⟨xs, k, hc, hd⟩ := exists_fetch s
  have hs : isSettled (.engaged s) .married 0 = false := rfl
  refine blank_step hs rfl (course_step_iff.mpr (.fetch hc)) ?_ hd (blank_of_cohabiting k n)
  intro hk
  cases hk

/-- From an exposed state, blank certificates can make every step of a run one that moves the account. -/
theorem blank_of_exposed {state : Account} (h : Exposed (bound + 1) state) : Blank duration (bound + 1) state := by
  cases state with
  | engaged s =>
    obtain ⟨n, rfl⟩ : ∃ n, bound = 2 * n + 1 := ⟨bound / 2, by have := h.1; omega⟩
    exact blank_of_engaged s n
  | cohabiting k =>
    change (bound + 1) % 2 = 1 at h
    obtain ⟨n, rfl⟩ : ∃ n, bound = 2 * n := ⟨bound / 2, by omega⟩
    exact blank_of_cohabiting k n
  | married m =>
    change (bound + 1) % 2 = 0 at h
    obtain ⟨n, rfl⟩ : ∃ n, bound = 2 * n + 1 := ⟨bound / 2, by omega⟩
    exact blank_of_expired m (blank_of_cohabiting m.account n)
  | separated o => exact h.elim
  | doghouse o => exact h.elim

private theorem stale_final {state' : Account} (h : Stale xs state) : Stale (xs ++ [⟨.final state', ()⟩]) state := by
  obtain ⟨m, now, hm, hl, hv⟩ := h
  refine ⟨m, now, hm, ?_, hv⟩
  rw [lastLook_final, hl]

/-- From an exposed state a run may end by a certificate that is no good, without any failure on its way. -/
theorem exists_stale_advance (maxSteps duration : Nat) {initial : Account}
    (h : Exposed (max 1 maxSteps) initial) :
    ∃ xs ts k, Course (advance maxSteps duration initial .married) xs ⟨ts, .married ⟨k, blankCertificate⟩⟩ ∧
      Drawn xs ∧ Stale xs (.married ⟨k, blankCertificate⟩) := by
  obtain ⟨bound, hbound⟩ : ∃ bound, max 1 maxSteps = bound + 1 := ⟨max 1 maxSteps - 1, by omega⟩
  rw [hbound] at h
  have hblank : Blank duration (bound + 1) initial := blank_of_exposed h
  obtain ⟨xs, ts, k, hw, hd⟩ := hblank
  obtain ⟨now, hl⟩ := hw.exists_lastLook
  have hstale : Stale xs (.married ⟨k, blankCertificate⟩) :=
    ⟨⟨k, blankCertificate⟩, now, rfl, hl, blankCertificate_invalid k now⟩
  refine ⟨_, ts, k, course_advance_iff.mpr ⟨xs, hbound ▸ hw, rfl⟩, ?_, stale_final hstale⟩
  intro e he
  rcases List.mem_append.mp he with he | he
  · exact hd e he
  · cases List.mem_singleton.mp he

/-- A run that ends by a certificate that is no good was stopped by its bound, in an exposed state. -/
theorem stale_advance {maxSteps : Nat} {initial : Account}
    (h : Course (advance maxSteps duration initial .married) xs run) (hs : Stale xs run.state) :
    run.transitions.length = max 1 maxSteps ∧ Exposed (max 1 maxSteps) initial := by
  obtain ⟨ys, hw, rfl⟩ := course_advance_iff.mp h
  obtain ⟨m, now, hm, hl, hv⟩ := hs
  rw [lastLook_final] at hl
  exact hw.stale ⟨m, now, hm, hl, hv⟩

end AccountSync.Login
