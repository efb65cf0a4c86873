import AccountSync.Login
import AccountSync.Proofs.Dialogue.Course

/-!
One step of a login run: what is asked in it, and where it leaves the account. `Fetching`, `Checking` and
`Signing` list the courses of the parts that ask the provider, `Moves` what a step can do to the account;
everything that is proved about whole runs goes back to `moves_of_course`.
-/

set_option autoImplicit false
set_option relaxedAutoImplicit false

namespace AccountSync.Login

open Dialogue

abbrev Exchanges := List (Exchange Question.Answer)

inductive Fetching (s : Engaged) : Exchanges → Except SyncError Outcome → Prop
  | refused (e : SyncError) : Fetching s [⟨.ask (.fetchKeys s.keyFetchToken), .error e⟩] (.error e)
  | malformed (keys : Provider.KeysResponse) (e : SyncError) : withKeys s keys = .error e →
      Fetching s [⟨.ask (.fetchKeys s.keyFetchToken), .ok keys⟩] (.error e)
  | pairless (keys : Provider.KeysResponse) (account : KeyPair → Cohabiting) (e : SyncError) :
      withKeys s keys = .ok account →
      Fetching s [⟨.ask (.fetchKeys s.keyFetchToken), .ok keys⟩, ⟨.keyPair, .error e⟩] (.error e)
  | fetched (keys : Provider.KeysResponse) (account : KeyPair → Cohabiting) (pair : KeyPair) :
      withKeys s keys = .ok account →
      Fetching s [⟨.ask (.fetchKeys s.keyFetchToken), .ok keys⟩, ⟨.keyPair, .ok pair⟩]
        (.ok (.advanced (.cohabiting (account pair))))

private theorem course_fetchVerified_iff {s : Engaged} {xs : Exchanges} {r : Except SyncError Outcome} :
    Course (fetchVerified s) xs r ↔ Fetching s xs r := by
  constructor
  · intro h
    obtain ⟨ys, a, zs, ha, hn, rfl⟩ := course_bind_iff.mp h
    obtain rfl := course_question_iff.mp ha
    cases a with
    | error e =>
      obtain ⟨rfl, rfl⟩ := course_pure_iff.mp hn
      exact .refused e
    | ok keys =>
      dsimp only at hn
      cases hk : withKeys s keys with
      | error e =>
        rw [hk] at hn
        obtain ⟨rfl, rfl⟩ := course_pure_iff.mp hn
        exact .malformed keys e hk
      | ok account =>
        rw [hk] at hn
        obtain ⟨us, pair, vs, hp, he, rfl⟩ := course_bind_iff.mp hn
        obtain rfl := course_question_iff.mp hp
        obtain ⟨rfl, rfl⟩ := course_pure_iff.mp he
        cases pair with
        | error e => exact .pairless keys account e hk
        | ok pair => exact .fetched keys account pair hk
  · intro h
    unfold fetchVerified
    cases h with
    | refused e =>
      exact course_bind_iff.mpr ⟨_, .error e, [], course_question_iff.mpr rfl, .done _, rfl⟩
    | malformed keys e hk =>
      refine course_bind_iff.mpr ⟨_, .ok keys, [], course_question_iff.mpr rfl, ?_, rfl⟩
      simp only [hk]
      exact .done _
    | pairless keys account e hk =>
      refine course_bind_iff.mpr ⟨_, .ok keys, _, course_question_iff.mpr rfl, ?_, rfl⟩
      simp only [hk]
      exact course_bind_iff.mpr ⟨_, .error e, [], course_question_iff.mpr rfl, .done _, rfl⟩
    | fetched keys account pair hk =>
      refine course_bind_iff.mpr ⟨_, .ok keys, _, course_question_iff.mpr rfl, ?_, rfl⟩
      simp only [hk]
      exact course_bind_iff.mpr ⟨_, .ok pair, [], course_question_iff.mpr rfl, .done _, rfl⟩

/-- Fetching the keys of an account, of which it is first found out whether it has been verified. -/
inductive Checking (s : Engaged) : Exchanges → Except SyncError Outcome → Prop
  | verified {xs : Exchanges} {r : Except SyncError Outcome} : s.verified = true → Fetching s xs r →
      Checking s xs r
  | refused (e : SyncError) : s.verified = false →
      Checking s [⟨.ask (.emailStatus s.sessionToken), .error e⟩] (.error e)
  | unverified (status : Provider.EmailStatus) : s.verified = false → status.verified = false →
      Checking s [⟨.ask (.emailStatus s.sessionToken), .ok status⟩] (.ok (.unverified (.engaged s)))
  | confirmed (status : Provider.EmailStatus) {xs : Exchanges} {r : Except SyncError Outcome} :
      s.verified = false → status.verified = true → Fetching { s with verified := true } xs r →
      Checking s (⟨.ask (.emailStatus s.sessionToken), .ok status⟩ :: xs) r

private theorem course_fetchKeys_iff {s : Engaged} {xs : Exchanges} {r : Except SyncError Outcome} :
    Course (fetchKeys s) xs r ↔ Checking s xs r := by
  unfold fetchKeys
  constructor
  · intro h
    cases hv : s.verified with
    | true =>
      simp only [hv, if_true] at h
      exact .verified hv (course_fetchVerified_iff.mp h)
    | false =>
      simp only [hv, Bool.false_eq_true, if_false] at h
      obtain ⟨ys, a, zs, ha, hn, rfl⟩ := course_bind_iff.mp h
      obtain rfl := course_question_iff.mp ha
      cases a with
      | error e =>
        obtain ⟨rfl, rfl⟩ := course_pure_iff.mp hn
        exact .refused e hv
      | ok status =>
        dsimp only at hn
        cases hs : status.verified with
        | true =>
          simp only [hs, if_true] at hn
          exact .confirmed status hv hs (course_fetchVerified_iff.mp hn)
        | false =>
          simp only [hs, Bool.false_eq_true, if_false] at hn
          obtain ⟨rfl, rfl⟩ := course_pure_iff.mp hn
          exact .unverified status hv hs
  · intro h
    cases h with
    | verified hv hf =>
      simp only [hv, if_true]
      exact course_fetchVerified_iff.mpr hf
    | refused e hv =>
      simp only [hv, Bool.false_eq_true, if_false]
      exact course_bind_iff.mpr ⟨_, .error e, [], course_question_iff.mpr rfl, .done _, rfl⟩
    | unverified status hv hs =>
      simp only [hv, Bool.false_eq_true, if_false]
      refine course_bind_iff.mpr ⟨_, .ok status, [], course_question_iff.mpr rfl, ?_, rfl⟩
      simp only [hs, Bool.false_eq_true, if_false]
      exact .done _
    | confirmed status hv hs hf =>
      simp only [hv, Bool.false_eq_true, if_false]
      refine course_bind_iff.mpr ⟨_, .ok status, _, course_question_iff.mpr rfl, ?_, rfl⟩
      simp only [hs, if_true]
      exact course_fetchVerified_iff.mpr hf

inductive Signing (s : Cohabiting) (duration : Nat) : Exchanges → Except SyncError Outcome → Prop
  | refused (e : SyncError) : Signing s duration
      [⟨.ask (.signCertificate s.sessionToken s.keyPair.descriptor (clampMillis duration)), .error e⟩]
      (.error e)
  | empty (certificate : String) : certificate.isEmpty = true → Signing s duration
      [⟨.ask (.signCertificate s.sessionToken s.keyPair.descriptor (clampMillis duration)),
        .ok certificate⟩] (.error (.malformed "empty certificate"))
  | signed (certificate : String) : certificate.isEmpty = false → Signing s duration
      [⟨.ask (.signCertificate s.sessionToken s.keyPair.descriptor (clampMillis duration)),
        .ok certificate⟩] (.ok (.advanced (.married ⟨s, certificate⟩)))

private theorem course_signCertificate_iff {s : Cohabiting} {duration : Nat} {xs : Exchanges}
    {r : Except SyncError Outcome} : Course (signCertificate s duration) xs r ↔ Signing s duration xs r := by
  unfold signCertificate
  constructor
  · intro h
    obtain ⟨ys, a, zs, ha, hn, rfl⟩ := course_bind_iff.mp h
    obtain rfl := course_question_iff.mp ha
    cases a with
    | error e =>
      obtain ⟨rfl, rfl⟩ := course_pure_iff.mp hn
      exact .refused e
    | ok certificate =>
      dsimp only at hn
      cases hc : certificate.isEmpty with
      | true =>
        simp only [hc, if_true] at hn
        obtain ⟨rfl, rfl⟩ := course_pure_iff.mp hn
        exact .empty certificate hc
      | false =>
        simp only [hc, Bool.false_eq_true, if_false] at hn
        obtain ⟨rfl, rfl⟩ := course_pure_iff.mp hn
        exact .signed certificate hc
  · intro h
    cases h with
    | refused e =>
      exact course_bind_iff.mpr ⟨_, .error e, [], course_question_iff.mpr rfl, .done _, rfl⟩
    | empty certificate hc =>
      refine course_bind_iff.mpr ⟨_, .ok certificate, [], course_question_iff.mpr rfl, ?_, rfl⟩
      simp only [hc, if_true]
      exact .done _
    | signed certificate hc =>
      refine course_bind_iff.mpr ⟨_, .ok certificate, [], course_question_iff.mpr rfl, ?_, rfl⟩
      simp only [hc, Bool.false_eq_true, if_false]
      exact .done _

inductive Own : StateLabel → Action → Prop
  | fetchKeys : Own .engaged .fetchKeys
  | signCertificate : Own .cohabiting .signCertificate
  | checkCertificate : Own .married .checkCertificate

theorem own_of_nextAction {state : Account} {now : Instant} {action : Action}
    (h : nextAction state now = some action) : Own state.label action := by
  cases state with
  | engaged s =>
    cases h
    exact .fetchKeys
  | cohabiting s =>
    cases h
    exact .signCertificate
  | married m =>
    cases hv : m.hasValidCertificate now with
    | true => simp [nextAction, hv] at h
    | false =>
      simp only [nextAction, hv, Bool.false_eq_true, if_false, Option.some.injEq] at h
      subst h
      exact .checkCertificate
  | separated o => cases h
  | doghouse o => cases h

theorem invalid_of_unreadable {m : Married} (h : (certificateExpiry m.certificate).isOk = false)
    (now : Instant) : m.hasValidCertificate now = false := by
  unfold Married.hasValidCertificate Married.certificateExpiry
  cases hc : certificateExpiry m.certificate with
  | error e => rfl
  | ok expiry =>
    rw [hc] at h
    cases h

/-- A step: what is asked in it, how it is reported, and the state after it. -/
inductive Stepping (duration : Nat) : Account → Action → Exchanges → Transition × Account → Prop
  | fetch {s : Engaged} {xs : Exchanges} {r : Except SyncError Outcome} : Checking s xs r →
      Stepping duration (.engaged s) .fetchKeys xs (conclude .fetchKeys (.engaged s) r)
  | sign {s : Cohabiting} {xs : Exchanges} {r : Except SyncError Outcome} : Signing s duration xs r →
      Stepping duration (.cohabiting s) .signCertificate xs (conclude .signCertificate (.cohabiting s) r)
  | check (m : Married) :
      Stepping duration (.married m) .checkCertificate []
        (⟨.married, .cohabiting, .checkCertificate, .reset, "certificate expired"⟩, .cohabiting m.account)
  /-- A step that does not belong to the state. -/
  | astray {state : Account} {action : Action} : ¬ Own state.label action →
      Stepping duration state action []
        (conclude action state (.error (.invalidState action.text state.label.text)))

theorem course_step_iff {duration : Nat} {state : Account} {action : Action} {xs : Exchanges}
    {r : Transition × Account} :
    Course (step duration action state) xs r ↔ Stepping duration state action xs r := by
  constructor
  · intro h
    unfold step at h
    split at h
    · obtain ⟨ys, a, zs, ha, hn, rfl⟩ := course_bind_iff.mp h
      obtain ⟨rfl, rfl⟩ := course_pure_iff.mp hn
      rw [List.append_nil]
      exact .fetch (course_fetchKeys_iff.mp ha)
    · obtain ⟨ys, a, zs, ha, hn, rfl⟩ := course_bind_iff.mp h
      obtain ⟨rfl, rfl⟩ := course_pure_iff.mp hn
      rw [List.append_nil]
      exact .sign (course_signCertificate_iff.mp ha)
    · obtain ⟨rfl, rfl⟩ := course_pure_iff.mp h
      exact .check _
    · rename_i hengaged hcohabiting hmarried
      obtain ⟨rfl, rfl⟩ := course_pure_iff.mp h
      refine .astray fun own => ?_
      cases state <;> cases own
      · exact hengaged _ rfl rfl
      · exact hcohabiting _ rfl rfl
      · exact hmarried _ rfl rfl
  · intro h
    cases h with
    | fetch hc =>
      exact course_bind_iff.mpr ⟨_, _, [], course_fetchKeys_iff.mpr hc, .done _, (List.append_nil _).symm⟩
    | sign hs =>
      exact course_bind_iff.mpr
        ⟨_, _, [], course_signCertificate_iff.mpr hs, .done _, (List.append_nil _).symm⟩
    | check m => exact .done _
    | astray hown =>
      unfold step
      split
      · exact (hown .fetchKeys).elim
      · exact (hown .signCertificate).elim
      · exact (hown .checkCertificate).elim
      · exact .done _

/-- Steps that ask the provider, and so can fail. -/
inductive Remote : StateLabel → Action → Prop
  | fetchKeys : Remote .engaged .fetchKeys
  | signCertificate : Remote .cohabiting .signCertificate

/-- What a step of its own can do to an account. -/
inductive Moves : Account → Transition → Account → Prop
  | fetched {s : Engaged} {k : Cohabiting} : k.email = s.email → k.uid = s.uid →
      k.sessionToken = s.sessionToken →
      Moves (.engaged s) ⟨.engaged, .cohabiting, .fetchKeys, .progress, ""⟩ (.cohabiting k)
  | unverified (s : Engaged) :
      Moves (.engaged s) ⟨.engaged, .engaged, .fetchKeys, .stay, "account not verified"⟩ (.engaged s)
  | signed (k : Cohabiting) (certificate : String) :
      Moves (.cohabiting k) ⟨.cohabiting, .married, .signCertificate, .progress, ""⟩
        (.married ⟨k, certificate⟩)
  | expired (m : Married) :
      Moves (.married m) ⟨.married, .cohabiting, .checkCertificate, .reset, "certificate expired"⟩
        (.cohabiting m.account)
  | separated {state : Account} {action : Action} {e : SyncError} : Remote state.label action →
      e.isInvalidAuthentication = true →
      Moves state ⟨state.label, .separated, action, .reset, e.message⟩ state.toSeparated
  | doghouse {state : Account} {action : Action} {e : SyncError} : Remote state.label action →
      e.isInvalidAuthentication = false → e.isUpgradeRequired = true →
      Moves state ⟨state.label, .doghouse, action, .reset, e.message⟩ state.toDoghouse
  | disproved {s : Engaged} {e : SyncError} : e.isInvalidAuthentication = false →
      e.isUpgradeRequired = false → e.isUnverified = true →
      Moves (.engaged s) ⟨.engaged, .engaged, .fetchKeys, .stay, e.message⟩
        (.engaged { s with verified := false })
  | failed {state : Account} {action : Action} {e : SyncError} : Remote state.label action →
      e.isInvalidAuthentication = false → e.isUpgradeRequired = false →
      (e.isUnverified = true → state.label ≠ .engaged) →
      Moves state ⟨state.label, state.label, action, .stay, e.message⟩ state

private theorem conclude_error (action : Action) (state : Account) (e : SyncError) :
    conclude action state (.error e) =
      (⟨state.label, (fallBack state e).2.label, action, (fallBack state e).1, e.message⟩,
        (fallBack state e).2) := rfl

private theorem moves_of_error (state : Account) {action : Action} (e : SyncError)
    (remote : Remote state.label action) :
    Moves state (conclude action state (.error e)).1 (conclude action state (.error e)).2 := by
  rw [conclude_error]
  cases hi : e.isInvalidAuthentication with
  | true =>
    have hf : fallBack state e = (.reset, state.toSeparated) := by simp [fallBack, hi]
    rw [hf]
    exact .separated remote hi
  | false =>
    cases hu : e.isUpgradeRequired with
    | true =>
      have hf : fallBack state e = (.reset, state.toDoghouse) := by simp [fallBack, hi, hu]
      rw [hf]
      exact .doghouse remote hi hu
    | false =>
      by_cases hv : e.isUnverified = true ∧ state.label = .engaged
      · cases state with
        | engaged s =>
          have hf : fallBack (.engaged s) e = (.stay, .engaged { s with verified := false }) := by
            simp [fallBack, hi, hu, hv.1]
          rw [hf]
          cases remote
          exact .disproved hi hu hv.1
        | cohabiting s => cases hv.2
        | married m => cases remote
        | separated o => cases remote
        | doghouse o => cases remote
      · have hf : fallBack state e = (.stay, state) := by
          cases state <;> simp_all [fallBack, Account.label]
        rw [hf]
        exact .failed remote hi hu fun h hl => hv ⟨h, hl⟩

private theorem moves_of_checking {s : Engaged} {xs : Exchanges} {r : Except SyncError Outcome}
    (h : Checking s xs r) : Moves (.engaged s) (conclude .fetchKeys (.engaged s) r).1
      (conclude .fetchKeys (.engaged s) r).2 := by
  -- Being found verified changes nothing that a later state keeps.
  have fetching : ∀ (s' : Engaged) (ys : Exchanges), s'.email = s.email → s'.uid = s.uid →
      s'.sessionToken = s.sessionToken → Fetching s' ys r →
      Moves (.engaged s) (conclude .fetchKeys (.engaged s) r).1 (conclude .fetchKeys (.engaged s) r).2 := by
    intro s' ys he hu ht hf
    cases hf with
    | refused e => exact moves_of_error _ e .fetchKeys
    | malformed keys e _ => exact moves_of_error _ e .fetchKeys
    | pairless keys account e _ => exact moves_of_error _ e .fetchKeys
    | fetched keys account pair hk =>
      unfold withKeys at hk
      split at hk
      · cases hk
      · split at hk
        · cases hk
        · cases hk
          exact .fetched he hu ht
  cases h with
  | verified _ hf => exact fetching s xs rfl rfl rfl hf
  | refused e _ => exact moves_of_error _ e .fetchKeys
  | unverified status _ _ => exact .unverified s
  | confirmed status _ _ hf => exact fetching { s with verified := true } _ rfl rfl rfl hf

private theorem moves_of_signing {s : Cohabiting} {duration : Nat} {xs : Exchanges} {r : Except SyncError Outcome}
    (h : Signing s duration xs r) : Moves (.cohabiting s) (conclude .signCertificate (.cohabiting s) r).1
      (conclude .signCertificate (.cohabiting s) r).2 := by
  cases h with
  | refused e => exact moves_of_error _ e .signCertificate
  | empty certificate _ => exact moves_of_error _ _ .signCertificate
  | signed certificate _ => exact .signed s certificate

/-- A step that belongs to the state does one of the things that steps can do. -/
theorem moves_of_course {duration : Nat} {state next : Account} {action : Action} {xs : Exchanges}
    {t : Transition} (own : Own state.label action)
    (h : Course (step duration action state) xs (t, next)) : Moves state t next := by
  generalize hr : (t, next) = r at h
  cases course_step_iff.mp h with
  | fetch hc =>
    have hm := moves_of_checking hc
    rwa [← hr] at hm
  | sign hs =>
    have hm := moves_of_signing hs
    rwa [← hr] at hm
  | check m =>
    cases hr
    exact .expired m
  | astray hn => exact (hn own).elim

/-- The questions that a step asks: of the provider, or for a key pair. -/
def Question.IsCall : Question → Prop
  | .ask _ => True
  | .keyPair => True
  | _ => False

private theorem asks_fetchVerified (s : Engaged) : (fetchVerified s).Asks Question.IsCall := by
  refine asks_bind (asks_question.mpr trivial) fun a => ?_
  cases a with
  | error e => trivial
  | ok keys =>
    dsimp only
    cases withKeys s keys with
    | error e => trivial
    | ok account => exact asks_bind (asks_question.mpr trivial) fun pair => trivial

theorem asks_step (duration : Nat) (action : Action) (state : Account) :
    (step duration action state).Asks Question.IsCall := by
  unfold step
  split
  · refine asks_bind ?_ fun _ => trivial
    unfold fetchKeys
    split
    · exact asks_fetchVerified _
    · refine asks_bind (asks_question.mpr trivial) fun a => ?_
      cases a with
      | error e => trivial
      | ok status =>
        dsimp only
        split
        · exact asks_fetchVerified _
        · trivial
  · refine asks_bind ?_ fun _ => trivial
    refine asks_bind (asks_question.mpr trivial) fun a => ?_
    cases a with
    | error e => trivial
    | ok certificate =>
      dsimp only
      split <;> trivial
  · trivial
  · trivial

end AccountSync.Login
