import AccountSync.Attempt.World
import AccountSync.Proofs.Attempt.History
import AccountSync.Proofs.Login.Provenance
import AccountSync.Proofs.Login.Refusal
import AccountSync.Proofs.Provider.Body

/-!
Where one response of the identity provider takes an account. A step of a login run asks the provider over the network;
`reply?` is what comes back, and `Lands` lists what a step makes of it, from the status and the bytes of the body to the
account that is left. Main statement: `step_lands`, for the two steps that ask for keys and for a certificate.
-/

set_option autoImplicit false
set_option relaxedAutoImplicit false

namespace AccountSync

namespace Dialogue

variable {Q Q' : Type} {A : Q → Type} {A' : Q' → Type} {α β σ : Type}

/-- A dialogue that is left to others goes on with its second part where the first has ended. -/
theorem run_translate_bind (answer : (q : Q') → σ → A' q × σ) (g : (q : Q) → Dialogue Q' A' (A q)) (d : Dialogue Q A α)
    (f : α → Dialogue Q A β) (s : σ) :
    ((d >>= f).translate g).run answer s =
      ((f ((d.translate g).run answer s).1).translate g).run answer ((d.translate g).run answer s).2 := by
  change ((d.bind f).translate g).run answer s = _
  induction d generalizing s with
  | done a => rfl
  | ask q next ih =>
    have hfirst (d : A q → Dialogue Q' A' α) : ((g q).bind d).run answer s = _ := run_bind answer (g q) d s
    have hwhole (d : A q → Dialogue Q' A' β) : ((g q).bind d).run answer s = _ := run_bind answer (g q) d s
    rw [bind, translate, translate, hfirst, hwhole, ih]

private theorem run_translate_pure (answer : (q : Q') → σ → A' q × σ) (g : (q : Q) → Dialogue Q' A' (A q)) (a : α)
    (s : σ) : ((pure a : Dialogue Q A α).translate g).run answer s = (a, s) := rfl

end Dialogue

namespace Attempt

open Dialogue

variable {σ : Type}

/-- What a network brings back for a request to the provider: nothing if it cannot be sent or is not answered. -/
def reply? (c : Config) (network : Network σ) (w : World σ) (q : Provider.Request) : Option Http.Response :=
  match q.message (Text.trimEndMatches '/' c.identityServerUrl) with
  | .ok request => (network request w.ledger.clock w.others).1
  | .error _ => none

def taken (c : Config) (network : Network σ) (others : Others σ) (w : World σ) (duration : Nat) (action : Login.Action)
    (state : Account) : Login.Transition × Account :=
  ((login (Login.step duration action state)).run (World.answer (.overHttp c network others)) w).1

/-- The keys in a response bring an account on that has none. -/
inductive Keyed (s : Engaged) (r : Http.Response) : Account → Prop
  | intro {keys : Provider.KeysResponse} {pair : KeyPair} {k : Cohabiting} :
      Json.TextTells Provider.TellsKeys r.text keys → Key32.Written keys.kA → Key32.Written keys.wrapKB →
        Login.Sourced s keys pair k → Keyed s r (.cohabiting k)

/-- The certificate in a response brings an account with keys on. -/
inductive Certified (k : Cohabiting) (r : Http.Response) : Account → Prop
  | intro {certificate : String} : Json.TextTells Provider.TellsCertificate r.text ⟨certificate⟩ → certificate ≠ "" →
      Certified k r (.married ⟨k, certificate⟩)

/-- What a step makes of what came back. `reached` says which responses bring the account on, and where to. -/
inductive Lands (action : Login.Action) (state : Account) (reached : Http.Response → Account → Prop) :
    Option Http.Response → Login.Transition × Account → Prop
  | unanswered (failure : Http.Failure) : Lands action state reached none
      (⟨state.label, state.label, action, .stay, (SyncError.http failure).message⟩, state)
  | progress {r : Http.Response} {next : Account} : Http.isSuccess r.status = true → reached r next →
      Lands action state reached (some r) (⟨state.label, next.label, action, .progress, ""⟩, next)
  | useless {r : Http.Response} (detail : String) : Http.isSuccess r.status = true → (∀ next, ¬ reached r next) →
      Lands action state reached (some r)
        (⟨state.label, state.label, action, .stay, (SyncError.malformed detail).message⟩, state)
  | refused {r : Http.Response} {errno : UInt32} {message : String} {kind : Login.Kind} {next : Account} :
      Http.isSuccess r.status = false → Provider.Says r errno message →
        Login.Classified state r.status errno (kind, next) → Lands action state reached (some r)
          (⟨state.label, next.label, action, kind, (SyncError.remote r.status errno message).message⟩, next)

variable {c : Config} {network : Network σ} {others : Others σ} {w : World σ} {duration : Nat} {action : Login.Action}
  {state : Account} {reached : Http.Response → Account → Prop} {r : Http.Response}

/-! ### What is heard of the provider -/

def heard (c : Config) (network : Network σ) (w : World σ) (q : Provider.Request) : Except SyncError q.Answer :=
  (converse network (q.send c.identityServerUrl) w.ledger.clock w.others).1

private theorem heard_of_some {q : Provider.Request} (h : reply? c network w q = some r) :
    heard c network w q = q.interpret r := by
  unfold reply? at h
  unfold heard converse Provider.Request.send
  cases hmessage : q.message (Text.trimEndMatches '/' c.identityServerUrl) with
  | error f =>
    rw [hmessage] at h
    cases h
  | ok request =>
    rw [hmessage] at h
    have hanswer : (converse.answer network w.ledger.clock (.send request) (0, w.others)).1 = some r := by
      rw [← h, converse.answer, after_zero]
    rw [run_bind, Http.send, run_bind, run_question, hanswer]
    rfl

private theorem heard_of_none {q : Provider.Request} (h : reply? c network w q = none) :
    ∃ failure, heard c network w q = .error (.http failure) := by
  unfold reply? at h
  unfold heard converse Provider.Request.send
  cases hmessage : q.message (Text.trimEndMatches '/' c.identityServerUrl) with
  | error f => exact ⟨f, rfl⟩
  | ok request =>
    rw [hmessage] at h
    have hanswer : (converse.answer network w.ledger.clock (.send request) (0, w.others)).1 = none := by
      rw [← h, converse.answer, after_zero]
    refine ⟨.unanswered request.url.text, ?_⟩
    rw [run_bind, Http.send, run_bind, run_question, hanswer]
    rfl

private theorem run_ask (c : Config) (network : Network σ) (others : Others σ) (w : World σ) (q : Provider.Request) :
    ((login (Login.ask q)).run (World.answer (.overHttp c network others)) w).1 = heard c network w q := rfl

/-- What a step makes of keys, with a key pair that was drawn. -/
def takeKeys (s : Engaged) (pair : KeyPair) (keys : Provider.KeysResponse) : Except SyncError Login.Outcome :=
  (Login.withKeys s keys).map fun account => .advanced (.cohabiting (account pair))

def takeCertificate (k : Cohabiting) (certificate : String) : Except SyncError Login.Outcome :=
  if certificate.isEmpty then .error (.malformed "empty certificate") else .ok (.advanced (.married ⟨k, certificate⟩))

private theorem run_fetchVerified (c : Config) (network : Network σ) (others : Others σ) (w : World σ) (s : Engaged) :
    ∃ pair, ((login (Login.fetchVerified s)).run (World.answer (.overHttp c network others)) w).1 =
      (heard c network w (.fetchKeys s.keyFetchToken)).bind (takeKeys s pair) := by
  have hask := run_ask c network others w (.fetchKeys s.keyFetchToken)
  unfold login at hask ⊢
  rw [Login.fetchVerified, run_translate_bind, hask]
  cases heard c network w (.fetchKeys s.keyFetchToken) with
  | error e => exact ⟨default, rfl⟩
  | ok keys =>
    dsimp only [Except.bind, takeKeys]
    cases Login.withKeys s keys with
    | error e => exact ⟨default, rfl⟩
    | ok account => exact ⟨_, rfl⟩

private theorem run_signCertificate (c : Config) (network : Network σ) (others : Others σ) (w : World σ)
    (k : Cohabiting) (duration : Nat) :
    ((login (Login.signCertificate k duration)).run (World.answer (.overHttp c network others)) w).1 =
      (heard c network w (.signCertificate k.sessionToken k.keyPair.descriptor (clampMillis duration))).bind
        (takeCertificate k) := by
  have hask := run_ask c network others w (.signCertificate k.sessionToken k.keyPair.descriptor (clampMillis duration))
  unfold login at hask ⊢
  rw [Login.signCertificate, run_translate_bind, hask]
  cases heard c network w (.signCertificate k.sessionToken k.keyPair.descriptor (clampMillis duration)) with
  | error e => rfl
  | ok certificate =>
    dsimp only [Except.bind, takeCertificate]
    split
    · rfl
    · rfl

private theorem taken_fetchKeys (c : Config) (network : Network σ) (others : Others σ) (w : World σ) (duration : Nat)
    {s : Engaged} (hs : s.verified = true) : taken c network others w duration .fetchKeys (.engaged s) =
      Login.conclude .fetchKeys (.engaged s)
        ((login (Login.fetchVerified s)).run (World.answer (.overHttp c network others)) w).1 := by
  have hstep : Login.step duration .fetchKeys (.engaged s) =
      Login.fetchKeys s >>= fun r => pure (Login.conclude .fetchKeys (.engaged s) r) := rfl
  have hfetch : Login.fetchKeys s = Login.fetchVerified s := if_pos hs
  rw [taken, hstep, hfetch, login, run_translate_bind, run_translate_pure, login]

private theorem taken_signCertificate (c : Config) (network : Network σ) (others : Others σ) (w : World σ)
    (duration : Nat) (k : Cohabiting) : taken c network others w duration .signCertificate (.cohabiting k) =
      Login.conclude .signCertificate (.cohabiting k)
        ((login (Login.signCertificate k duration)).run (World.answer (.overHttp c network others)) w).1 := by
  have hstep : Login.step duration .signCertificate (.cohabiting k) =
      Login.signCertificate k duration >>= fun r => pure (Login.conclude .signCertificate (.cohabiting k) r) := rfl
  rw [taken, hstep, login, run_translate_bind, run_translate_pure, login]

/-! ### Where it leads -/

private theorem Lands.exists_reached {next : Account} {landed : Login.Transition × Account}
    (h : Lands action state reached (some r) landed) (hstatus : Http.isSuccess r.status = true)
    (hnext : reached r next) :
    ∃ next, reached r next ∧ landed = (⟨state.label, next.label, action, .progress, ""⟩, next) := by
  cases h with
  | progress _ hreached => exact ⟨_, hreached, rfl⟩
  | useless _ _ hunreached => exact (hunreached next hnext).elim
  | refused hfailed => cases hstatus.symm.trans hfailed

/-- What a good response comes to: an account that it reaches, or, if there is none, an answer of no use. -/
inductive Decides (reached : Account → Prop) : Except SyncError Login.Outcome → Prop
  | reached {next : Account} : reached next → Decides reached (.ok (.advanced next))
  | useless (detail : String) : (∀ next, ¬ reached next) → Decides reached (.error (.malformed detail))

private theorem lands_of_refusal (hstatus : Http.isSuccess r.status = false) :
    Lands action state reached (some r) (Login.conclude action state (.error (Provider.refusal r))) := by
  obtain ⟨errno, message, hsays, hrefusal⟩ := Provider.says_refusal r
  rw [hrefusal]
  exact .refused hstatus hsays (Login.classified_fallBack state r.status errno message)

private theorem lands_of_heard {q : Provider.Request} {next : q.Answer → Except SyncError Login.Outcome}
    (hgood : ∀ r, Http.isSuccess r.status = true → Decides (reached r) ((q.interpret r).bind next)) :
    Lands action state reached (reply? c network w q)
      (Login.conclude action state ((heard c network w q).bind next)) := by
  cases hreply : reply? c network w q with
  | none =>
    obtain ⟨failure, hheard⟩ := heard_of_none hreply
    rw [hheard]
    exact .unanswered failure
  | some r =>
    rw [heard_of_some hreply]
    cases hstatus : Http.isSuccess r.status with
    | false =>
      rw [Provider.interpret_of_failure q hstatus]
      exact lands_of_refusal hstatus
    | true =>
      have hdecides := hgood r hstatus
      generalize (q.interpret r).bind next = x at hdecides
      cases hdecides with
      | reached hreached => exact .progress hstatus hreached
      | useless detail hunreached => exact .useless detail hstatus hunreached

private theorem decides_keys (s : Engaged) (pair : KeyPair) (hstatus : Http.isSuccess r.status = true) :
    Decides (Keyed s r) (((Provider.Request.fetchKeys s.keyFetchToken).interpret r).bind (takeKeys s pair)) := by
  rw [Provider.Request.interpret, if_pos hstatus]
  dsimp only [Provider.decode]
  have htells {keys : Provider.KeysResponse} :
      Provider.KeysResponse.read.ofText r.text = some keys ↔ Json.TextTells Provider.TellsKeys r.text keys :=
    Json.ofText_iff_textTells Provider.KeysResponse.read_eq_some_iff
  cases hread : Provider.KeysResponse.read.ofText r.text with
  | none =>
    refine .useless Json.fault ?_
    rintro _ ⟨hkeys, -⟩
    cases hread.symm.trans (htells.mpr hkeys)
  | some keys =>
    dsimp only [Except.bind, takeKeys]
    cases hkeys : Login.withKeys s keys with
    | ok account =>
      obtain ⟨hkA, hwrapKB⟩ := Login.exists_withKeys_iff.mp ⟨account, hkeys⟩
      exact .reached (.intro (htells.mp hread) hkA hwrapKB (Login.sourced_of_withKeys hkeys pair))
    | error e =>
      obtain ⟨detail, rfl⟩ := Login.malformed_of_defect (Login.defect?_of_withKeys_error hkeys s.keyFetchToken)
      refine .useless detail ?_
      rintro _ ⟨hkeys', hkA, hwrapKB, -⟩
      obtain rfl := Option.some.inj (hread.symm.trans (htells.mpr hkeys'))
      obtain ⟨account, haccount⟩ := Login.exists_withKeys_iff.mpr ⟨hkA, hwrapKB⟩
      cases hkeys.symm.trans haccount

private theorem decides_certificate (k : Cohabiting) {key : Json} {d : Nat} (hstatus : Http.isSuccess r.status = true) :
    Decides (Certified k r)
      (((Provider.Request.signCertificate k.sessionToken key d).interpret r).bind (takeCertificate k)) := by
  rw [Provider.Request.interpret, if_pos hstatus]
  dsimp only [Provider.decode]
  have htells {certificate : String} : Provider.CertificateResponse.read.ofText r.text = some ⟨certificate⟩ ↔
      Json.TextTells Provider.TellsCertificate r.text ⟨certificate⟩ :=
    Json.ofText_iff_textTells Provider.CertificateResponse.read_eq_some_iff
  cases hread : Provider.CertificateResponse.read.ofText r.text with
  | none =>
    refine .useless Json.fault ?_
    rintro _ ⟨hcertificate, -⟩
    cases hread.symm.trans (htells.mpr hcertificate)
  | some answer =>
    obtain ⟨certificate⟩ := answer
    dsimp only [Except.map, Except.bind, takeCertificate]
    by_cases hempty : certificate = ""
    · subst hempty
      refine .useless "empty certificate" ?_
      rintro _ ⟨hcertificate, hnonempty⟩
      have hsame := Option.some.inj (hread.symm.trans (htells.mpr hcertificate))
      exact hnonempty (congrArg Provider.CertificateResponse.certificate hsame).symm
    · rw [if_neg (by simpa using hempty)]
      exact .reached (.intro (htells.mp hread) hempty)

/-- One response, of any status and with any body, or none: this is where it takes an account that waits for its keys,
and one that waits for a certificate. -/
theorem step_lands (c : Config) (network : Network σ) (others : Others σ) (w : World σ) (duration : Nat) :
    (∀ s : Engaged, s.verified = true →
      Lands .fetchKeys (.engaged s) (Keyed s) (reply? c network w (.fetchKeys s.keyFetchToken))
        (taken c network others w duration .fetchKeys (.engaged s))) ∧
    ∀ k : Cohabiting,
      Lands .signCertificate (.cohabiting k) (Certified k)
        (reply? c network w (.signCertificate k.sessionToken k.keyPair.descriptor (clampMillis duration)))
        (taken c network others w duration .signCertificate (.cohabiting k)) := by
  constructor
  · intro s hs
    obtain ⟨pair, hrun⟩ := run_fetchVerified c network others w s
    rw [taken_fetchKeys c network others w duration hs, hrun]
    exact lands_of_heard fun r hstatus => decides_keys s pair hstatus
  · intro k
    rw [taken_signCertificate, run_signCertificate]
    exact lands_of_heard fun r hstatus => decides_certificate k hstatus

def bothKeys : List (String × Json) :=
  [("wrapKB", .string Key32.zero.hex), ("bundle", .null), ("kA", .string Key32.zero.hex)]

def generous : Network Unit := fun request _ s =>
  match request.body with
  | none => (some (Login.documented 200 (.object bothKeys)), 0, s)
  | some _ => (some (Login.documented 200 (.object [("cert", .string "x")])), 0, s)

def mute : Others Unit := fun q _ s => (silence (.party q), 0, s)

def nearby : Config := { identityServerUrl := "http://[::1]/v1" }

def blank : World Unit := ⟨⟨1000, {}, []⟩, {}, [], ()⟩

private theorem textTells_documented {α : Type} {tells : α → Json.Tree → Prop} {a : α} {j : Json}
    (hj : Json.Whole j) : Json.TextTells tells (Login.documented 200 j).text a ↔ tells a j.tree := by
  rw [Json.TextTells, Login.ofText?_documented rfl hj]
  exact ⟨fun ⟨_, ht, htells⟩ => Option.some.inj ht ▸ htells, fun h => ⟨_, rfl, h⟩⟩

theorem step_lands_progress : ∃ k, k.kA = .zero ∧
    taken nearby generous mute blank 0 .fetchKeys (.engaged ⟨"ada@example.org", "u", true, "s", "f", .zero⟩) =
        (⟨.engaged, .cohabiting, .fetchKeys, .progress, ""⟩, .cohabiting k) ∧
    taken nearby generous mute blank 0 .signCertificate (.cohabiting k) =
        (⟨.cohabiting, .married, .signCertificate, .progress, ""⟩, .married ⟨k, "x"⟩) := by
  obtain ⟨hkeys, hcertificate⟩ := step_lands nearby generous mute blank 0
  have htells {keys : Provider.KeysResponse} :
      Json.TextTells Provider.TellsKeys (Login.documented 200 (.object bothKeys)).text keys ↔
        keys = ⟨Key32.zero.hex, Key32.zero.hex⟩ := by
    have hwhole : Json.Whole (.object bothKeys) := ⟨trivial, trivial, trivial, trivial⟩
    rw [textTells_documented hwhole, ← Provider.KeysResponse.read_eq_some_iff, eq_comm]
    exact Option.some_inj
  have htold {answer : Provider.CertificateResponse} : Json.TextTells Provider.TellsCertificate
      (Login.documented 200 (.object [("cert", .string "x")])).text answer ↔ answer = ⟨"x"⟩ := by
    have hwhole : Json.Whole (.object [("cert", .string "x")]) := ⟨trivial, trivial⟩
    rw [textTells_documented hwhole, ← Provider.CertificateResponse.read_eq_some_iff, eq_comm]
    exact Option.some_inj
  have hwritten : Key32.Written Key32.zero.hex := Key32.exists_ofHex?_iff.mp ⟨_, Key32.ofHex?_hex _⟩
  have hfetched := hkeys ⟨"ada@example.org", "u", true, "s", "f", .zero⟩ rfl
  obtain ⟨account, haccount⟩ : ∃ account, Login.withKeys ⟨"ada@example.org", "u", true, "s", "f", .zero⟩
      ⟨Key32.zero.hex, Key32.zero.hex⟩ = .ok account := Login.exists_withKeys_iff.mpr ⟨hwritten, hwritten⟩
  have hreply : reply? nearby generous blank (.fetchKeys "f") = some (Login.documented 200 (.object bothKeys)) := rfl
  rw [hreply] at hfetched
  obtain ⟨_, ⟨hread, -, -, hsourced⟩, hcohabiting⟩ := hfetched.exists_reached rfl
    (.intro (htells.mpr rfl) hwritten hwritten (Login.sourced_of_withKeys haccount default))
  rename_i keys pair k
  obtain rfl := htells.mp hread
  refine ⟨k, Option.some.inj (hsourced.kA.symm.trans (Key32.ofHex?_hex _)), hcohabiting, ?_⟩
  have hsigned := hcertificate k
  have htoken : k.sessionToken = "s" := hsourced.sessionToken
  rw [htoken] at hsigned
  have hanswer : reply? nearby generous blank (.signCertificate "s" k.keyPair.descriptor (clampMillis 0)) =
      some (Login.documented 200 (.object [("cert", .string "x")])) := rfl
  rw [hanswer] at hsigned
  obtain ⟨_, ⟨hcert, -⟩, hmarried⟩ := hsigned.exists_reached rfl (.intro (htold.mpr rfl) nofun)
  cases htold.mp hcert
  exact hmarried

end Attempt

end AccountSync
