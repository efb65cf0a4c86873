import AccountSync.Proofs.Attempt.Handoff
import AccountSync.Proofs.Storage.Session

/-!
The deadlines that stand after an attempt, over a store that may fail and at any times. Main statement:
`deadlines_stand`, that no deadline is earlier after an attempt than before it, or gone, but for the one of the storage
host that was the last before, where the token of this attempt tells another host.
-/

set_option autoImplicit false
set_option relaxedAutoImplicit false

namespace AccountSync.Attempt

open Dialogue

/-- Whatever is on record and whatever fails, a stage takes no deadline back. -/
abbrev Upholds {α : Type} (d : Talk α) : Prop := Leads Reads Ledger.Upheld d

/-- The deadline of a purpose is the one of the storage host on record before, and a token that was granted tells
another host. -/
def Replaced (p : Ledger.Purpose) (s : Ledger.State) (xs : Exchanges) : Prop :=
  ∃ previous token endpoint, s.text Ledger.lastHostKey = some previous ∧ p = .storage previous ∧ token ∈ grants xs ∧
    Url.parse token.endpoint = .ok endpoint ∧ Ledger.sameHost previous (storageHost endpoint) = false

section Stages

variable {α β : Type} {parts : List Part}

private theorem upholds_pure (a : α) : Upholds (pure a : Talk α) := leads_pure Ledger.Upheld.refl a

private theorem upholds_bind {d : Talk α} {f : α → Talk β} (hd : Upholds d) (hf : ∀ a, Upholds (f a)) :
    Upholds (d >>= f) :=
  leads_bind Ledger.Upheld.trans hd hf

private theorem upholds_books {d : Ledger.Talk α} (hd : Ledger.Upholds d) : Upholds (books d) := by
  intro s ms a s' h
  obtain ⟨ns, _, hns⟩ := reads_books h
  exact hd _ _ _ _ hns

private theorem upholds_quiet {d : Ledger.Talk α} (hd : d.Asks Ledger.Question.Quiet) : Upholds (books d) :=
  upholds_books (Ledger.upholds_of_quiet hd)

private theorem Reads.eq_of_part {s s' : Ledger.State} {x : Exchange Question.Answer} (h : Reads s x s')
    (hx : x.question.part ≠ .ledger) : s' = s := by
  obtain ⟨q, a⟩ := x
  cases q with
  | ledger q => exact (hx rfl).elim
  | account call => exact h
  | notice event => exact h
  | work duration => exact h
  | party q => exact h

private theorem upholds_of_within {d : Talk α} (hd : d.Asks (Within parts)) (hp : .ledger ∉ parts) : Upholds d := by
  intro s ms a s' h
  refine h.2.keeps Ledger.Upheld.refl Ledger.Upheld.trans fun t m hm hr => ?_
  have hpart : m.exchange.question.part ∈ parts := hd.of_course h.1 m.exchange (List.mem_map_of_mem hm)
  have hne : m.exchange.question.part ≠ .ledger := fun he => hp (he ▸ hpart)
  rw [hr.eq_of_part hne]
  exact .refl _

private theorem upholds_question {q : Question} (hq : q.part ≠ .ledger) : Upholds (question q : Talk q.Answer) :=
  upholds_of_within (asks_question.mpr (List.mem_singleton.mpr rfl)) fun h => hq (List.mem_singleton.mp h).symm

private theorem upholds_party (q : Party.Question) : Upholds (party q) := by
  refine upholds_question ?_
  cases q <;> exact nofun

private theorem upholds_gate (p : Ledger.Purpose) (forced : Bool) : Upholds (gate p forced) := by
  refine upholds_bind (upholds_quiet (Ledger.asks_mayProceed p forced)) fun free => ?_
  cases free with
  | error e => exact upholds_pure _
  | ok free =>
    cases free with
    | true => exact upholds_pure _
    | false =>
      refine upholds_bind (upholds_quiet (Ledger.asks_remaining p)) fun left => ?_
      cases left <;> exact upholds_pure _

private theorem upholds_login (t : Login.Talk α) : Upholds (login t) := by
  refine leads_translate Ledger.Upheld.refl Ledger.Upheld.trans (fun q => ?_) t
  cases q with
  | now => exact upholds_quiet Ledger.asks_now
  | ask r => exact upholds_party _
  | keyPair => exact upholds_bind (upholds_party _) fun _ => upholds_pure _
  | report t state => exact upholds_pure _
  | final state => exact upholds_pure _

private theorem upholds_noteClock (c : Client) (server : Option Instant) : Upholds (noteClock c server) := by
  cases server with
  | none => exact upholds_pure _
  | some now => exact upholds_bind (upholds_quiet (Ledger.asks_observeClock _ _)) fun _ => upholds_pure _

private theorem upholds_noteBackoff (delay : Option Nat) : Upholds (noteBackoff delay) := by
  cases delay with
  | none => exact upholds_pure _
  | some d =>
    refine upholds_bind (upholds_books (Ledger.upholds_extend _ d)) fun _ => ?_
    exact upholds_bind (upholds_books (Ledger.upholds_extend _ d)) fun _ => upholds_pure _

private theorem upholds_settle (c : Client) (assertion : String) (r : TokenServer.Response) :
    Upholds (settle c assertion r) := by
  rw [settle_eq]
  refine upholds_bind (upholds_noteClock c _) fun _ => upholds_bind (upholds_noteBackoff _) fun _ => ?_
  exact upholds_of_within (asks_verdict c assertion r) (by decide)

private theorem upholds_fetchToken (c : Client) (m : Married) : Upholds (fetchToken c m) := by
  rw [fetchToken_eq]
  refine upholds_bind (upholds_quiet (Ledger.asks_adjustedNow _)) fun issuedAt => ?_
  cases m.generateAssertion c.audience issuedAt (seconds c.config.assertionDuration.toNat) with
  | error e => exact upholds_pure _
  | ok assertion =>
    refine upholds_bind (upholds_of_within (asks_diagnoseIf _ c assertion) (by decide)) fun _ => ?_
    refine upholds_bind (upholds_party _) fun answer => ?_
    cases answer with
    | error e => exact upholds_pure _
    | ok response => exact upholds_settle c assertion response

private theorem upholds_perform (x : Storage.Session) (step : Storage.Step) : Upholds (perform x step) := by
  cases step with
  | observe status headers => exact upholds_books (x.upholds_observe status headers)
  | requestBackoff delay => exact upholds_books (x.upholds_requestBackoff delay)
  | shouldBackOff => exact upholds_books x.upholds_shouldBackOff
  | work duration => exact upholds_question nofun

private theorem upholds_drive (x : Storage.Session) (plan : Storage.Plan) : Upholds (drive x plan) := by
  refine leads_translate Ledger.Upheld.refl Ledger.Upheld.trans (fun step => ?_) plan
  exact upholds_bind (upholds_perform x step) fun answer => upholds_bind (upholds_party _) fun _ => upholds_pure _

end Stages

section Attempt

variable {c : Client} {initial : Account} {m : Married} {token : TokenServer.Token} {forced : Bool}
  {extras : SyncExtras} {s s' t : Ledger.State} {ms ns : Moments Ledger.State} {r : SyncOutcome} {p : Ledger.Purpose}
  {xs ys : Exchanges}

/-- With a token a deadline stands, or it is the one of a host before that the token does not tell. -/
theorem stands_of_syncStorage (h : Runs Reads s (syncStorage c m token forced) ms r s') (p : Ledger.Purpose) :
    Ledger.Stands p s s' ∨ ∃ previous endpoint, s.text Ledger.lastHostKey = some previous ∧
      Url.parse token.endpoint = .ok endpoint ∧ Ledger.sameHost previous (storageHost endpoint) = false ∧
      p = .storage previous := by
  -- What comes after the switch of hosts takes no deadline back.
  have hswitched : ∀ {endpoint : Url} {changed : Except SyncError Bool} {t : Ledger.State} {ns : Moments Ledger.State},
      Url.parse token.endpoint = .ok endpoint →
      Runs Reads s (books (Ledger.switchHost (storageHost endpoint))) ns changed t → Ledger.Upheld t s' →
      Ledger.Stands p s s' ∨ ∃ previous endpoint, s.text Ledger.lastHostKey = some previous ∧
        Url.parse token.endpoint = .ok endpoint ∧ Ledger.sameHost previous (storageHost endpoint) = false ∧
        p = .storage previous := by
    intro endpoint changed t ns hparse hswitch hts
    obtain ⟨ks, _, hks⟩ := reads_books hswitch
    rcases Ledger.stands_or_switched hks p with hst | ⟨previous, hprevious, hdiffers, rfl⟩
    · exact .inl (hst.trans (hts.stands p))
    · exact .inr ⟨previous, endpoint, hprevious, hparse, hdiffers, rfl⟩
  cases handing_of_runs h with
  | unreadable _ => exact .inl (Ledger.stands_of_text rfl)
  | unswitched hparse hswitch => exact hswitched hparse hswitch (.refl s')
  | gated hparse hswitch hgate => exact hswitched hparse hswitch (upholds_gate _ _ _ _ _ _ hgate)
  | @started t u v w x _ _ _ _ _ _ _ _ _ _ _ _ hparse hswitch hgate hskew hmove hdrive hend =>
    obtain rfl : w = v := hmove
    have htu : Ledger.Upheld t u := upholds_gate _ _ _ _ _ _ hgate
    have huw : Ledger.Upheld u w := upholds_quiet (Ledger.asks_skew _) _ _ _ _ hskew
    have hwx : Ledger.Upheld w x := upholds_drive _ _ _ _ _ _ hdrive
    have hxs : Ledger.Upheld x s' := upholds_of_within (asks_conclude c m _) (by decide) _ _ _ _ hend
    have huv := Ledger.Upheld.trans _ _ _ htu huw
    have hrest := Ledger.Upheld.trans _ _ _ hwx hxs
    exact hswitched hparse hswitch (.trans _ _ _ huv hrest)

private theorem stands_of_upheld (hst : Ledger.Upheld s t) (h : Ledger.Stands p t s' ∨ Replaced p t ys)
    (xs : Exchanges) : Ledger.Stands p s s' ∨ Replaced p s (xs ++ ys) := by
  rcases h with hts | ⟨previous, token, endpoint, hprevious, hp, htoken, hhost⟩
  · exact .inl ((hst.stands p).trans hts)
  · refine .inr ⟨previous, token, endpoint, hst.lastHost.symm.trans hprevious, hp, ?_, hhost⟩
    rw [grants_append]
    exact List.mem_append_right _ htoken

private theorem stands_of_syncMarried (h : Runs Reads s (syncMarried c initial m forced) ms r s') (p : Ledger.Purpose) :
    Ledger.Stands p s s' ∨ Replaced p s (exchangesOf ms) := by
  cases trading_of_runs h with
  | @accepted t u v _ xs ys zs us token _ hfetch hpersist hclear hstorage =>
    have hst : Ledger.Upheld s t := upholds_fetchToken c m _ _ _ _ hfetch
    have htu : Ledger.Upheld t u := upholds_of_within (asks_persist _ _) (by decide) _ _ _ _ hpersist
    have huv : Ledger.Upheld u v := upholds_of_within (asks_notice _) (by decide) _ _ _ _ hclear
    have hsv := Ledger.Upheld.trans _ _ _ hst (.trans _ _ _ htu huv)
    rcases stands_of_syncStorage hstorage p with hvs | ⟨previous, endpoint, hprevious, hparse, hdiffers, hp⟩
    · exact .inl ((hsv.stands p).trans hvs)
    · refine .inr ⟨previous, token, endpoint, hsv.lastHost.symm.trans hprevious, hp, ?_, hparse, hdiffers⟩
      have hgrants : grants (exchangesOf xs) = [token] := grants_of_fetchToken hfetch
      rw [exchangesOf_append, grants_append, hgrants]
      exact List.mem_append_left _ (List.mem_singleton_self token)
  | @rejected t u _ _ _ _ _ hfetch hpersist hnotice =>
    have hst : Ledger.Upheld s t := upholds_fetchToken c m _ _ _ _ hfetch
    have htu : Ledger.Upheld t u := upholds_of_within (asks_persist _ _) (by decide) _ _ _ _ hpersist
    have hus : Ledger.Upheld u s' := upholds_of_within (asks_notice _) (by decide) _ _ _ _ hnotice
    exact .inl ((hst.stands p).trans ((htu.stands p).trans (hus.stands p)))
  | @failed t _ _ _ _ hfetch hpersist =>
    have hst : Ledger.Upheld s t := upholds_fetchToken c m _ _ _ _ hfetch
    have hts : Ledger.Upheld t s' := upholds_of_within (asks_persist _ _) (by decide) _ _ _ _ hpersist
    exact .inl ((hst.stands p).trans (hts.stands p))

private theorem stands_of_syncAccount (h : Runs Reads s (syncAccount c initial forced) ms r s') (p : Ledger.Purpose) :
    Ledger.Stands p s s' ∨ Replaced p s (exchangesOf ms) := by
  cases syncing_of_runs h with
  | married hlogin _ hmarried =>
    rw [exchangesOf_append]
    exact stands_of_upheld (upholds_login _ _ _ _ _ hlogin) (stands_of_syncMarried hmarried p) _
  | @short t u v _ _ _ _ _ _ _ hlogin _ hinterval hpersist hnot =>
    have hst : Ledger.Upheld s t := upholds_login _ _ _ _ _ hlogin
    have htu : Ledger.Upheld t u := upholds_of_within (asks_requestInterval _) (by decide) _ _ _ _ hinterval
    have huv : Ledger.Upheld u v := upholds_of_within (asks_persist _ _) (by decide) _ _ _ _ hpersist
    have hvs : Ledger.Upheld v s' := upholds_of_within (asks_notMarried _) (by decide) _ _ _ _ hnot
    exact .inl (((hst.stands p).trans (htu.stands p)).trans ((huv.stands p).trans (hvs.stands p)))

private theorem stands_of_proceed (h : Runs Reads s (proceed c forced) ms r s') (p : Ledger.Purpose) :
    Ledger.Stands p s s' ∨ Replaced p s (exchangesOf ms) := by
  cases proceeding_of_runs h with
  | @failed t _ _ _ _ hkept hload =>
    obtain rfl : s' = t := hload
    exact .inl ((upholds_books (Ledger.upholds_extend _ _) _ _ _ _ hkept).stands p)
  | @missing t _ _ _ hkept hload =>
    obtain rfl : s' = t := hload
    exact .inl ((upholds_books (Ledger.upholds_extend _ _) _ _ _ _ hkept).stands p)
  | @loaded t u _ xs ys _ initial _ hkept hload hsync =>
    obtain rfl : u = t := hload
    have hst : Ledger.Upheld s u := upholds_books (Ledger.upholds_extend _ _) _ _ _ _ hkept
    rw [exchangesOf_append, exchangesOf_cons, List.append_cons]
    exact stands_of_upheld hst (stands_of_syncAccount hsync p) _

private theorem stands_of_run (h : Runs Reads s (AccountSync.Attempt.run c extras) ms r s') (p : Ledger.Purpose) :
    Ledger.Stands p s s' ∨ Replaced p s (exchangesOf ms) := by
  cases attempting_of_runs h with
  | early hfirst => exact .inl ((upholds_gate _ _ _ _ _ _ hfirst).stands p)
  | deferred hfirst hsecond =>
    have hst := upholds_gate _ _ _ _ _ _ hfirst
    have hts := upholds_gate _ _ _ _ _ _ hsecond
    exact .inl ((hst.stands p).trans (hts.stands p))
  | proceeds hfirst hsecond hproceed =>
    have hsu := Ledger.Upheld.trans _ _ _ (upholds_gate _ _ _ _ _ _ hfirst) (upholds_gate _ _ _ _ _ _ hsecond)
    rw [← List.append_assoc, exchangesOf_append]
    exact stands_of_upheld hsu (stands_of_proceed hproceed p) _

private theorem stands_of_lasting (hp : Ledger.Lasting p) (h : Ledger.Stands p s s' ∨ Replaced p s xs) :
    Ledger.Stands p s s' := by
  refine h.resolve_right ?_
  rintro ⟨previous, _, _, _, rfl, _⟩
  exact hp previous rfl

private theorem grants_of_syncMarried (h : Runs Reads s (syncMarried c initial m forced) ms r s') :
    ∃ granted : Option TokenServer.Token, grants (exchangesOf ms) = granted.toList := by
  have hsaved : ∀ {t u : Ledger.State} {ns : Moments Ledger.State} {state : Account},
      Runs Reads t (persist initial state) ns () u → grants (exchangesOf ns) = [] :=
    fun hpersist => grants_of_within (within_of_runs hpersist (asks_persist _ _)) (by decide)
  have htold : ∀ {t u : Ledger.State} {ns : Moments Ledger.State} {event : Notice.Event},
      Runs Reads t (notice event) ns () u → grants (exchangesOf ns) = [] :=
    fun hnotice => grants_of_within (within_of_runs hnotice (asks_notice _)) (by decide)
  cases trading_of_runs h with
  | @accepted _ _ _ _ _ _ _ _ token _ hfetch hpersist hclear hstorage =>
    have hsynced := grants_of_within (within_of_runs hstorage (asks_syncStorage _ _ _ _)) (by decide)
    refine ⟨some token, ?_⟩
    rw [exchangesOf_append, exchangesOf_append, exchangesOf_append, grants_append, grants_append, grants_append,
      grants_of_fetchToken hfetch, hsaved hpersist, htold hclear, hsynced]
    rfl
  | rejected hfetch hpersist hnotice =>
    refine ⟨none, ?_⟩
    rw [exchangesOf_append, exchangesOf_append, grants_append, grants_append, grants_of_fetchToken hfetch,
      hsaved hpersist, htold hnotice]
    rfl
  | failed hfetch hpersist =>
    refine ⟨none, ?_⟩
    rw [exchangesOf_append, grants_append, grants_of_fetchToken hfetch, hsaved hpersist]
    rfl

private theorem grants_of_run (h : Runs Reads s (AccountSync.Attempt.run c extras) ms r s') :
    ∃ granted : Option TokenServer.Token, grants (exchangesOf ms) = granted.toList := by
  cases arriving_of_runs h with
  | idle hidle => exact ⟨none, grants_of_within (within_of_idle hidle) (by decide)⟩
  | @loaded t u _ xs ys initial _ hopen hload hsync =>
    have hopened := grants_of_within (within_to_load hopen initial) (by decide)
    rw [exchangesOf_append, exchangesOf_cons, List.append_cons, grants_append, hopened, List.nil_append]
    cases syncing_of_runs hsync with
    | married hlogin _ hmarried =>
      have hlogged := grants_of_within (within_of_runs hlogin asks_login) (by decide)
      rw [exchangesOf_append, grants_append, hlogged, List.nil_append]
      exact grants_of_syncMarried hmarried
    | short hlogin _ hinterval hpersist hnot =>
      have hlogged := grants_of_within (within_of_runs hlogin asks_login) (by decide)
      have hasked := grants_of_within (within_of_runs hinterval (asks_requestInterval _)) (by decide)
      have hsaved := grants_of_within (within_of_runs hpersist (asks_persist _ _)) (by decide)
      have htold := grants_of_within (within_of_runs hnot (asks_notMarried _)) (by decide)
      refine ⟨none, ?_⟩
      rw [exchangesOf_append, exchangesOf_append, exchangesOf_append, grants_append, grants_append, grants_append,
        hlogged, hasked, hsaved, htold]
      rfl

end Attempt

/-- Whatever is on record before an attempt, whatever fails and whatever the engine does with its session: the
deadlines of the scheduler and the token server, and of any host that the token tells, are on record afterwards and no
earlier, and so is every other deadline but that of the storage host that was the last before, which may be gone if the
token tells another. -/
theorem deadlines_stand (c : Client) (extras : SyncExtras) {s s' : Ledger.State} {ms : Moments Ledger.State}
    {r : SyncOutcome} (h : Runs Reads s (run c extras) ms r s') :
    Ledger.Stands .scheduler s s' ∧ Ledger.Stands .tokenServer s s' ∧
    (∀ token ∈ grants (exchangesOf ms), ∀ endpoint, Url.parse token.endpoint = .ok endpoint →
      Ledger.Stands (.storage (storageHost endpoint)) s s') ∧
    ∀ p, Ledger.Stands p s s' ∨ Replaced p s (exchangesOf ms) := by
  have hall := stands_of_run h
  refine ⟨stands_of_lasting Ledger.lasting_scheduler (hall _), stands_of_lasting Ledger.lasting_tokenServer (hall _),
    ?_, hall⟩
  intro token htoken endpoint hparse
  refine (hall _).resolve_right ?_
  rintro ⟨previous, token', endpoint', _, hp, htoken', hparse', hdiffers⟩
  -- There is one token, so the host that it tells is not another one.
  obtain ⟨granted, hgrants⟩ := grants_of_run h
  rw [hgrants, Option.mem_toList] at htoken htoken'
  cases htoken.symm.trans htoken'
  cases hparse.symm.trans hparse'
  have hsame : Ledger.sameHost previous (storageHost endpoint) = true :=
    Ledger.sameHost_of_deadlineKey (congrArg Ledger.deadlineKey hp.symm)
  rw [hdiffers] at hsame
  cases hsame

def delaying : Others Unit := fun q now s =>
  match q with
  | .startEngine _ => (Storage.Plan.ofSteps [.requestBackoff 20000] (.success 0), 0, s)
  | q => granting q now s

/-- A married account, and a ledger with deadlines that have not come, also of the storage host before. -/
def pressed : World Unit :=
  { elsewhere with
    ledger := ⟨1000000, ⟨[(Ledger.deadlineKey .scheduler, "9000000"),
      (Ledger.deadlineKey (.storage "[2001:db8::7]"), "1010000"),
      (Ledger.deadlineKey (.storage "old.example.org"), "9000000"), (Ledger.deadlineKey .tokenServer, "8000000"),
      (Ledger.lastHostKey, "old.example.org")], []⟩, []⟩ }

theorem deadlines_stand_pressed :
    ∃ ms r s', Runs Reads pressed.ledger (run ⟨{}, "a", "t"⟩ ⟨true⟩) ms r s' ∧
      Replaced (.storage "old.example.org") pressed.ledger (exchangesOf ms) ∧
      s'.deadline? (.storage "old.example.org") = none ∧
      (∃ d, s'.deadline? .scheduler = some d ∧ 9000000 ≤ d) ∧
      (∃ d, s'.deadline? .tokenServer = some d ∧ 8000000 ≤ d) ∧
      ∃ d, s'.deadline? (.storage "[2001:db8::7]") = some d ∧ 1010000 ≤ d := by
  have hshows : Shows pressed.ledger pressed := ⟨rfl, rfl⟩
  obtain ⟨ms, s', hr, hx, hs', _⟩ := exists_runs_reads delaying (run ⟨{}, "a", "t"⟩ ⟨true⟩) hshows
  obtain ⟨hscheduler, htoken, htold, hall⟩ := deadlines_stand _ _ hr
  have hgone : s'.deadline? (.storage "old.example.org") = none := by
    unfold Ledger.State.deadline? Ledger.State.text
    rw [hs']
    decide +kernel
  have hgrants : (grants (exchangesOf ms)).map TokenServer.Token.endpoint = ["https://[2001:db8::7]/1.5/7"] := by
    rw [hx]
    decide +kernel
  obtain ⟨token, hone, hendpoint⟩ := List.map_eq_singleton_iff.mp hgrants
  have hmem : token ∈ grants (exchangesOf ms) := hone ▸ List.mem_singleton_self token
  obtain ⟨endpoint, hparse, hhost⟩ :
      ∃ endpoint, Url.parse token.endpoint = .ok endpoint ∧ storageHost endpoint = "[2001:db8::7]" := by
    rw [hendpoint]
    exact ⟨_, rfl, by decide +kernel⟩
  refine ⟨ms, _, s', hr, ?_, hgone, ?_, ?_, ?_⟩
  · refine (hall (.storage "old.example.org")).resolve_left ?_
    intro hstands
    obtain ⟨d, hd, _⟩ := hstands 9000000 (by decide +kernel)
    rw [hgone] at hd
    cases hd
  · exact hscheduler 9000000 (by decide +kernel)
  · exact htoken 8000000 (by decide +kernel)
  · have hnew := htold token hmem endpoint hparse
    rw [hhost] at hnew
    exact hnew 1010000 (by decide +kernel)

end AccountSync.Attempt
