import AccountSync.Proofs.Attempt.Records

/-!
What an attempt hands over to the storage engine, and when. Main statement: `engine_handed_over`, that the engine is
started at most once, with the credentials that this attempt got for a married account, at a host that is on record
by then and whose deadline has come; a deadline that has not postpones the attempt instead.
-/

set_option autoImplicit false
set_option relaxedAutoImplicit false

namespace AccountSync.Attempt

open Dialogue

def start? : Exchange Question.Answer → Option Storage.Session
  | ⟨.party (.startEngine session), _⟩ => some session
  | _ => none

def Question.IsStart (q : Question) : Prop := ∃ session, q = .party (.startEngine session)

def starts (xs : Exchanges) : List Storage.Session := xs.filterMap start?

def grant? : Exchange Question.Answer → Option TokenServer.Token
  | ⟨.party (.exchange ..), .ok response⟩ => response.result.toOption
  | _ => none

def grants (xs : Exchanges) : List TokenServer.Token := xs.filterMap grant?

def storageHost (endpoint : Url) : String := Text.LetterCase.lowerAscii (endpoint.host?.getD "")

/-- What the engine is handed over for a token of a married account: what is on record then, compared with what was
before, and the session. -/
structure HandedOver (s : Ledger.State) (m : Married) (token : TokenServer.Token) (forced : Bool)
    (session : Storage.Session) (u : Ledger.State) : Prop where
  endpoint : Url.parse token.endpoint = .ok session.endpoint
  switched : Ledger.Switched s session.host u
  due : forced = false →
    ∀ d, Ledger.readDeadline (u.text (Ledger.deadlineKey (.storage session.host))) = some d → d ≤ u.clock
  uid : session.uid = token.uid
  signer : session.signer = ⟨token.id, Text.Utf8.bytes token.key, u.skew session.host⟩
  keyBundle : session.keyBundle = KeyBundle.derive m.account.kB
  forced : session.forced = forced

/-- The engine is not started: with a token that tells an endpoint the attempt waits for the storage host. -/
structure Withheld (forced : Bool) (xs : Exchanges) (r : SyncOutcome) (s' : Ledger.State) : Prop where
  unstarted : starts xs = []
  postponed : ∀ token ∈ grants xs, ∀ endpoint, Url.parse token.endpoint = .ok endpoint →
    Postponed (.storage (storageHost endpoint)) forced xs r s'

structure Silent (xs : Exchanges) : Prop where
  ungranted : grants xs = []
  unstarted : starts xs = []

section Exchanges

variable {xs ys : Exchanges} {parts : List Part}

theorem starts_append : starts (xs ++ ys) = starts xs ++ starts ys := List.filterMap_append

theorem grants_append : grants (xs ++ ys) = grants xs ++ grants ys := List.filterMap_append

private theorem isStart_of_start? {x : Exchange Question.Answer} {session : Storage.Session}
    (h : start? x = some session) : x.question.IsStart := by
  unfold start? at h
  split at h
  · exact ⟨_, rfl⟩
  · cases h

private theorem part_of_start? {x : Exchange Question.Answer} {session : Storage.Session}
    (h : start? x = some session) : x.question.part = .engine := by
  obtain ⟨session, hq⟩ := isStart_of_start? h
  rw [hq]
  rfl

private theorem part_of_grant? {x : Exchange Question.Answer} {token : TokenServer.Token} (h : grant? x = some token) :
    x.question.part = .token := by
  unfold grant? at h
  split at h
  · rfl
  · cases h

private theorem starts_of_within (h : ∀ x ∈ xs, Within parts x.question) (hp : .engine ∉ parts) : starts xs = [] :=
  untold_of_within part_of_start? h hp

theorem grants_of_within (h : ∀ x ∈ xs, Within parts x.question) (hp : .token ∉ parts) : grants xs = [] :=
  untold_of_within part_of_grant? h hp

private theorem silent_of_within (h : ∀ x ∈ xs, Within parts x.question) (ht : .token ∉ parts) (he : .engine ∉ parts) :
    Silent xs :=
  ⟨grants_of_within h ht, starts_of_within h he⟩

private theorem Silent.append (hx : Silent xs) (hy : Silent ys) : Silent (xs ++ ys) := by
  refine ⟨?_, ?_⟩
  · rw [grants_append, hx.ungranted, hy.ungranted]
    rfl
  · rw [starts_append, hx.unstarted, hy.unstarted]
    rfl

end Exchanges

section Ways

variable {σ : Type} (move : σ → Exchange Question.Answer → σ → Prop)

/-- The ways on with a token, by what stands between it and the engine. -/
inductive Handing (c : Client) (m : Married) (token : TokenServer.Token) (forced : Bool) :
    σ → Moments σ → SyncOutcome → σ → Prop
  | unreadable {s : σ} {f : Url.Fault} : Url.parse token.endpoint = .error f →
      Handing c m token forced s [] (.recoverable f.message) s
  | unswitched {s s' : σ} {xs : Moments σ} {endpoint : Url} {e : SyncError} :
      Url.parse token.endpoint = .ok endpoint →
      Runs move s (books (Ledger.switchHost (storageHost endpoint))) xs (.error e) s' →
      Handing c m token forced s xs (recoverable e) s'
  | gated {s t s' : σ} {xs ys : Moments σ} {endpoint : Url} {changed : Bool} {r : SyncOutcome} :
      Url.parse token.endpoint = .ok endpoint →
      Runs move s (books (Ledger.switchHost (storageHost endpoint))) xs (.ok changed) t →
      Runs move t (gate (.storage (storageHost endpoint)) forced) ys (some r) s' →
      Handing c m token forced s (xs ++ ys) r s'
  | started {s t u v w x s' : σ} {xs ys zs us vs : Moments σ} {endpoint : Url} {changed : Bool} {skew : Int}
      {plan : Storage.Plan} {o : Storage.Outcome} {r : SyncOutcome} :
      Url.parse token.endpoint = .ok endpoint →
      Runs move s (books (Ledger.switchHost (storageHost endpoint))) xs (.ok changed) t →
      Runs move t (gate (.storage (storageHost endpoint)) forced) ys none u →
      Runs move u (books (Ledger.skew (storageHost endpoint))) zs skew v →
      move v ⟨.party (.startEngine (session m token endpoint skew forced)), plan⟩ w →
      Runs move w (drive (session m token endpoint skew forced) plan) us o x →
      Runs move x (conclude c m o) vs r s' →
      Handing c m token forced s
        (xs ++ (ys ++ (zs ++
          ⟨⟨.party (.startEngine (session m token endpoint skew forced)), plan⟩, w⟩ :: (us ++ vs)))) r s'

variable {move} {c : Client} {m : Married} {token : TokenServer.Token} {forced : Bool} {s s' : σ} {ms : Moments σ}
  {r : SyncOutcome}

theorem handing_of_runs (h : Runs move s (syncStorage c m token forced) ms r s') :
    Handing move c m token forced s ms r s' := by
  unfold syncStorage at h
  split at h
  · rename_i f hf
    obtain ⟨rfl, rfl, rfl⟩ := runs_pure_iff.mp h
    exact .unreadable hf
  · rename_i endpoint hparse
    obtain ⟨xs, switched, t, rest, hswitch, hrest, rfl⟩ := runs_bind_iff.mp h
    cases switched with
    | error e =>
      obtain ⟨rfl, rfl, rfl⟩ := runs_pure_iff.mp hrest
      rw [List.append_nil]
      exact .unswitched hparse hswitch
    | ok changed =>
      obtain ⟨ys, gated, u, rest, hgate, hgo, rfl⟩ := runs_bind_iff.mp hrest
      cases gated with
      | some outcome =>
        obtain ⟨rfl, rfl, rfl⟩ := runs_pure_iff.mp hgo
        rw [List.append_nil]
        exact .gated hparse hswitch hgate
      | none =>
        obtain ⟨zs, skew, v, rest, hskew, hopen, rfl⟩ := runs_bind_iff.mp hgo
        dsimp only at hopen
        obtain ⟨ks, plan, w, rest, hstart, hsync, rfl⟩ := runs_bind_iff.mp hopen
        obtain ⟨rfl, hmove⟩ := runs_question_iff.mp hstart
        obtain ⟨us, o, x, vs, hdrive, hconclude, rfl⟩ := runs_bind_iff.mp hsync
        rw [List.singleton_append]
        exact .started hparse hswitch hgate hskew hmove hdrive hconclude

private theorem not_start_books {α : Type} (t : Ledger.Talk α) : (books t).Asks fun q => ¬ q.IsStart :=
  asks_translate (asks_any t) fun _ _ => asks_question.mpr nofun

theorem not_start_drive (x : Storage.Session) (plan : Storage.Plan) : (drive x plan).Asks fun q => ¬ q.IsStart := by
  refine asks_translate (asks_any plan) fun step _ => asks_bind ?_ fun answer => ?_
  · cases step with
    | observe status headers => exact not_start_books _
    | requestBackoff delay => exact not_start_books _
    | shouldBackOff => exact not_start_books _
    | work duration => exact asks_question.mpr nofun
  · exact asks_bind (asks_question.mpr nofun) fun _ => trivial

private theorem starts_of_drive {x : Storage.Session} {plan : Storage.Plan} {o : Storage.Outcome}
    (h : Runs move s (drive x plan) ms o s') : starts (exchangesOf ms) = [] := by
  refine List.filterMap_eq_nil_iff.mpr fun y hy => Option.eq_none_iff_forall_ne_some.mpr fun session hs => ?_
  exact (not_start_drive x plan).of_course h.1 y hy (isStart_of_start? hs)

private theorem grant?_of_settle {assertion : String} {response : TokenServer.Response}
    {a : Except TokenFailure TokenServer.Token} (h : Runs move s (settle c assertion response) ms a s') :
    grant? ⟨.party (.exchange assertion m.clientState), .ok response⟩ = a.toOption := by
  rw [result_of_settle h]
  unfold grant?
  dsimp only
  cases response.result with
  | ok token => rfl
  | error e => rfl

theorem grants_of_fetchToken {a : Except TokenFailure TokenServer.Token} (h : Runs move s (fetchToken c m) ms a s') :
    grants (exchangesOf ms) = a.toOption.toList := by
  cases exchanging_of_runs h with
  | unmade hnow _ => exact grants_of_within (within_of_runs hnow (asks_books _)) (by decide)
  | unanswered hnow _ hdiagnose _ =>
    have hbooks := grants_of_within (within_of_runs hnow (asks_books _)) (by decide)
    have hverify := grants_of_within (within_of_runs hdiagnose (asks_diagnoseIf _ _ _)) (by decide)
    rw [exchangesOf_append, exchangesOf_append, grants_append, grants_append, hbooks, hverify]
    rfl
  | answered hnow _ hdiagnose _ hsettle =>
    have hbooks := grants_of_within (within_of_runs hnow (asks_books _)) (by decide)
    have hverify := grants_of_within (within_of_runs hdiagnose (asks_diagnoseIf _ _ _)) (by decide)
    have hnote := grants_of_within (within_of_runs hsettle (asks_settle _ _ _)) (by decide)
    have hgrant := grant?_of_settle (m := m) hsettle
    rw [exchangesOf_append, exchangesOf_append, exchangesOf_cons, grants_append, grants_append, hbooks, hverify,
      ← List.singleton_append, grants_append, hnote, List.append_nil, ← hgrant]
    rfl

end Ways

section Records

variable {c : Client} {initial : Account} {m : Married} {token : TokenServer.Token} {forced : Bool}
  {s s' t : Ledger.State} {ms ns : Moments Ledger.State} {r : SyncOutcome}

private theorem HandedOver.congr {session : Storage.Session} {u : Ledger.State}
    (h : HandedOver t m token forced session u)
    (hst : Ledger.SameRecords s t) : HandedOver s m token forced session u :=
  { h with switched := h.switched.congr hst rfl }

/-- With a token the engine is started, or not because the storage host has a deadline that has not come, or the
token tells no endpoint. -/
theorem handed_of_syncStorage (hw : s.Working) (h : Runs Reads s (syncStorage c m token forced) ms r s') :
    (starts (exchangesOf ms) = [] ∧ ∀ endpoint, Url.parse token.endpoint = .ok endpoint →
      Postponed (.storage (storageHost endpoint)) forced (exchangesOf ms) r s') ∨
    ∃ xs session plan u ys, ms = xs ++ ⟨⟨.party (.startEngine session), plan⟩, u⟩ :: ys ∧
      starts (exchangesOf xs) = [] ∧ starts (exchangesOf ys) = [] ∧ HandedOver s m token forced session u := by
  cases handing_of_runs h with
  | unreadable hparse =>
    refine .inl ⟨rfl, ?_⟩
    intro endpoint hp
    cases hparse.symm.trans hp
  | unswitched _ hswitch =>
    obtain ⟨ns, _, hns⟩ := reads_books hswitch
    obtain ⟨⟨changed, hok⟩, _⟩ := Ledger.switched_of_reads hw hns
    cases hok
  | @gated t _ xs ys endpoint changed _ hparse hswitch hgate =>
    obtain ⟨ns, _, hns⟩ := reads_books hswitch
    obtain ⟨_, ht, _⟩ := Ledger.switched_of_reads hw hns
    have hquiet := starts_of_within (within_of_runs hswitch (asks_books _)) (by decide)
    have hquiet' := starts_of_within (within_of_runs hgate (asks_gate _ _)) (by decide)
    refine .inl ⟨?_, ?_⟩
    · rw [exchangesOf_append, starts_append, hquiet, hquiet']
      rfl
    · intro endpoint' hp
      cases hparse.symm.trans hp
      rw [exchangesOf_append]
      exact (gated_of_reads ht hgate).2.prepend _
  | @started t u v w x _ xs ys zs us vs endpoint changed skew plan o _ hparse hswitch hgate hskew hmove hdrive hend =>
    obtain ⟨ns, _, hns⟩ := reads_books hswitch
    obtain ⟨_, ht, hswitched⟩ := Ledger.switched_of_reads hw hns
    obtain ⟨hstore, hgated⟩ := gated_of_reads ht hgate
    have hdue : forced = false → ∀ d,
        Ledger.readDeadline (t.text (Ledger.deadlineKey (.storage (storageHost endpoint)))) = some d → d ≤ u.clock :=
      hgated
    obtain ⟨ks, _, hks⟩ := reads_books hskew
    obtain ⟨hrecorded, rfl⟩ := Ledger.reads_skew hks
    obtain rfl : w = v := hmove
    have hquiet := starts_of_within (within_of_runs hswitch (asks_books _)) (by decide)
    have hquiet' := starts_of_within (within_of_runs hgate (asks_gate _ _)) (by decide)
    have hquiet'' := starts_of_within (within_of_runs hskew (asks_books _)) (by decide)
    have hconclude := starts_of_within (within_of_runs hend (asks_conclude _ _ _)) (by decide)
    refine .inr ⟨xs ++ (ys ++ zs), session m token endpoint skew forced, plan, w, us ++ vs, ?_, ?_, ?_, ?_⟩
    · rw [List.append_assoc, List.append_assoc]
    · rw [exchangesOf_append, exchangesOf_append, starts_append, starts_append, hquiet, hquiet', hquiet'']
      rfl
    · rw [exchangesOf_append, starts_append, starts_of_drive hdrive, hconclude]
      rfl
    · refine ⟨hparse, hswitched.congr (.refl s) hstore, ?_, rfl, ?_, rfl, rfl⟩
      · intro hf d hd
        refine hdue hf d ?_
        rw [← Ledger.text_of_store hstore]
        exact hd
      · have hhost : Text.LetterCase.lowerAscii (storageHost endpoint) = storageHost endpoint :=
          Ledger.lowerAscii_lowerAscii _
        rw [hhost] at hrecorded
        rw [hrecorded]
        rfl

/-- What an attempt does about the engine, seen from the records before it. -/
inductive Engaging (forced : Bool) (s : Ledger.State) (m : Married) :
    Moments Ledger.State → SyncOutcome → Ledger.State → Prop
  | withheld {ms : Moments Ledger.State} {r : SyncOutcome} {s' : Ledger.State} :
      Withheld forced (exchangesOf ms) r s' → Engaging forced s m ms r s'
  | started {xs ys : Moments Ledger.State} {session : Storage.Session} {plan : Storage.Plan} {u s' : Ledger.State}
      {token : TokenServer.Token} {r : SyncOutcome} : starts (exchangesOf xs) = [] → starts (exchangesOf ys) = [] →
      token ∈ grants (exchangesOf xs) → HandedOver s m token forced session u →
      Engaging forced s m (xs ++ ⟨⟨.party (.startEngine session), plan⟩, u⟩ :: ys) r s'

private theorem withheld_of_silent {xs : Exchanges} (h : Silent xs) : Withheld forced xs r s' := by
  refine ⟨h.unstarted, ?_⟩
  rw [h.ungranted]
  exact nofun

private theorem Withheld.prepend {xs ys : Exchanges} (h : Withheld forced ys r s') (hx : Silent xs) :
    Withheld forced (xs ++ ys) r s' := by
  refine ⟨?_, ?_⟩
  · rw [starts_append, hx.unstarted, h.unstarted]
    rfl
  · intro token ht endpoint hparse
    rw [grants_append, hx.ungranted, List.nil_append] at ht
    exact (h.postponed token ht endpoint hparse).prepend xs

private theorem silent_of_failure {failure : TokenFailure} (h : Runs Reads s (fetchToken c m) ms (.error failure) t) :
    Silent (exchangesOf ms) :=
  ⟨grants_of_fetchToken h, starts_of_within (within_of_runs h (asks_fetchToken c m)) (by decide)⟩

private theorem engaging_of_syncMarried (hw : s.Working) (h : Runs Reads s (syncMarried c initial m forced) ms r s') :
    Engaging forced s m ms r s' := by
  cases trading_of_runs h with
  | @accepted t u v _ xs ys zs us token _ hfetch hpersist hclear hstorage =>
    have hsame := sameRecords_of_asks hfetch (spares_fetchToken c m)
    have hsame' := sameRecords_of_asks hpersist (spares_of_within (asks_persist _ _) (by decide))
    have hsame'' := sameRecords_of_asks hclear (spares_of_within (asks_notice _) (by decide))
    have hst := hsame.trans (hsame'.trans hsame'')
    have hsaved := silent_of_within (within_of_runs hpersist (asks_persist _ _)) (by decide) (by decide)
    have hcleared := silent_of_within (within_of_runs hclear (asks_notice _)) (by decide) (by decide)
    have hstarts : starts (exchangesOf (xs ++ (ys ++ zs))) = [] := by
      have hquiet := starts_of_within (within_of_runs hfetch (asks_fetchToken c m)) (by decide)
      rw [exchangesOf_append, exchangesOf_append, starts_append, hquiet, (hsaved.append hcleared).unstarted]
      rfl
    have hgrants : grants (exchangesOf (xs ++ (ys ++ zs))) = [token] := by
      have htoken : grants (exchangesOf xs) = [token] := grants_of_fetchToken hfetch
      rw [exchangesOf_append, exchangesOf_append, grants_append, htoken, (hsaved.append hcleared).ungranted]
      rfl
    rw [← List.append_assoc ys, ← List.append_assoc xs]
    rcases handed_of_syncStorage (hst.working hw) hstorage with
      ⟨hnone, hpostponed⟩ | ⟨as, session, plan, w, bs, rfl, has, hbs, hover⟩
    · have hungranted := grants_of_within (within_of_runs hstorage (asks_syncStorage c m token forced)) (by decide)
      refine .withheld ⟨?_, ?_⟩
      · rw [exchangesOf_append, starts_append, hstarts, hnone]
        rfl
      · intro token' ht endpoint hparse
        rw [exchangesOf_append, grants_append, hgrants, hungranted, List.append_nil] at ht
        obtain rfl := List.mem_singleton.mp ht
        rw [exchangesOf_append]
        exact (hpostponed endpoint hparse).prepend _
    · rw [← List.append_assoc]
      refine .started ?_ hbs ?_ (hover.congr hst)
      · rw [exchangesOf_append, starts_append, hstarts, has]
        rfl
      · rw [exchangesOf_append, grants_append, hgrants]
        exact List.mem_append_left _ (List.mem_singleton_self token)
  | rejected hfetch hpersist hnotice =>
    have hsaved := silent_of_within (within_of_runs hpersist (asks_persist _ _)) (by decide) (by decide)
    have htold := silent_of_within (within_of_runs hnotice (asks_notice _)) (by decide) (by decide)
    refine .withheld (withheld_of_silent ?_)
    rw [exchangesOf_append, exchangesOf_append]
    exact (silent_of_failure hfetch).append (hsaved.append htold)
  | failed hfetch hpersist =>
    have hsaved := silent_of_within (within_of_runs hpersist (asks_persist _ _)) (by decide) (by decide)
    refine .withheld (withheld_of_silent ?_)
    rw [exchangesOf_append]
    exact (silent_of_failure hfetch).append hsaved

/-- An attempt over a store that works does not start the engine, or starts it once for the account that its login
run ended with. -/
theorem engaging_of_run {extras : SyncExtras} (hw : s.Working)
    (h : Runs Reads s (AccountSync.Attempt.run c extras) ms r s') :
    Withheld extras.forced (exchangesOf ms) r s' ∨
    ∃ xs session plan u ys, ms = xs ++ ⟨⟨.party (.startEngine session), plan⟩, u⟩ :: ys ∧
      starts (exchangesOf xs) = [] ∧ starts (exchangesOf ys) = [] ∧
      ∃ initial ls run m token, LoggedIn c initial ls run (exchangesOf xs) ∧ run.state = .married m ∧
        token ∈ grants (exchangesOf xs) ∧ HandedOver s m token extras.forced session u := by
  cases arriving_of_runs h with
  | idle hidle => exact .inl (withheld_of_silent (silent_of_within (within_of_idle hidle) (by decide) (by decide)))
  | @loaded t u _ xs ys initial _ hopen hload hsync =>
    have hsame := sameRecords_of_asks hopen (spares_opening c extras.forced)
    obtain rfl : u = t := hload
    have hopened := silent_of_within (within_to_load hopen initial) (by decide) (by decide)
    cases syncing_of_runs hsync with
    | @married _ _ as bs run m _ hlogin hm hmarried =>
      have hlogged := silent_of_within (within_of_runs hlogin asks_login) (by decide) (by decide)
      have hbefore := hopened.append hlogged
      -- Nothing up to the token writes what is on record about storage hosts.
      have hsame' := hsame.trans (sameRecords_of_asks hlogin (spares_login _))
      cases engaging_of_syncMarried (hsame'.working hw) hmarried with
      | withheld hwithheld =>
        left
        rw [exchangesOf_append, exchangesOf_cons, exchangesOf_append, List.append_cons, ← List.append_assoc]
        exact hwithheld.prepend hbefore
      | @started cs ds session plan w _ token _ hcs hds htoken hover =>
        obtain ⟨ls, hl⟩ := exists_loggedIn hopen hlogin cs
        have hsplit : exchangesOf (xs ++ ⟨⟨.account .load, .ok (some initial)⟩, u⟩ :: (as ++ cs)) =
            exchangesOf xs ++ [⟨.account .load, .ok (some initial)⟩] ++ exchangesOf as ++ exchangesOf cs := by
          rw [exchangesOf_append, exchangesOf_cons, exchangesOf_append, List.append_cons, ← List.append_assoc]
        refine .inr ⟨xs ++ ⟨⟨.account .load, .ok (some initial)⟩, u⟩ :: (as ++ cs), session, plan, w, ds, ?_, ?_, hds,
          initial, ls, run, m, token, hl, hm, ?_, hover.congr hsame'⟩
        · simp only [List.append_assoc, List.cons_append]
        · rw [hsplit, starts_append, hbefore.unstarted, hcs]
          rfl
        · rw [hsplit, grants_append]
          exact List.mem_append_right _ htoken
    | short hlogin _ hinterval hpersist hnot =>
      have hlogged := silent_of_within (within_of_runs hlogin asks_login) (by decide) (by decide)
      have hasked := silent_of_within (within_of_runs hinterval (asks_requestInterval _)) (by decide) (by decide)
      have hsaved := silent_of_within (within_of_runs hpersist (asks_persist _ _)) (by decide) (by decide)
      have htold := silent_of_within (within_of_runs hnot (asks_notMarried _)) (by decide) (by decide)
      left
      rw [exchangesOf_append, exchangesOf_cons, exchangesOf_append, exchangesOf_append, exchangesOf_append,
        List.append_cons]
      exact withheld_of_silent (hopened.append (hlogged.append (hasked.append (hsaved.append htold))))

private theorem not_mem_of_starts {session : Storage.Session} {plan : Storage.Plan} {u : Ledger.State}
    (h : starts (exchangesOf ms) = []) : ⟨⟨.party (.startEngine session), plan⟩, u⟩ ∉ ms := by
  intro hm
  have hnone : start? ⟨.party (.startEngine session), plan⟩ = none :=
    List.filterMap_eq_nil_iff.mp h _ (List.mem_map_of_mem hm)
  cases hnone

private theorem split_of_starts {session : Storage.Session} (h : session ∈ starts (exchangesOf ms)) :
    ∃ before plan u after, ms = before ++ ⟨⟨.party (.startEngine session), plan⟩, u⟩ :: after := by
  obtain ⟨x, hx, hs⟩ := List.mem_filterMap.mp h
  obtain ⟨⟨⟨q, a⟩, u⟩, hm, rfl⟩ := List.mem_map.mp hx
  unfold start? at hs
  split at hs
  · rename_i session' plan he
    cases hs
    cases he
    obtain ⟨before, after, hsplit⟩ := List.append_of_mem hm
    exact ⟨before, plan, u, after, hsplit⟩
  · cases hs

end Records

/-- Over a store that works an attempt starts the engine at most once, and then for an account that its own login
run left married and with a token that its own exchange was granted. It is handed that token, the keys of that
account, and a host that is on record by then, whose deadline has come unless the attempt was forced. Where the token
tells a host and the engine is not started, that is because of a deadline of that host, and the attempt is postponed
by what is left of it. -/
theorem engine_handed_over (c : Client) (extras : SyncExtras) {s s' : Ledger.State} {ms : Moments Ledger.State}
    {r : SyncOutcome} (hw : s.Working) (h : Runs Reads s (run c extras) ms r s') :
    (starts (exchangesOf ms)).length ≤ 1 ∧
    (∀ before session plan u after, ms = before ++ ⟨⟨.party (.startEngine session), plan⟩, u⟩ :: after →
      ∃ initial ls run m token, LoggedIn c initial ls run (exchangesOf before) ∧ run.state = .married m ∧
        token ∈ grants (exchangesOf before) ∧ HandedOver s m token extras.forced session u) ∧
    (starts (exchangesOf ms) = [] → ∀ token ∈ grants (exchangesOf ms), ∀ endpoint,
      Url.parse token.endpoint = .ok endpoint →
      Postponed (.storage (storageHost endpoint)) extras.forced (exchangesOf ms) r s') := by
  rcases engaging_of_run hw h with hwithheld | ⟨xs, session, plan, u, ys, rfl, hxs, hys, hengaged⟩
  · refine ⟨?_, ?_, fun _ => hwithheld.postponed⟩
    · rw [hwithheld.unstarted]
      exact Nat.zero_le 1
    · rintro before session plan u after rfl
      exact (not_mem_of_starts hwithheld.unstarted (List.mem_append_right _ List.mem_cons_self)).elim
  · have hstarts : starts (exchangesOf (xs ++ ⟨⟨.party (.startEngine session), plan⟩, u⟩ :: ys)) = [session] := by
      rw [exchangesOf_append, starts_append, hxs, exchangesOf_cons, ← List.singleton_append, starts_append, hys]
      rfl
    refine ⟨?_, ?_, ?_⟩
    · rw [hstarts]
      exact Nat.le_refl 1
    · -- No start stands before this one or behind it, so every split at a start is this one.
      intro before session' plan' u' after hsplit
      obtain ⟨rfl, hm, rfl⟩ :=
        (List.append_cons_inj_of_notMem (not_mem_of_starts hxs) (not_mem_of_starts hys)).mp hsplit
      cases hm
      exact hengaged
    · intro hnone
      rw [hstarts] at hnone
      cases hnone

/-- A provider that signs anything, and a token server that grants a token for a storage host. -/
def granting : Others Unit := fun q _ s =>
  match q with
  | .provider (.signCertificate ..) => (.ok "x", 0, s)
  | .exchange .. =>
    (.ok ⟨200, ⟨200, none, none, none⟩, none, none, .ok ⟨"i", "k", "7", "https://[2001:db8::7]/1.5/7", none⟩⟩, 0, s)
  | q => (silence (.party q), 0, s)

/-- A married account, and a ledger that knows another storage host, with a deadline that has not come. -/
def elsewhere : World Unit where
  ledger := ⟨1000000, ⟨[(Ledger.lastHostKey, "old.example.org"),
    (Ledger.deadlineKey (.storage "old.example.org"), "9000000")], []⟩, []⟩
  accounts := { account := some (.married ⟨⟨"ada@example.org", "u", "s", .zero, .zero, default⟩, "x"⟩) }
  others := ()

theorem engine_handed_over_elsewhere :
    ∃ ms r s' before session plan u after, Runs Reads elsewhere.ledger (run ⟨{}, "a", "t"⟩ ⟨false⟩) ms r s' ∧
      ms = before ++ ⟨⟨.party (.startEngine session), plan⟩, u⟩ :: after ∧ session.host = "[2001:db8::7]" ∧
      u.text (Ledger.deadlineKey (.storage "old.example.org")) = none := by
  have hw : elsewhere.ledger.Working := rfl
  have hshows : Shows elsewhere.ledger elsewhere := ⟨rfl, rfl⟩
  obtain ⟨ms, s', hr, hx, _⟩ := exists_runs_reads granting (run ⟨{}, "a", "t"⟩ ⟨false⟩) hshows
  have hhosts : (starts (exchangesOf ms)).map Storage.Session.host = ["[2001:db8::7]"] := by
    rw [hx]
    decide +kernel
  obtain ⟨session, hstarts, hhost⟩ := List.map_eq_singleton_iff.mp hhosts
  obtain ⟨before, plan, u, after, hsplit⟩ := split_of_starts (hstarts ▸ List.mem_singleton_self session)
  obtain ⟨_, _, _, _, _, _, _, _, hover⟩ :=
    (engine_handed_over _ _ hw hr).2.1 before session plan u after hsplit
  refine ⟨ms, _, s', before, session, plan, u, after, hr, hsplit, hhost, ?_⟩
  refine hover.switched.dropped "old.example.org" rfl ?_
  rw [hhost]
  decide

end AccountSync.Attempt
