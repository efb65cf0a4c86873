import AccountSync.Proofs.Attempt.Backing
import AccountSync.Proofs.Attempt.Gates
import AccountSync.Proofs.Login.Progress

/-!
Attempts that succeed. Nothing else is needed than stores that work, deadlines that have come, and others that are of
help where they are asked (`Helped`): each stage then goes on to the next. Main statement: `attempt_succeeds`, that such
an attempt leaves a married account, and asks the provider only what that needs.
-/

set_option autoImplicit false
set_option relaxedAutoImplicit false

namespace AccountSync.Attempt

open Dialogue

variable {σ : Type} {others : Others σ} {w w' v : World σ} {ms : Moments (World σ)} {p : Ledger.Purpose}

inductive World.Answers (others : Others σ) (w : World σ) : Exchange Question.Answer → World σ → Prop
  | intro (q : Question) : Answers others w ⟨q, (World.answer others q w).1⟩ (World.answer others q w).2

/-- No call on a store of a world fails. -/
structure World.Works (w : World σ) : Prop where
  ledger : w.ledger.Working
  loads : w.accounts.loadFault = none
  saves : w.accounts.saveFault = none

def Question.Unset (p : Ledger.Purpose) (q : Question) : Prop :=
  ∀ value, q ≠ .ledger (.store (.set (Ledger.deadlineKey p) value))

def Question.request? : Question → Option Provider.Request
  | .party (.provider r) => some r
  | _ => none

/-- Others are of help to an attempt where it asks them. Up to some time, the provider finds the account verified, tells
two keys, and signs a certificate that is still good then; and the token server grants a token for a storage host that
is free, if that matters. -/
structure Helped (forced : Bool) (s : Ledger.State) (last : Instant) (xs : Exchanges) : Prop where
  confirms : ∀ token a, ⟨.party (.provider (.emailStatus token)), a⟩ ∈ xs →
    ∃ status, a = .ok status ∧ status.verified = true
  tells : ∀ token a, ⟨.party (.provider (.fetchKeys token)), a⟩ ∈ xs →
    ∃ keys, a = .ok keys ∧ Key32.Written keys.kA ∧ Key32.Written keys.wrapKB
  signs : ∀ token key duration a, ⟨.party (.provider (.signCertificate token key duration)), a⟩ ∈ xs →
    ∃ certificate, a = .ok certificate ∧ ValidAt certificate last
  grants : ∀ assertion tag a, ⟨.party (.exchange assertion tag), a⟩ ∈ xs →
    ∃ response token endpoint host, a = .ok response ∧ response.result = .ok token ∧
      Url.parse token.endpoint = .ok endpoint ∧ endpoint.host? = some host ∧
      (forced = false → Free s (.storage host))

section Moves

variable {x : Exchange Question.Answer}

private theorem falters_of_answers (h : World.Answers others w x w') : World.Falters others w x w' := by
  obtain ⟨q⟩ := h
  exact .answers q

private theorem clock_answer (s : Ledger.State) (q : Ledger.Question) : (s.answer q).2.clock = s.clock := by
  cases q <;> rfl

private theorem World.Answers.clock_le (h : World.Answers others w x w') : w.ledger.clock ≤ w'.ledger.clock := by
  obtain ⟨q⟩ := h
  cases q with
  | ledger q => exact UInt64.le_of_eq (clock_answer w.ledger q).symm
  | account call => exact UInt64.le_refl _
  | notice event => exact UInt64.le_refl _
  | work duration => exact Ledger.le_after _ _
  | party q => exact Ledger.le_after _ _

private theorem World.Answers.works (h : World.Answers others w x w') (hw : w.Works) : w'.Works := by
  obtain ⟨q⟩ := h
  obtain ⟨hledger, hloads, hsaves⟩ := hw
  cases q with
  | ledger q => exact ⟨(Ledger.reads_answer q w.ledger).faults_eq.trans hledger, hloads, hsaves⟩
  | account call =>
    cases call with
    | load => exact ⟨hledger, by simp [World.answer, AccountStore.Memory.answer, hloads], by
        simp [World.answer, AccountStore.Memory.answer, hloads, hsaves]⟩
    | save a => exact ⟨hledger, by simp [World.answer, AccountStore.Memory.answer, hsaves, hloads], by
        simp [World.answer, AccountStore.Memory.answer, hsaves]⟩
  | notice event => exact ⟨hledger, hloads, hsaves⟩
  | work duration => exact ⟨hledger, hloads, hsaves⟩
  | party q => exact ⟨hledger, hloads, hsaves⟩

private theorem World.Answers.accounts_eq (h : World.Answers others w x w') (hx : x.question.part ≠ .account) :
    w'.accounts = w.accounts := by
  obtain ⟨q⟩ := h
  cases q with
  | account call => exact (hx rfl).elim
  | ledger q => rfl
  | notice event => rfl
  | work duration => rfl
  | party q => rfl

private theorem World.Answers.fault?_eq_none (h : World.Answers others w x w') (hw : w.Works) : fault? x = none := by
  obtain ⟨q⟩ := h
  cases q with
  | ledger q =>
    cases q with
    | store call =>
      have hf := hw.ledger.fault?_eq_none call
      cases call <;> simp [World.answer, Ledger.State.answer, Store.Memory.answer, hf, fault?]
    | now => rfl
    | skew host => rfl
    | recordSkew host seconds => rfl
  | account call => rfl
  | notice event => rfl
  | work duration => rfl
  | party q => rfl

private theorem World.Answers.free (h : World.Answers others w x w') (hfree : Free w.ledger p)
    (hx : x.question.Unset p) : Free w'.ledger p := by
  -- What is on record of the purpose is kept or dropped, and the clock does not go back.
  have later : (w'.ledger.deadline? p = w.ledger.deadline? p ∨ w'.ledger.deadline? p = none) → Free w'.ledger p := by
    rintro (hsame | hnone) d hd
    · rw [hsame] at hd
      exact UInt64.le_trans (hfree d hd) h.clock_le
    · cases hnone.symm.trans hd
  refine later ?_
  obtain ⟨q⟩ := h
  unfold Ledger.State.deadline?
  cases q with
  | ledger q =>
    have hreads := Ledger.reads_answer q w.ledger
    rcases hreads.store_cases with hs | ⟨key, value, rfl, hs⟩ | ⟨key, rfl, hs⟩
    · exact .inl (congrArg Ledger.readDeadline (Ledger.text_of_store hs _))
    · refine .inl (congrArg Ledger.readDeadline ?_)
      have hkey : Ledger.deadlineKey p ≠ key := by
        rintro rfl
        exact hx value rfl
      exact (Ledger.text_of_put hs _).trans (if_neg hkey)
    · by_cases hkey : Ledger.deadlineKey p = key
      · exact .inr (congrArg Ledger.readDeadline ((Ledger.text_of_drop hs _).trans (if_pos hkey)))
      · exact .inl (congrArg Ledger.readDeadline ((Ledger.text_of_drop hs _).trans (if_neg hkey)))
  | account call => exact .inl rfl
  | notice event => exact .inl rfl
  | work duration => exact .inl rfl
  | party q => exact .inl rfl

end Moves

section Runs

variable {α : Type} {d : Talk α} {a : α} {parts : List Part}

private theorem clock_le_of_follows (h : Follows (World.Answers others) w ms w') : w.ledger.clock ≤ w'.ledger.clock :=
  h.keeps (R := fun w w' => w.ledger.clock ≤ w'.ledger.clock) (fun _ => UInt64.le_refl _)
    (fun _ _ _ => UInt64.le_trans) fun _ _ _ hmove => hmove.clock_le

private theorem works_of_follows (h : Follows (World.Answers others) w ms w') : w.Works → w'.Works :=
  h.keeps (R := fun w w' => w.Works → w'.Works) (fun _ => id) (fun _ _ _ hst htu => htu ∘ hst)
    fun _ _ _ hmove => hmove.works

private theorem accounts_of_runs (h : Runs (World.Answers others) w d ms a w') (hd : d.Asks (Within parts))
    (hp : .account ∉ parts) : w'.accounts = w.accounts := by
  have htrans : ∀ s t u : World σ, t.accounts = s.accounts → u.accounts = t.accounts → u.accounts = s.accounts :=
    fun _ _ _ hst htu => htu.trans hst
  refine h.2.keeps (R := fun w w' => w'.accounts = w.accounts) (fun _ => rfl) htrans ?_
  intro t m hm hmove
  refine hmove.accounts_eq fun hpart => hp ?_
  rw [← hpart]
  exact hd.of_course h.1 _ (List.mem_map_of_mem hm)

private theorem free_of_runs (h : Runs (World.Answers others) w d ms a w') (hd : d.Asks (Question.Unset p)) :
    Free w.ledger p → Free w'.ledger p := by
  have htrans : ∀ s t u : World σ, (Free s.ledger p → Free t.ledger p) → (Free t.ledger p → Free u.ledger p) →
      Free s.ledger p → Free u.ledger p := fun _ _ _ hst htu hs => htu (hst hs)
  refine h.2.keeps (R := fun w w' => Free w.ledger p → Free w'.ledger p) (fun _ => id) htrans ?_
  intro t m hm hmove hfree
  exact hmove.free hfree (hd.of_course h.1 _ (List.mem_map_of_mem hm))

private theorem storeFaults_of_follows (h : Follows (World.Answers others) w ms w') (hw : w.Works) :
    storeFaults (exchangesOf ms) = [] := by
  induction h with
  | nil => rfl
  | @cons w w' m ms hmove _ ih =>
    rw [exchangesOf_cons, ← List.singleton_append, storeFaults_append, ih (hmove.works hw)]
    simp [storeFaults, hmove.fault?_eq_none hw]

private theorem reading_of_follows {now : Instant} (h : Follows (World.Answers others) w ms w')
    (hnow : ⟨.ledger .now, now⟩ ∈ exchangesOf ms) : w.ledger.clock ≤ now ∧ now ≤ w'.ledger.clock := by
  induction h with
  | nil => cases hnow
  | @cons w w' m ms hmove hrest ih =>
    rcases List.mem_cons.mp hnow with hm | hnow
    · have hle := hmove.clock_le
      have hle' := clock_le_of_follows hrest
      rw [← hm] at hmove
      generalize m.after = v at hmove hle hle'
      cases hmove with
      | intro => exact ⟨UInt64.le_refl _, hle'⟩
    · obtain ⟨hfirst, hlast⟩ := ih hnow
      exact ⟨UInt64.le_trans hmove.clock_le hfirst, hlast⟩

private theorem runs_falters (h : Runs (World.Answers others) w d ms a w') :
    Runs (World.Falters others) w d ms a w' := by
  refine ⟨h.1, ?_⟩
  have hf := h.2
  clear h
  induction hf with
  | nil s => exact .nil s
  | cons hmove _ ih => exact .cons (falters_of_answers hmove) ih

end Runs

section Unset

variable {host : String}

private theorem unset_of_spares {q : Question} (h : q.Spares) : q.Unset (.storage host) := by
  rintro value rfl
  exact h.2 host (.inl ⟨value, rfl⟩)

private theorem unset_switchHost (p : Ledger.Purpose) (host : String) :
    (books (Ledger.switchHost host)).Asks (Question.Unset p) := by
  have hd : (Ledger.switchHost host).Asks fun q => ∀ value, q ≠ .store (.set (Ledger.deadlineKey p) value) := by
    refine Ledger.asks_switchHost_of (fun _ => nofun) (fun _ => nofun) (fun value value' he => ?_) host
    injection he with he
    injection he with hkey
    exact Ledger.lastHostKey_ne_deadlineKey p hkey
  refine asks_translate hd fun q hq => asks_question.mpr ?_
  rintro value ⟨⟩
  exact hq value rfl

end Unset

section Stages

variable {c : Client} {initial : Account} {m : Married} {token : TokenServer.Token} {forced : Bool} {r : SyncOutcome}
  {last : Instant} {s : Ledger.State} {xs ys : Exchanges} {ns : Moments (World σ)}

private theorem Helped.mono (h : Helped forced s last ys) (hsub : xs ⊆ ys) : Helped forced s last xs where
  confirms := fun token a hx => h.confirms token a (hsub hx)
  tells := fun token a hx => h.tells token a (hsub hx)
  signs := fun token key duration a hx => h.signs token key duration a (hsub hx)
  grants := fun assertion tag a hx => h.grants assertion tag a (hsub hx)

private theorem Helped.front (h : Helped forced s last (exchangesOf (ms ++ ns))) :
    Helped forced s last (exchangesOf ms) :=
  h.mono (List.map_subset _ (List.subset_append_left _ _))

private theorem Helped.back (h : Helped forced s last (exchangesOf (ms ++ ns))) :
    Helped forced s last (exchangesOf ns) :=
  h.mono (List.map_subset _ (List.subset_append_right _ _))

/-- A gate of a purpose that is free is passed, and leaves everything as it was. -/
theorem passes_of_gate {a : Option SyncOutcome} (hw : w.Works) (hfree : forced = false → Free w.ledger p)
    (h : Runs (World.Answers others) w (gate p forced) ms a w') : a = none ∧ w' = w := by
  cases forced with
  | true =>
    obtain ⟨_, rfl, rfl⟩ := runs_pure_iff.mp h
    exact ⟨rfl, rfl⟩
  | false =>
    obtain ⟨hunmoved, hgating⟩ := gating_of_runs (runs_falters h)
    refine ⟨?_, hunmoved.same⟩
    cases hgating with
    | passes _ _ => rfl
    | waits _ hleft => exact (hleft (timeLeft_eq_zero_iff.mpr (hfree rfl))).elim
    | fails e hfault =>
      rw [storeFaults_of_follows h.2 hw] at hfault
      cases hfault

private theorem helping_of_translated {ls : Login.Exchanges} (h : Translated ofLogin ls xs)
    (hhelp : Helped forced s last xs)
    (hread : ∀ now, ⟨.ledger .now, now⟩ ∈ xs → now ≤ last) : Login.Helping last ls := by
  have hasked : ∀ {q : Provider.Request} {a : Except SyncError q.Answer}, ⟨.ask q, a⟩ ∈ ls →
      ⟨.party (.provider q), a⟩ ∈ xs := by
    intro q a hx
    obtain ⟨part, hpart, hsub⟩ := h.exists_part hx
    obtain rfl := course_question_iff.mp hpart
    exact hsub (List.mem_singleton_self _)
  refine ⟨?_, ?_, ?_, ?_, ?_⟩
  · intro now hx
    obtain ⟨part, hpart, hsub⟩ := h.exists_part hx
    obtain rfl := course_ofLogin_now hpart
    exact hread now (hsub (List.mem_singleton_self _))
  · exact fun token a hx => hhelp.confirms token a (hasked hx)
  · exact fun token a hx => hhelp.tells token a (hasked hx)
  · intro a hx
    obtain ⟨part, hpart, _⟩ := h.exists_part hx
    obtain ⟨_, pair, _, _, hpure, _⟩ := course_bind_iff.mp hpart
    obtain ⟨_, ha⟩ := course_pure_iff.mp hpure
    exact ⟨pair, ha⟩
  · exact fun token key duration a hx => hhelp.signs token key duration a (hasked hx)

private theorem plans_of_suffix (h : plans ys ≠ []) : plans (xs ++ ys) ≠ [] := by
  rw [plans, List.filterMap_append]
  exact List.append_ne_nil_of_right_ne_nil _ h

private theorem requests_of_translated {ls : Login.Exchanges} (h : Translated ofLogin ls xs) :
    asked Question.request? xs = asked Login.Question.request? ls := by
  induction h with
  | nil => rfl
  | @cons q a part ls ys hpart _ ih =>
    rw [asked_append, ih, ← List.singleton_append, asked_append]
    congr 1
    cases q with
    | now =>
      obtain rfl := course_ofLogin_now hpart
      rfl
    | ask r =>
      obtain rfl := course_question_iff.mp hpart
      rfl
    | keyPair =>
      obtain ⟨_, pair, _, hpair, hpure, rfl⟩ := course_bind_iff.mp hpart
      obtain rfl := course_question_iff.mp hpair
      obtain ⟨rfl, _⟩ := course_pure_iff.mp hpure
      rfl
    | report t state =>
      obtain ⟨rfl, _⟩ := course_pure_iff.mp hpart
      rfl
    | final state =>
      obtain ⟨rfl, _⟩ := course_pure_iff.mp hpart
      rfl

private theorem part_of_request? {q : Question} {request : Provider.Request} (h : q.request? = some request) :
    q.part = .identity := by
  unfold Question.request? at h
  split at h
  · rfl
  · cases h

private theorem requests_of_within {parts : List Part} (h : ∀ x ∈ xs, Within parts x.question)
    (hp : .identity ∉ parts) : asked Question.request? xs = [] :=
  untold_of_within part_of_request? h hp

private theorem granted_of_fetchToken {a : Except TokenFailure TokenServer.Token} {now : Instant}
    (hvalid : ValidAt m.certificate now) (hhelp : Helped forced s last (exchangesOf ms))
    (h : Runs (World.Answers others) w (fetchToken c m) ms a w') : ∃ token endpoint host, a = .ok token ∧
      Url.parse token.endpoint = .ok endpoint ∧ endpoint.host? = some host ∧
      (forced = false → Free s (.storage host)) := by
  cases exchanging_of_runs h with
  | @unmade _ _ issuedAt _ _ hfailed =>
    obtain ⟨backed, _, _, _, hmade, _⟩ :=
      Married.generated_backed (hasValidCertificate_iff.mpr hvalid) c.audience issuedAt _
    cases hmade.symm.trans hfailed
  | @unanswered _ _ _ xs ys _ assertion e _ _ _ _ =>
    have hx : (⟨.party (.exchange assertion m.clientState), .error e⟩ : Exchange Question.Answer) ∈
        exchangesOf (xs ++ (ys ++ [⟨⟨.party (.exchange assertion m.clientState), .error e⟩, w'⟩])) :=
      List.mem_map_of_mem (List.mem_append_right _ (List.mem_append_right _ List.mem_cons_self))
    obtain ⟨_, _, _, _, hanswer, _⟩ := hhelp.grants _ _ _ hx
    cases hanswer
  | @answered _ _ v _ xs ys zs _ assertion response _ _ _ _ _ hsettle =>
    have hx : (⟨.party (.exchange assertion m.clientState), .ok response⟩ : Exchange Question.Answer) ∈
        exchangesOf (xs ++ (ys ++ ⟨⟨.party (.exchange assertion m.clientState), .ok response⟩, v⟩ :: zs)) :=
      List.mem_map_of_mem (List.mem_append_right _ (List.mem_append_right _ List.mem_cons_self))
    obtain ⟨_, token, endpoint, host, hanswer, hresult, hgranted⟩ := hhelp.grants _ _ _ hx
    cases hanswer
    have hmap := result_of_settle hsettle
    rw [hresult] at hmap
    exact ⟨token, endpoint, host, hmap, hgranted⟩

private theorem storage_storageHost {endpoint : Url} {host : String} (h : endpoint.host? = some host) :
    Ledger.Purpose.storage (storageHost endpoint) = .storage host := by
  rw [storageHost, h, Option.getD_some, Ledger.Purpose.storage, Ledger.lowerAscii_lowerAscii]
  rfl

private theorem started_of_syncStorage {endpoint : Url} {host : String} (hw : w.Works)
    (hparse : Url.parse token.endpoint = .ok endpoint) (hhost : endpoint.host? = some host)
    (hfree : forced = false → Free w.ledger (.storage host))
    (h : Runs (World.Answers others) w (syncStorage c m token forced) ms r w') : plans (exchangesOf ms) ≠ [] := by
  cases handing_of_runs h with
  | unreadable hunreadable => cases hunreadable.symm.trans hparse
  | unswitched _ hswitch =>
    obtain ⟨before, x, hxs, hfault⟩ := faulted_of_switchHost hswitch
    have hquiet := storeFaults_of_follows hswitch.2 hw
    rw [hxs, storeFaults_append] at hquiet
    simp [storeFaults, hfault] at hquiet
  | gated hparse' hswitch hgate =>
    cases hparse.symm.trans hparse'
    rw [storage_storageHost hhost] at hgate
    have hfree' : forced = false → Free _ (.storage host) := fun hf =>
      free_of_runs hswitch (unset_switchHost _ _) (hfree hf)
    obtain ⟨hpassed, _⟩ := passes_of_gate (works_of_follows hswitch.2 hw) hfree' hgate
    cases hpassed
  | started _ _ _ _ _ _ _ =>
    intro hnil
    simp only [exchangesOf_append, exchangesOf_cons, plans, List.filterMap_append] at hnil
    simp [plan?] at hnil

private theorem account_of_persist {state : Account} (hw : w.Works) (hstored : w.accounts.account = some initial)
    (hkeeps : Login.Keeps initial state) (h : Runs (World.Answers others) w (persist initial state) ms () w') :
    w'.accounts.account = some state := by
  unfold persist at h
  split at h
  · rename_i hsame
    obtain ⟨_, _, rfl⟩ := runs_pure_iff.mp h
    rw [(same_iff_of_keeps hkeeps).mp hsame]
    exact hstored
  · obtain ⟨_, _, _, _, hsave, hdone, _⟩ := runs_bind_iff.mp h
    obtain ⟨_, _, rfl⟩ := runs_pure_iff.mp hdone
    obtain ⟨_, hmove⟩ := runs_question_iff.mp hsave
    cases hmove with
    | intro => simp [World.answer, AccountStore.Memory.answer, hw.saves]

private theorem load_of_answers {a : Except SyncError (Option Account)} (hw : w.Works)
    (hstored : w.accounts.account = some initial) (h : World.Answers others w ⟨.account .load, a⟩ w') :
    a = .ok (some initial) ∧ w' = w := by
  cases h with
  | intro => simp [World.answer, AccountStore.Memory.answer, hw.loads, hstored]

private theorem synced_of_syncMarried {now : Instant} (hw : w.Works) (hstored : w.accounts.account = some initial)
    (hkeeps : Login.Keeps initial (.married m)) (hvalid : ValidAt m.certificate now)
    (hhelp : Helped forced s last (exchangesOf ms))
    (hfree : ∀ host, Free s (.storage host) → Free w.ledger (.storage host))
    (h : Runs (World.Answers others) w (syncMarried c initial m forced) ms r w') :
    plans (exchangesOf ms) ≠ [] ∧ w'.accounts.account = some (.married m) ∧
      asked Question.request? (exchangesOf ms) = [] := by
  cases trading_of_runs h with
  | @accepted t u v _ xs ys zs us token _ hfetch hpersist hclear hstorage =>
    obtain ⟨_, endpoint, host, htoken, hparse, hhost, hgranted⟩ := granted_of_fetchToken hvalid hhelp.front hfetch
    cases htoken
    have ht := works_of_follows hfetch.2 hw
    have hu := works_of_follows hpersist.2 ht
    have hv := works_of_follows hclear.2 hu
    have hopen : forced = false → Free v.ledger (.storage host) := by
      intro hf
      have hfetched := free_of_runs hfetch ((spares_fetchToken c m).mono fun _ => unset_of_spares)
        (hfree host (hgranted hf))
      have hsaved := free_of_runs hpersist
        ((spares_of_within (asks_persist _ _) (by decide)).mono fun _ => unset_of_spares) hfetched
      exact free_of_runs hclear ((spares_of_within (asks_notice _) (by decide)).mono fun _ => unset_of_spares) hsaved
    have hloaded : t.accounts.account = some initial := by
      rw [accounts_of_runs hfetch (asks_fetchToken c m) (by decide)]
      exact hstored
    refine ⟨?_, ?_, ?_⟩
    · have hstarted := started_of_syncStorage hv hparse hhost hopen hstorage
      simp only [exchangesOf_append, ← List.append_assoc]
      exact plans_of_suffix hstarted
    · rw [accounts_of_runs hstorage (asks_syncStorage c m token forced) (by decide),
        accounts_of_runs hclear (asks_notice _) (by decide)]
      exact account_of_persist ht hloaded hkeeps hpersist
    · have hfetched := requests_of_within (within_of_runs hfetch (asks_fetchToken c m)) (by decide)
      have hsaved := requests_of_within (within_of_runs hpersist (asks_persist _ _)) (by decide)
      have hcleared := requests_of_within (within_of_runs hclear (asks_notice _)) (by decide)
      have hsynced := requests_of_within (within_of_runs hstorage (asks_syncStorage c m token forced)) (by decide)
      simp only [exchangesOf_append, asked_append, hfetched, hsaved, hcleared, hsynced, List.append_nil]
  | rejected hfetch _ _ =>
    obtain ⟨_, _, _, hgranted, _⟩ := granted_of_fetchToken hvalid hhelp.front hfetch
    cases hgranted
  | failed hfetch _ =>
    obtain ⟨_, _, _, hgranted, _⟩ := granted_of_fetchToken hvalid hhelp.front hfetch
    cases hgranted

private theorem married_of_login {run : Login.Run} (hsteps : 2 ≤ c.config.maxLoginSteps.toNat)
    (hdropped : ¬ Login.Dropped initial) (hhelp : Helped forced s last (exchangesOf ms))
    (hlast : w'.ledger.clock ≤ last) (h : Runs (World.Answers others) w (login (bring c initial)) ms run w') : ∃ now m,
      w.ledger.clock ≤ now ∧ now ≤ last ∧ run.state = .married m ∧ Login.Keeps initial (.married m) ∧
      asked Question.request? (exchangesOf ms) =
        Login.needed (seconds c.config.certificateDuration.toNat) now m.account.keyPair initial ∧
      (initial = .married m ∧ ValidAt m.certificate now ∨ ValidAt m.certificate last) := by
  obtain ⟨ls, hcourse, htranslated⟩ := course_translate_iff.mp h.1
  have hhelping : Login.Helping last ls := helping_of_translated htranslated hhelp fun now hnow =>
    UInt64.le_trans (reading_of_follows h.2 hnow).2 hlast
  obtain ⟨ys, hwalk, rfl⟩ := Login.course_advance_iff.mp hcourse
  obtain ⟨bound, hbound⟩ : ∃ bound, max 1 c.config.maxLoginSteps.toNat = bound + 2 :=
    ⟨c.config.maxLoginSteps.toNat - 2, by omega⟩
  rw [hbound] at hwalk
  obtain ⟨now, m, hnow, hstate, hrequests, hvalid⟩ :=
    Login.married_of_walk hwalk hdropped (hhelping.mono (List.subset_append_left _ _))
  have hread : ⟨.ledger .now, now⟩ ∈ exchangesOf ms := by
    obtain ⟨part, hpart, hsub⟩ :=
      htranslated.exists_part (List.mem_append_left _ (List.mem_of_mem_head? hnow))
    obtain rfl := course_ofLogin_now hpart
    exact hsub (List.mem_singleton_self _)
  obtain ⟨hfirst, hend⟩ := reading_of_follows h.2 hread
  have hkeeps := Login.keeps_of_advance hcourse
  rw [hstate] at hkeeps
  refine ⟨now, m, hfirst, UInt64.le_trans hend hlast, hstate, hkeeps, ?_, hvalid⟩
  rw [requests_of_translated htranslated, asked_append, hrequests]
  exact List.append_nil _

/-- A certificate that is not to expire while an attempt lasts is good at its start if it is good in login. -/
theorem needed_eq {first now : Instant} (duration : Nat) (pair : KeyPair) (hfirst : first ≤ now) (hlast : now ≤ last)
    (hlasting : ∀ held, initial = .married held → ValidAt held.certificate first → ValidAt held.certificate last) :
    Login.needed duration now pair initial = Login.needed duration first pair initial := by
  cases initial with
  | married held =>
    have hsame : held.hasValidCertificate now = held.hasValidCertificate first := by
      rw [Bool.eq_iff_iff, hasValidCertificate_iff, hasValidCertificate_iff]
      exact ⟨fun h => h.earlier hfirst, fun h => (hlasting held rfl h).earlier hlast⟩
    rw [Login.needed, Login.needed, hsame]
  | engaged s => rfl
  | cohabiting k => rfl
  | separated o => rfl
  | doghouse o => rfl

/-- How far an attempt gets that is helped: the engine is started, a married account is stored, and the provider has
been asked what that needs. Its certificate is the one of the start if that was good when login looked at the clock. -/
def Gets (c : Client) (initial : Account) (w w' : World σ) (xs : Exchanges) : Prop :=
  ∃ now m, w.ledger.clock ≤ now ∧ now ≤ w'.ledger.clock ∧ plans xs ≠ [] ∧ w'.accounts.account = some (.married m) ∧
    asked Question.request? xs =
      Login.needed (seconds c.config.certificateDuration.toNat) now m.account.keyPair initial ∧
    (initial = .married m ∧ ValidAt m.certificate now ∨ ValidAt m.certificate w'.ledger.clock)

private theorem Gets.prepend (h : Gets c initial v w' ys) (hclock : w.ledger.clock ≤ v.ledger.clock)
    (hx : asked Question.request? xs = []) : Gets c initial w w' (xs ++ ys) := by
  obtain ⟨now, m, hfirst, hlast, hplans, hstored, hrequests, hvalid⟩ := h
  refine ⟨now, m, UInt64.le_trans hclock hfirst, hlast, ?_, hstored, ?_, hvalid⟩
  · exact plans_of_suffix hplans
  · rw [asked_append, hx, hrequests]
    rfl

private theorem gets_of_syncAccount (hsteps : 2 ≤ c.config.maxLoginSteps.toNat) (hdropped : ¬ Login.Dropped initial)
    (hw : w.Works) (hstored : w.accounts.account = some initial)
    (hhelp : Helped forced s w'.ledger.clock (exchangesOf ms))
    (hfree : ∀ host, Free s (.storage host) → Free w.ledger (.storage host))
    (h : Runs (World.Answers others) w (syncAccount c initial forced) ms r w') :
    Gets c initial w w' (exchangesOf ms) := by
  cases syncing_of_runs h with
  | @married t _ xs ys run m _ hlogin hm hmarried =>
    obtain ⟨now, m', hfirst, hend, hstate, hkeeps, hrequests, hvalid⟩ :=
      married_of_login hsteps hdropped hhelp.front (clock_le_of_follows hmarried.2) hlogin
    cases hm.symm.trans hstate
    have hsometime : ∃ later, ValidAt m.certificate later := by
      rcases hvalid with ⟨_, hvalid⟩ | hvalid
      · exact ⟨_, hvalid⟩
      · exact ⟨_, hvalid⟩
    obtain ⟨later, hlater⟩ := hsometime
    have hloaded : t.accounts.account = some initial := by
      rw [accounts_of_runs hlogin asks_login (by decide)]
      exact hstored
    have hopen : ∀ host, Free s (.storage host) → Free t.ledger (.storage host) := fun host hs =>
      free_of_runs hlogin ((spares_login _).mono fun _ => unset_of_spares) (hfree host hs)
    obtain ⟨hplans, hkept, hquiet⟩ := synced_of_syncMarried (works_of_follows hlogin.2 hw) hloaded hkeeps hlater
      hhelp.back hopen hmarried
    refine ⟨now, m, hfirst, hend, ?_, hkept, ?_, hvalid⟩
    · rw [exchangesOf_append]
      exact plans_of_suffix hplans
    · rw [exchangesOf_append, asked_append, hrequests, hquiet, List.append_nil]
  | @short t _ _ _ xs ys zs us run _ hlogin hshort hinterval hpersist hnot =>
    have hrest : Follows (World.Answers others) t (ys ++ (zs ++ us)) w' :=
      follows_append_iff.mpr ⟨_, hinterval.2, follows_append_iff.mpr ⟨_, hpersist.2, hnot.2⟩⟩
    obtain ⟨_, m, _, _, hstate, _⟩ := married_of_login hsteps hdropped hhelp.front (clock_le_of_follows hrest) hlogin
    exact (hshort m hstate).elim

private theorem Ending.success_of_started {a : Story} (h : Ending c r a) (hplans : a.plans ≠ [])
    (hsuccess : ∀ o, a.EngineEnded o → ∃ otherClients, o = .success otherClients) : r = .success := by
  cases h with
  | retried _ => exact (hplans rfl).elim
  | missing => exact (hplans rfl).elim
  | halted _ => exact (hplans rfl).elim
  | refused => exact (hplans rfl).elim
  | granted _ => exact (hplans rfl).elim
  | synced _ => rfl
  | broken hcourse hbroken =>
    obtain ⟨_, rfl⟩ := hsuccess _ ⟨_, List.mem_singleton_self _, hcourse⟩
    exact hbroken.elim
  | unauthorized hcourse =>
    obtain ⟨_, he⟩ := hsuccess _ ⟨_, List.mem_singleton_self _, hcourse⟩
    cases he
  | outdated hcourse =>
    obtain ⟨_, he⟩ := hsuccess _ ⟨_, List.mem_singleton_self _, hcourse⟩
    cases he

/-- Past the deadlines the stored account is found, as long as the stores work. -/
theorem gets_of_proceed (hsteps : 2 ≤ c.config.maxLoginSteps.toNat) (hdropped : ¬ Login.Dropped initial)
    (hw : w.Works) (hstored : w.accounts.account = some initial)
    (hhelp : Helped forced w.ledger w'.ledger.clock (exchangesOf ms))
    (h : Runs (World.Answers others) w (proceed c forced) ms r w') : Gets c initial w w' (exchangesOf ms) := by
  have hloads : ∀ {t : World σ} {xs : Moments (World σ)} {kept : Except SyncError Instant},
      Runs (World.Answers others) w (books (Schedule.beforeSyncing c.config)) xs kept t →
      t.Works ∧ t.accounts.account = some initial := by
    intro t xs kept hkept
    refine ⟨works_of_follows hkept.2 hw, ?_⟩
    rw [accounts_of_runs hkept (asks_books _) (by decide)]
    exact hstored
  cases proceeding_of_runs h with
  | failed hkept hload =>
    obtain ⟨ht, hfound⟩ := hloads hkept
    obtain ⟨hloaded, _⟩ := load_of_answers ht hfound hload
    cases hloaded
  | missing hkept hload =>
    obtain ⟨ht, hfound⟩ := hloads hkept
    obtain ⟨hloaded, _⟩ := load_of_answers ht hfound hload
    cases hloaded
  | @loaded t u _ xs ys _ found _ hkept hload hsync =>
    obtain ⟨ht, hfound⟩ := hloads hkept
    obtain ⟨hloaded, rfl⟩ := load_of_answers ht hfound hload
    cases hloaded
    have hopen : ∀ host, Free w.ledger (.storage host) → Free u.ledger (.storage host) := fun host =>
      free_of_runs hkept ((spares_books (Ledger.asks_extend Ledger.lasting_scheduler _)).mono fun _ => unset_of_spares)
    have hgets := gets_of_syncAccount hsteps hdropped ht hfound
      (hhelp.back.mono (List.subset_cons_self _ _)) hopen hsync
    rw [exchangesOf_append, exchangesOf_cons, List.append_cons]
    refine hgets.prepend (clock_le_of_follows hkept.2) ?_
    rw [asked_append, requests_of_within (within_of_runs hkept (asks_books _)) (by decide)]
    rfl

private theorem gets_of_run {extras : SyncExtras} (hsteps : 2 ≤ c.config.maxLoginSteps.toNat)
    (hdropped : ¬ Login.Dropped initial) (hw : w.Works) (hstored : w.accounts.account = some initial)
    (hfree : extras.forced = false → Free w.ledger .scheduler ∧ Free w.ledger .tokenServer)
    (hhelp : Helped extras.forced w.ledger w'.ledger.clock (exchangesOf ms))
    (h : Runs (World.Answers others) w (run c extras) ms r w') : Gets c initial w w' (exchangesOf ms) := by
  cases attempting_of_runs h with
  | early hgate =>
    obtain ⟨hpassed, _⟩ := passes_of_gate hw (fun hf => (hfree hf).1) hgate
    cases hpassed
  | deferred hgate hgate' =>
    obtain ⟨_, rfl⟩ := passes_of_gate hw (fun hf => (hfree hf).1) hgate
    obtain ⟨hpassed, _⟩ := passes_of_gate hw (fun hf => (hfree hf).2) hgate'
    cases hpassed
  | @proceeds _ _ _ xs ys zs _ hgate hgate' hproceed =>
    obtain ⟨_, rfl⟩ := passes_of_gate hw (fun hf => (hfree hf).1) hgate
    obtain ⟨_, rfl⟩ := passes_of_gate hw (fun hf => (hfree hf).2) hgate'
    have hgets := gets_of_proceed hsteps hdropped hw hstored hhelp.back.back hproceed
    rw [← List.append_assoc, exchangesOf_append]
    refine hgets.prepend (UInt64.le_refl _) ?_
    rw [exchangesOf_append, asked_append, requests_of_within (within_of_runs hgate (asks_gate _ _)) (by decide),
      requests_of_within (within_of_runs hgate' (asks_gate _ _)) (by decide)]
    rfl

end Stages

/-- Over stores that work, with a stored account that was not dropped and at least two steps of login, an attempt that
no deadline keeps waiting succeeds if others are of help: the provider finds the account verified, tells its keys and
signs a certificate that is still good at the end, the token server grants a token for a storage host, and the engine
syncs. The stored account is then married with a certificate that is good, and the provider was asked what that needs:
nothing for a married account whose certificate is good, for a certificate only once the keys are there, and whether
the account is verified only if that was not known. -/
theorem attempt_succeeds (c : Client) (extras : SyncExtras) (others : Others σ) {w : World σ} {initial : Account}
    (hsteps : 2 ≤ c.config.maxLoginSteps.toNat) (hdropped : ¬ Login.Dropped initial) (hw : w.Works)
    (hstored : w.accounts.account = some initial)
    (hfree : extras.forced = false → Free w.ledger .scheduler ∧ Free w.ledger .tokenServer) :
    let made := (run c extras).run (World.answer others) w
    let xs := (run c extras).exchanges (World.answer others) w
    Helped extras.forced w.ledger made.2.ledger.clock xs →
    (∀ o, (story xs).EngineEnded o → ∃ otherClients, o = .success otherClients) →
    -- A certificate that is good at the start does not expire meanwhile.
    (∀ held, initial = .married held → ValidAt held.certificate w.ledger.clock →
      ValidAt held.certificate made.2.ledger.clock) →
    made.1 = .success ∧ ∃ m, made.2.accounts.account = some (.married m) ∧
      ValidAt m.certificate made.2.ledger.clock ∧
      asked Question.request? xs =
        Login.needed (seconds c.config.certificateDuration.toNat) w.ledger.clock m.account.keyPair initial := by
  intro made xs hhelp hsyncs hlasting
  have hruns : Runs (World.Answers others) w (run c extras) _ _ _ := runs_record (fun q w => .intro q) _ _
  have hxs : exchangesOf ((run c extras).record (World.answer others) w) = xs := exchangesOf_record _ _ _
  have hgets := gets_of_run hsteps hdropped hw hstored hfree (hxs ▸ hhelp) hruns
  have hending := ending_of_run hruns
  rw [hxs] at hgets hending
  obtain ⟨now, m, hfirst, hlast, hplans, hkept, hrequests, hvalid⟩ := hgets
  refine ⟨hending.success_of_started hplans hsyncs, m, hkept, ?_, ?_⟩
  · rcases hvalid with ⟨hsame, hvalid⟩ | hvalid
    · exact hlasting m hsame (hvalid.earlier hfirst)
    · exact hvalid
  · rw [hrequests]
    exact needed_eq _ _ hfirst hlast hlasting

/-- A certificate that expires at 9. -/
def certificateTill : String :=
  "eyJhbGciOiJFZERTQSJ9.eyJpc3MiOiJpIiwicHJpbmNpcGFsIjoicCIsInB1YmxpYy1rZXkiOjAsImlhdCI6MCwiZXhwIjo5fQ."

private theorem validAt_certificateTill : ValidAt certificateTill 5 := ⟨9, by decide +kernel, by decide⟩

def mixedDigits : String := "00112233445566778899aAbBcCdDeEfF00112233445566778899AabBcCdDeEFf"

private theorem written_mixedDigits : Key32.Written mixedDigits :=
  ⟨by decide +kernel, by simp [mixedDigits, Encoding.Hex.IsDigit]⟩

def helpful : Others Unit := fun q now s =>
  match q with
  | .provider (.emailStatus _) => (.ok ⟨none, true⟩, 0, s)
  | .provider (.fetchKeys _) => (.ok ⟨mixedDigits, mixedDigits⟩, 0, s)
  | .provider (.signCertificate ..) => (.ok certificateTill, 0, s)
  | q => granting q now s

/-- An account that is not known to be verified, and a deadline that has just come. -/
def joining : World Unit where
  ledger := ⟨5, ⟨[(Ledger.deadlineKey .tokenServer, "5")], []⟩, []⟩
  accounts := { account := some (.engaged ⟨"ada@example.org", "u", false, "s", "f", .zero⟩) }
  others := ()

private theorem helped_joining {α : Type} (d : Talk α) :
    Helped false joining.ledger 5 (d.exchanges (World.answer helpful) joining) := by
  refine ⟨?_, ?_, ?_, ?_⟩
  · intro token a hx
    obtain ⟨_, ha⟩ := answer_of_exchanges hx
    exact ⟨_, ha, rfl⟩
  · intro token a hx
    obtain ⟨_, ha⟩ := answer_of_exchanges hx
    exact ⟨_, ha, written_mixedDigits, written_mixedDigits⟩
  · intro token key duration a hx
    obtain ⟨_, ha⟩ := answer_of_exchanges hx
    exact ⟨_, ha, validAt_certificateTill⟩
  · intro assertion tag a hx
    obtain ⟨_, ha⟩ := answer_of_exchanges hx
    have hhost : (Url.parse "https://[2001:db8::7]/1.5/7").toOption.bind Url.host? = some "[2001:db8::7]" := by
      decide +kernel
    have hfree : Free joining.ledger (.storage "[2001:db8::7]") := timeLeft_eq_zero_iff.mp (by decide +kernel)
    cases hparse : Url.parse "https://[2001:db8::7]/1.5/7" with
    | error f =>
      rw [hparse] at hhost
      cases hhost
    | ok endpoint =>
      rw [hparse] at hhost
      exact ⟨_, _, endpoint, _, ha, rfl, hparse, hhost, fun _ => hfree⟩

private theorem synced_joining {α : Type} (d : Talk α) (o : Storage.Outcome)
    (h : (story (d.exchanges (World.answer helpful) joining)).EngineEnded o) :
    ∃ otherClients, o = .success otherClients := by
  obtain ⟨plan, hplan, hcourse⟩ := h
  obtain ⟨⟨q, a⟩, hx, hstarted⟩ := List.mem_filterMap.mp hplan
  obtain ⟨_, ha⟩ := answer_of_exchanges hx
  unfold plan? at hstarted
  split at hstarted
  · rename_i he
    cases he
    cases hstarted
    cases ha
    obtain ⟨_, rfl⟩ := course_pure_iff.mp hcourse
    exact ⟨0, rfl⟩
  · cases hstarted

abbrev hasty : Client := ⟨{ maxLoginSteps := 2 }, "a", "t"⟩

private theorem clock_joining : ((run hasty ⟨false⟩).run (World.answer helpful) joining).2.ledger.clock = 5 := by
  decide +kernel

theorem attempt_succeeds_joining : ∃ m,
    ((run hasty ⟨false⟩).run (World.answer helpful) joining).1 = .success ∧
    ((run hasty ⟨false⟩).run (World.answer helpful) joining).2.accounts.account = some (.married m) ∧
    ValidAt m.certificate 5 ∧
    asked Question.request? ((run hasty ⟨false⟩).exchanges (World.answer helpful) joining) =
      [.emailStatus "s", .fetchKeys "f", .signCertificate "s" m.account.keyPair.descriptor 43200000] := by
  have hdropped : ¬ Login.Dropped (.engaged ⟨"ada@example.org", "u", false, "s", "f", .zero⟩) := by
    rintro (h | h) <;> cases h
  have hworks : joining.Works := ⟨rfl, rfl, rfl⟩
  have hfree : Free joining.ledger .scheduler ∧ Free joining.ledger .tokenServer :=
    ⟨timeLeft_eq_zero_iff.mp (by decide +kernel), timeLeft_eq_zero_iff.mp (by decide +kernel)⟩
  have hhelp : Helped false joining.ledger ((run hasty ⟨false⟩).run (World.answer helpful) joining).2.ledger.clock
      ((run hasty ⟨false⟩).exchanges (World.answer helpful) joining) := by
    rw [clock_joining]
    exact helped_joining _
  obtain ⟨hsuccess, m, hkept, hvalid, hrequests⟩ :=
    attempt_succeeds hasty ⟨false⟩ helpful (by decide) hdropped hworks rfl (fun _ => hfree) hhelp (synced_joining _)
      nofun
  rw [clock_joining] at hvalid
  refine ⟨m, hsuccess, hkept, hvalid, ?_⟩
  rw [hrequests]
  rfl

end AccountSync.Attempt
