import AccountSync.Proofs.Identity.Issuance
import AccountSync.Proofs.Login.Certificate
import AccountSync.Proofs.Login.Failure
import AccountSync.Proofs.Login.Progress

/-!
Where the keys, the key pair and the certificate of an account come from. `Loyal` says what exchanges do for an account
that has credentials: they sign for these and no others, and put the last answer in the account; steps are loyal
(`loyal_of_step`), and so are the rounds of such an account (`loyal_of_round`) and walks of any length (`Walk.loyal`).
Main statement: `credentials_traced`, for the runs of an account that has none yet.
-/

set_option autoImplicit false
set_option relaxedAutoImplicit false

namespace AccountSync.Login

open Dialogue

/-- A fetching of keys: by which token, and what is answered. -/
def fetchCall? : Exchange Question.Answer → Option (String × Except SyncError Provider.KeysResponse)
  | ⟨.ask (.fetchKeys token), a⟩ => some (token, a)
  | _ => none

def drawCall? : Exchange Question.Answer → Option (Except SyncError KeyPair)
  | ⟨.keyPair, a⟩ => some a
  | _ => none

structure SigningCall where
  token : String
  descriptor : Json
  lifetime : Nat
  answer : Except SyncError String

def signingCall? : Exchange Question.Answer → Option SigningCall
  | ⟨.ask (.signCertificate token descriptor lifetime), a⟩ => some ⟨token, descriptor, lifetime, a⟩
  | _ => none

def fetchCalls (xs : Exchanges) : List (String × Except SyncError Provider.KeysResponse) := xs.filterMap fetchCall?

def drawCalls (xs : Exchanges) : List (Except SyncError KeyPair) := xs.filterMap drawCall?

def signingCalls (xs : Exchanges) : List SigningCall := xs.filterMap signingCall?

def states (xs : Exchanges) : List Account := xs.filterMap state?

def OnlyHolds (k : Cohabiting) (state : Account) : Prop := ∀ k', credentials? state = some k' → k' = k

/-- What exchanges do that lead from a state to another, for an account with credentials. -/
structure Loyal (duration : Nat) (k : Cohabiting) (first : Account) (xs : Exchanges) (last : Account) : Prop where
  fetches : fetchCalls xs = []
  draws : drawCalls xs = []
  signs : ∀ c ∈ signingCalls xs,
    c.token = k.sessionToken ∧ c.descriptor = k.keyPair.descriptor ∧ c.lifetime = clampMillis duration
  holds : ∀ state ∈ states xs, OnlyHolds k state
  /-- A certificate at the end is what was answered last, or was there before. -/
  certificate : ∀ m, last = .married m →
    (∃ c, (signingCalls xs).getLast? = some c ∧ c.answer = .ok m.certificate) ∨
      (signingCalls xs = [] ∧ first = .married m)

variable {duration bound maxSteps : Nat} {target : StateLabel} {state first middle last next initial : Account}
  {xs ys zs : Exchanges} {t : Transition} {run : Run} {now : Instant} {action : Action} {s : Engaged} {k : Cohabiting}

private theorem fetchCalls_append : fetchCalls (xs ++ ys) = fetchCalls xs ++ fetchCalls ys := List.filterMap_append

private theorem drawCalls_append : drawCalls (xs ++ ys) = drawCalls xs ++ drawCalls ys := List.filterMap_append

private theorem signingCalls_append :
    signingCalls (xs ++ ys) = signingCalls xs ++ signingCalls ys := List.filterMap_append

theorem states_append : states (xs ++ ys) = states xs ++ states ys := List.filterMap_append

private theorem Loyal.trans (hxs : Loyal duration k first xs middle) (hys : Loyal duration k middle ys last) :
    Loyal duration k first (xs ++ ys) last where
  fetches := by rw [fetchCalls_append, hxs.fetches, hys.fetches, List.append_nil]
  draws := by rw [drawCalls_append, hxs.draws, hys.draws, List.append_nil]
  signs := by
    intro c hc
    rw [signingCalls_append] at hc
    exact (List.mem_append.mp hc).elim (hxs.signs c) (hys.signs c)
  holds := by
    intro state hs
    rw [states_append] at hs
    exact (List.mem_append.mp hs).elim (hxs.holds state) (hys.holds state)
  certificate := by
    intro m hm
    rw [signingCalls_append]
    rcases hys.certificate m hm with ⟨c, hlast, hanswer⟩ | ⟨hnone, hmiddle⟩
    · refine .inl ⟨c, ?_, hanswer⟩
      rw [List.getLast?_append, hlast]
      rfl
    · rw [hnone, List.append_nil]
      exact hxs.certificate m hmiddle

private theorem Loyal.look (now : Instant) : Loyal duration k state [⟨.now, now⟩] state where
  fetches := rfl
  draws := rfl
  signs := nofun
  holds := nofun
  certificate := fun _ hm => .inr ⟨rfl, hm⟩

private theorem Loyal.report (h : OnlyHolds k state) : Loyal duration k state [⟨.report t state, ()⟩] state where
  fetches := rfl
  draws := rfl
  signs := nofun
  holds := by
    intro state' hs
    obtain rfl := List.mem_singleton.mp hs
    exact h
  certificate := fun _ hm => .inr ⟨rfl, hm⟩

private theorem Loyal.round (hstep : Loyal duration k state xs next) (hnext : OnlyHolds k next)
    (hrest : Loyal duration k next ys last) :
    Loyal duration k state (⟨.now, now⟩ :: (xs ++ ⟨.report t next, ()⟩ :: ys)) last :=
  (Loyal.look now).trans (hstep.trans ((Loyal.report hnext).trans hrest))

private theorem Loyal.nil : Loyal duration k state [] state where
  fetches := rfl
  draws := rfl
  signs := nofun
  holds := nofun
  certificate := fun _ hm => .inr ⟨rfl, hm⟩

private theorem onlyHolds_of_credentials (h : credentials? state = some k) : OnlyHolds k state :=
  fun _ h' => Option.some.inj (h'.symm.trans h)

private theorem credentials?_of_dropped (h : Dropped state) : credentials? state = none := by
  cases state with
  | engaged s => rfl
  | cohabiting k => exact (not_dropped_cohabiting k h).elim
  | married m => exact (not_dropped_married m h).elim
  | separated o => rfl
  | doghouse o => rfl

private theorem onlyHolds_of_kept (h : credentials? state = some k ∨ Dropped state) : OnlyHolds k state := by
  rcases h with h | h
  · exact onlyHolds_of_credentials h
  · intro k' hk'
    cases (credentials?_of_dropped h).symm.trans hk'

private theorem fallBack_ne_married {k : Cohabiting} {e : SyncError} {m : Married} :
    (fallBack (.cohabiting k) e).2 ≠ .married m := by
  unfold fallBack
  split
  · exact nofun
  · split
    · exact nofun
    · split <;> exact nofun

/-- A step of an account that has credentials signs for these at most, and leaves it with them or with none. -/
theorem loyal_of_step (hk : credentials? state = some k) (own : Own state.label action)
    (h : Course (step duration action state) xs (t, next)) : Loyal duration k state xs next := by
  generalize hr : (t, next) = r at h
  cases course_step_iff.mp h with
  | fetch _ => cases hk
  | @sign k' _ answer hs =>
    obtain rfl := Option.some.inj hk
    have hnext : next = (conclude .signCertificate (.cohabiting k') answer).2 := congrArg Prod.snd hr
    have hsigns : ∀ a : Except SyncError String, ∀ c ∈
        signingCalls [⟨.ask (.signCertificate k'.sessionToken k'.keyPair.descriptor (clampMillis duration)), a⟩],
        c.token = k'.sessionToken ∧ c.descriptor = k'.keyPair.descriptor ∧ c.lifetime = clampMillis duration := by
      intro a c hc
      obtain rfl := List.mem_singleton.mp hc
      exact ⟨rfl, rfl, rfl⟩
    subst hnext
    cases hs with
    | refused e => exact ⟨rfl, rfl, hsigns _, nofun, fun m hm => (fallBack_ne_married hm).elim⟩
    | empty certificate _ => exact ⟨rfl, rfl, hsigns _, nofun, nofun⟩
    | signed certificate _ =>
      refine ⟨rfl, rfl, hsigns _, nofun, ?_⟩
      intro m hm
      cases hm
      exact .inl ⟨_, rfl, rfl⟩
  | check m =>
    cases hr
    exact ⟨rfl, rfl, nofun, nofun, nofun⟩
  | astray hn => exact (hn own).elim

/-- An account that begins a round with credentials keeps them or is dropped, and is loyal if it is from then on. -/
theorem loyal_of_round (hk : credentials? state = some k ∨ Dropped state) (ha : nextAction state now = some action)
    (hstep : Course (step duration action state) xs (t, next)) :
    (credentials? next = some k ∨ Dropped next) ∧ ∀ {ys last}, Loyal duration k next ys last →
      Loyal duration k state (⟨.now, now⟩ :: (xs ++ ⟨.report t next, ()⟩ :: ys)) last := by
  have hheld : credentials? state = some k := by
    refine hk.resolve_right fun hd => ?_
    cases (nextAction_eq_none_of_dropped hd).symm.trans ha
  have hown := own_of_nextAction ha
  have hkept := (moves_of_course hown hstep).keeps.credentials k hheld
  exact ⟨hkept, fun hrest => (loyal_of_step hheld hown hstep).round (onlyHolds_of_kept hkept) hrest⟩

theorem Walk.loyal (h : Walk duration target bound state xs run) (hk : credentials? state = some k ∨ Dropped state) :
    Loyal duration k state xs run.state := by
  induction h with
  | settled _ => exact .look _
  | ended _ _ => exact .look _
  | exhausted _ _ => exact .look _
  | stayed _ ha hstep _ =>
    obtain ⟨-, hround⟩ := loyal_of_round hk ha hstep
    exact hround .nil
  | moved _ ha hstep _ _ ih =>
    obtain ⟨hkept, hround⟩ := loyal_of_round hk ha hstep
    exact hround (ih hkept)

/-- What the credentials of an account are made of that had none. -/
structure Sourced (s : Engaged) (keys : Provider.KeysResponse) (pair : KeyPair) (k : Cohabiting) : Prop where
  kA : Key32.ofHex? keys.kA = some k.kA
  kB : ∃ wrapKB, Key32.ofHex? keys.wrapKB = some wrapKB ∧ k.kB = unwrapKB wrapKB s.unwrapKey
  keyPair : k.keyPair = pair
  sessionToken : k.sessionToken = s.sessionToken
  owner : (⟨k.email, k.uid⟩ : Owner) = ⟨s.email, s.uid⟩

theorem sourced_of_withKeys {keys : Provider.KeysResponse} {account : KeyPair → Cohabiting}
    (h : withKeys s keys = .ok account) (pair : KeyPair) : Sourced s keys pair (account pair) := by
  unfold withKeys at h
  split at h
  · cases h
  · rename_i kA hkA
    split at h
    · cases h
    · rename_i wrapKB hwrapKB
      cases h
      exact ⟨hkA, ⟨wrapKB, hwrapKB, rfl⟩, rfl, rfl, rfl⟩

private theorem Sourced.of_verified {keys : Provider.KeysResponse} {pair : KeyPair}
    (h : Sourced { s with verified := true } keys pair k) : Sourced s keys pair k :=
  ⟨h.kA, h.kB, h.keyPair, h.sessionToken, h.owner⟩

/-- Exchanges that give an account its credentials: the keys are fetched once, and once a key pair is drawn. -/
structure Fetched (s : Engaged) (xs : Exchanges) (k : Cohabiting) : Prop where
  calls : ∃ keys pair, fetchCalls xs = [(s.keyFetchToken, .ok keys)] ∧ drawCalls xs = [.ok pair] ∧ Sourced s keys pair k
  signs : signingCalls xs = []
  states : states xs = []

private theorem Fetched.look (h : Fetched s xs k) (now : Instant) : Fetched s (⟨.now, now⟩ :: xs) k :=
  ⟨h.calls, h.signs, h.states⟩

private theorem fetched_of_fetching_ok {o : Outcome} (h : Fetching s xs (.ok o)) :
    ∃ k, o = .advanced (.cohabiting k) ∧ Fetched s xs k := by
  cases h with
  | fetched keys account pair hkeys =>
    exact ⟨account pair, rfl, ⟨keys, pair, rfl, rfl, sourced_of_withKeys hkeys pair⟩, rfl, rfl⟩

private theorem fetched_of_checking {o : Outcome} (h : Checking s xs (.ok o)) :
    o = .unverified (.engaged s) ∨ ∃ k, o = .advanced (.cohabiting k) ∧ Fetched s xs k := by
  cases h with
  | verified _ hf => exact .inr (fetched_of_fetching_ok hf)
  | unverified status _ _ => exact .inl rfl
  | confirmed status _ _ hf =>
    obtain ⟨k, hk, ⟨keys, pair, hfetch, hdraw, hsourced⟩, hsigns, hstates⟩ := fetched_of_fetching_ok hf
    exact .inr ⟨k, hk, ⟨keys, pair, hfetch, hdraw, hsourced.of_verified⟩, hsigns, hstates⟩

private theorem credentials?_fallBack (s : Engaged) (e : SyncError) :
    credentials? (fallBack (.engaged s) e).2 = none := by
  unfold fallBack
  split
  · rfl
  · split
    · rfl
    · split <;> rfl

theorem fetched_of_engaged (own : Own state.label action) (hengaged : state = .engaged s)
    (h : Course (step duration action state) xs (t, next)) :
    credentials? next = none ∨ ∃ k, next = .cohabiting k ∧ Fetched s xs k := by
  generalize hr : (t, next) = r at h
  cases course_step_iff.mp h with
  | @fetch s' _ answer hc =>
    cases hengaged
    have hnext : next = (conclude .fetchKeys (.engaged s) answer).2 := congrArg Prod.snd hr
    rw [hnext]
    cases answer with
    | error e => exact .inl (credentials?_fallBack s e)
    | ok o =>
      rcases fetched_of_checking hc with rfl | ⟨k, rfl, hfetched⟩
      · exact .inl rfl
      · exact .inr ⟨k, rfl, hfetched⟩
  | sign _ => cases hengaged
  | check m => cases hengaged
  | astray hn => exact (hn own).elim

structure Traced (duration : Nat) (s : Engaged) (xs : Exchanges) (last : Account) (k : Cohabiting) : Prop where
  calls : ∃ keys pair, fetchCalls xs = [(s.keyFetchToken, .ok keys)] ∧ drawCalls xs = [.ok pair] ∧ Sourced s keys pair k
  signs : ∀ c ∈ signingCalls xs,
    c.token = k.sessionToken ∧ c.descriptor = k.keyPair.descriptor ∧ c.lifetime = clampMillis duration
  holds : ∀ state ∈ last :: states xs, OnlyHolds k state
  certificate : ∀ m, last = .married m → ∃ c, (signingCalls xs).getLast? = some c ∧ c.answer = .ok m.certificate

/-- What was fetched stays what the account holds. -/
theorem Fetched.traced (hfetched : Fetched s xs k) (hloyal : Loyal duration k (.cohabiting k) ys last)
    (hlast : OnlyHolds k last) : Traced duration s (xs ++ ys) last k where
  calls := by
    rw [fetchCalls_append, drawCalls_append, hloyal.fetches, hloyal.draws, List.append_nil, List.append_nil]
    exact hfetched.calls
  signs := by
    rw [signingCalls_append, hfetched.signs, List.nil_append]
    exact hloyal.signs
  holds := by
    rw [states_append, hfetched.states, List.nil_append]
    intro state hmem
    rcases List.mem_cons.mp hmem with rfl | hmem
    · exact hlast
    · exact hloyal.holds state hmem
  certificate := by
    intro m hm
    rw [signingCalls_append, hfetched.signs, List.nil_append]
    rcases hloyal.certificate m hm with hanswer | ⟨-, hmarried⟩
    · exact hanswer
    · cases hmarried

private theorem states_of_isCall (h : ∀ x ∈ xs, x.question.IsCall) : states xs = [] :=
  List.filterMap_eq_nil_iff.mpr fun x hx => state?_eq_none_of_isCall (h x hx)

theorem states_of_round (h : ∀ x ∈ xs, x.question.IsCall) :
    states (⟨.now, now⟩ :: (xs ++ ⟨.report t next, ()⟩ :: ys)) = next :: states ys := by
  have happend : states (⟨.now, now⟩ :: (xs ++ ⟨.report t next, ()⟩ :: ys)) =
      states xs ++ states (⟨.report t next, ()⟩ :: ys) := states_append
  rw [happend, states_of_isCall h]
  rfl

private theorem Moves.dropped_of_engaged (h : Moves (.engaged s) t next) (hk : t.kind ≠ .stay)
    (hnone : credentials? next = none) : Dropped next := by
  cases h with
  | fetched _ _ _ => cases hnone
  | unverified _ => exact (hk rfl).elim
  | separated _ _ => exact .inl rfl
  | doghouse _ _ _ => exact .inr rfl
  | disproved _ _ _ => exact (hk rfl).elim
  | failed _ _ _ _ => exact (hk rfl).elim

/-- A run of an account without credentials that gets some anywhere fetches them in its first step. -/
theorem Walk.traced (h : Walk duration target bound (.engaged s) xs run)
    (hreached : ¬ ∀ state ∈ run.state :: states xs, credentials? state = none) :
    ∃ k, Traced duration s xs run.state k := by
  cases h with
  | settled _ => exact (hreached (by simp [states, state?, credentials?])).elim
  | ended _ _ => exact (hreached (by simp [states, state?, credentials?])).elim
  | exhausted _ _ => exact (hreached (by simp [states, state?, credentials?])).elim
  | @stayed bound _ next now action xs t _ ha hstep hk =>
    rcases fetched_of_engaged (own_of_nextAction ha) rfl hstep with hnone | ⟨k, rfl, hfetched⟩
    · rw [states_of_round ((asks_step _ _ _).of_course hstep)] at hreached
      exact (hreached (by simp [states, hnone])).elim
    · have hheld : OnlyHolds k (.cohabiting k) := onlyHolds_of_credentials rfl
      exact ⟨k, (hfetched.look now).traced (.report hheld) hheld⟩
  | @moved bound _ next now action xs ys t run _ ha hstep hk hw =>
    have hown := own_of_nextAction ha
    rcases fetched_of_engaged hown rfl hstep with hnone | ⟨k, rfl, hfetched⟩
    · have hdropped := (moves_of_course hown hstep).dropped_of_engaged hk hnone
      obtain ⟨rfl, last, rfl⟩ := hw.of_dropped hdropped
      rw [states_of_round ((asks_step _ _ _).of_course hstep)] at hreached
      exact (hreached (by simp [states, state?, hnone])).elim
    · have hheld : OnlyHolds k (.cohabiting k) := onlyHolds_of_credentials rfl
      have hkept := hw.keeps.credentials k rfl
      exact ⟨k, (hfetched.look now).traced ((Loyal.report hheld).trans (hw.loyal (.inl rfl))) (onlyHolds_of_kept hkept)⟩

theorem exists_withKeys_iff {keys : Provider.KeysResponse} :
    (∃ account, withKeys s keys = .ok account) ↔ Key32.Written keys.kA ∧ Key32.Written keys.wrapKB := by
  constructor
  · rintro ⟨account, h⟩
    obtain ⟨hkA, ⟨wrapKB, hwrapKB, -⟩, -⟩ := sourced_of_withKeys h default
    exact ⟨Key32.exists_ofHex?_iff.mp ⟨_, hkA⟩, Key32.exists_ofHex?_iff.mp ⟨_, hwrapKB⟩⟩
  · rintro ⟨hkA, hwrapKB⟩
    exact withKeys_of_written hkA hwrapKB

/-- An account that has no keys yet and is cohabiting or married anywhere in a run, or after it, was told the keys once
and once given a key pair in that run. Its keys are what was told, in 64 digits each of either case, where `kB` is
recovered from its wrapped form; and it holds these and that pair for the rest of the run. Every certificate was asked
for with its session token, for that pair and for as long as is configured, if 64 bits can tell that; and an account
that is married in the end has the certificate that was answered last. -/
theorem credentials_traced (maxSteps duration : Nat) (s : Engaged) (target : StateLabel) {xs : Exchanges} {run : Run}
    (h : Course (advance maxSteps duration (.engaged s) target) xs run)
    (hreached : ∃ state ∈ run.state :: states xs, state.label = .cohabiting ∨ state.label = .married) :
    ∃ keys pair kA wrapKB kB,
      fetchCalls xs = [(s.keyFetchToken, .ok keys)] ∧ drawCalls xs = [.ok pair] ∧
      Key32.Written keys.kA ∧ Text.LetterCase.lowerAscii keys.kA = kA.hex ∧
      Key32.Written keys.wrapKB ∧ Text.LetterCase.lowerAscii keys.wrapKB = wrapKB.hex ∧
      (∀ told, (∃ account, withKeys s told = .ok account) ↔ Key32.Written told.kA ∧ Key32.Written told.wrapKB) ∧
      kB.bytes = List.zipWith (· ^^^ ·) wrapKB.bytes s.unwrapKey.bytes ∧ unwrapKB kB s.unwrapKey = wrapKB ∧
      (∀ state ∈ run.state :: states xs, ∀ k, credentials? state = some k →
        k = ⟨s.email, s.uid, s.sessionToken, kA, kB, pair⟩) ∧
      (∀ c ∈ signingCalls xs, c.token = s.sessionToken ∧ c.lifetime = min duration maxMillis ∧
        publicKeyOfDescriptor c.descriptor = .ok pair.publicKey) ∧
      ∀ m, run.state = .married m → ∃ c, (signingCalls xs).getLast? = some c ∧ c.answer = .ok m.certificate := by
  obtain ⟨ys, hw, rfl⟩ := course_advance_iff.mp h
  have hfinal : ∀ {β : Type} (f : Exchange Question.Answer → Option β), f ⟨.final run.state, ()⟩ = none →
      List.filterMap f (ys ++ [⟨.final run.state, ()⟩]) = List.filterMap f ys := by
    intro β f hf
    rw [List.filterMap_append, List.filterMap_cons_none hf]
    exact List.append_nil _
  have hfetches : fetchCalls (ys ++ [⟨.final run.state, ()⟩]) = fetchCalls ys := hfinal fetchCall? rfl
  have hdraws : drawCalls (ys ++ [⟨.final run.state, ()⟩]) = drawCalls ys := hfinal drawCall? rfl
  have hsigns : signingCalls (ys ++ [⟨.final run.state, ()⟩]) = signingCalls ys := hfinal signingCall? rfl
  have hstates : states (ys ++ [⟨.final run.state, ()⟩]) = states ys := hfinal state? rfl
  rw [hfetches, hdraws, hsigns, hstates]
  rw [hstates] at hreached
  have hsome : ¬ ∀ state ∈ run.state :: states ys, credentials? state = none := by
    obtain ⟨state, hmem, hlabel⟩ := hreached
    intro hnone
    have hstate := hnone state hmem
    cases state with
    | engaged s => rcases hlabel with hlabel | hlabel <;> cases hlabel
    | cohabiting k => cases hstate
    | married m => cases hstate
    | separated o => rcases hlabel with hlabel | hlabel <;> cases hlabel
    | doghouse o => rcases hlabel with hlabel | hlabel <;> cases hlabel
  obtain ⟨k, ⟨keys, pair, hfetch, hdraw, hsourced⟩, hcalls, hholds, hcertificate⟩ := hw.traced hsome
  obtain ⟨hkA, ⟨wrapKB, hwrapKB, hkB⟩, rfl, htoken, howner⟩ := hsourced
  refine ⟨keys, k.keyPair, k.kA, wrapKB, k.kB, hfetch, hdraw, Key32.exists_ofHex?_iff.mp ⟨_, hkA⟩,
    Key32.ofHex?_eq_some_iff.mp hkA, Key32.exists_ofHex?_iff.mp ⟨_, hwrapKB⟩, Key32.ofHex?_eq_some_iff.mp hwrapKB,
    fun told => exists_withKeys_iff, ?_, ?_, ?_, ?_, hcertificate⟩
  · rw [hkB]
    rfl
  · rw [hkB]
    exact Key32.xor_xor wrapKB s.unwrapKey
  · intro state hmem k' hk'
    obtain rfl := hholds state hmem k' hk'
    obtain ⟨hemail, huid⟩ := Owner.mk.inj howner
    rw [← hemail, ← huid, ← htoken]
  · intro c hc
    obtain ⟨hc, hdescriptor, hlifetime⟩ := hcalls c hc
    refine ⟨hc.trans htoken, hlifetime, ?_⟩
    rw [hdescriptor]
    exact publicKeyOfDescriptor_of_describes k.keyPair.describes_descriptor

private theorem exists_course_newcomer (duration : Nat) : ∃ xs run,
    Course (advance 2 duration (.engaged newcomer) .married) xs run ∧
      run.state = .married ⟨newcomerWithKeys, blankCertificate⟩ ∧
      (signingCalls xs).map SigningCall.lifetime = [min duration maxMillis] := by
  have hfetch : Checking newcomer _ (.ok (.advanced (.cohabiting newcomerWithKeys))) :=
    .verified rfl (.fetched _ _ default withKeys_newcomer)
  have hsign : Signing newcomerWithKeys duration _ _ := .signed blankCertificate rfl
  have hinvalid := blankCertificate_invalid newcomerWithKeys 3
  have hsettled : isSettled (.married ⟨newcomerWithKeys, blankCertificate⟩) .married 3 = false := by
    rw [isSettled_married, hinvalid]
  have haction : nextAction (.married ⟨newcomerWithKeys, blankCertificate⟩) 3 = some .checkCertificate := by
    rw [nextAction, hinvalid, if_neg Bool.false_ne_true]
  have hend : Walk duration .married 0 (.married ⟨newcomerWithKeys, blankCertificate⟩) _ _ :=
    .exhausted hsettled haction
  have hcohabiting : isSettled (.cohabiting newcomerWithKeys) .married 2 = false := rfl
  have hrest : Walk duration .married 1 (.cohabiting newcomerWithKeys) _ _ :=
    .moved hcohabiting rfl (course_step_iff.mpr (.sign hsign)) (by decide) hend
  have hengaged : isSettled (.engaged newcomer) .married 1 = false := rfl
  have hwalk : Walk duration .married 2 (.engaged newcomer) _ _ :=
    .moved hengaged rfl (course_step_iff.mpr (.fetch hfetch)) (by decide) hrest
  exact ⟨_, _, course_advance_iff.mpr ⟨_, hwalk, rfl⟩, rfl, rfl⟩

theorem credentials_traced_newcomer : ∃ xs run, Course (advance 2 0 (.engaged newcomer) .married) xs run ∧
    (∃ state ∈ run.state :: states xs, state.label = .cohabiting ∨ state.label = .married) ∧
    (∃ pair, drawCalls xs = [.ok pair]) ∧
    ∃ c, (signingCalls xs).getLast? = some c ∧ c.answer = .ok blankCertificate := by
  obtain ⟨xs, run, hcourse, hstate, -⟩ := exists_course_newcomer 0
  have hmarried : ∃ state ∈ run.state :: states xs, state.label = .cohabiting ∨ state.label = .married :=
    ⟨run.state, List.mem_cons_self, .inr (hstate ▸ rfl)⟩
  obtain ⟨_, pair, _, _, _, -, hdraw, -, -, -, -, -, -, -, -, -, hcertificate⟩ :=
    credentials_traced 2 0 newcomer .married hcourse hmarried
  exact ⟨xs, run, hcourse, hmarried, ⟨pair, hdraw⟩, hcertificate _ hstate⟩

/-- A certificate may be configured to last for longer than 64 bits of milliseconds can tell. -/
theorem lifetime_ne_configured : ∃ xs run,
    Course (advance 2 (seconds maxMillis) (.engaged newcomer) .married) xs run ∧ run.state.label = .married ∧
      ∃ c ∈ signingCalls xs, c.lifetime ≠ seconds maxMillis := by
  obtain ⟨xs, run, hcourse, hstate, hlifetimes⟩ := exists_course_newcomer (seconds maxMillis)
  have hmem : min (seconds maxMillis) maxMillis ∈ (signingCalls xs).map SigningCall.lifetime := by
    rw [hlifetimes]
    exact List.mem_cons_self
  obtain ⟨c, hc, hlifetime⟩ := List.mem_map.mp hmem
  refine ⟨xs, run, hcourse, congrArg Account.label hstate, c, hc, ?_⟩
  rw [hlifetime]
  decide

end AccountSync.Login
