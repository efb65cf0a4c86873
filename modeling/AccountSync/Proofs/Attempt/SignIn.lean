import AccountSync.Proofs.Attempt.Saving
import AccountSync.Proofs.Login.Unwrapping

/-!
Signing in, and what attempts make of the account that it stores. `SigningIn` lists its ways, of which only one stores an
account and clears the notice; `Usage` is all that is done with the account afterwards. Main statement:
`signIn_all_or_nothing`, that signing in which fails changes nothing, and that otherwise the stored account and all that
attempts make of it have the `kB` that the provider wrapped for the password and the normal form of the email address.
-/

set_option autoImplicit false
set_option relaxedAutoImplicit false

namespace AccountSync.Attempt

open Dialogue Login StretchedPassword

/-- The stored account and the notice that stands. -/
structure Shelf where
  account : Option Account
  notice : Notice
  deriving DecidableEq

/-- How exchanges bear on the account and the notice. A store that fails to save an account keeps the one it had. -/
inductive Shelved : Shelf → Exchange Question.Answer → Shelf → Prop
  | loaded (s : Shelf) : Shelved s ⟨.account .load, .ok s.account⟩ s
  | unloaded (s : Shelf) (e : SyncError) : Shelved s ⟨.account .load, .error e⟩ s
  | saved (s : Shelf) (a : Account) : Shelved s ⟨.account (.save a), .ok ()⟩ { s with account := some a }
  | unsaved (s : Shelf) (a : Account) (e : SyncError) : Shelved s ⟨.account (.save a), .error e⟩ s
  | told (s : Shelf) (event : Notice.Event) : Shelved s ⟨.notice event, ()⟩ { s with notice := Notice.after event }
  | other (s : Shelf) (x : Exchange Question.Answer) : x.question.part ≠ .account → x.question.part ≠ .user →
      Shelved s x s

/-- The account that signing in makes of what the provider tells. -/
def entered (email password : String) (told : Provider.LoginResponse) : Account :=
  .engaged ⟨email, told.uid, told.verified, told.sessionToken, told.keyFetchToken, (ofPassword email password).unwrapKey⟩

def entry (email password : String) : Question :=
  .party (.provider (.login email (ofPassword email password).authPW))

variable {σ : Type} {move : σ → Exchange Question.Answer → σ → Prop} {email password normal : String}

inductive SigningIn (move : σ → Exchange Question.Answer → σ → Prop) (email password : String) :
    σ → Moments σ → Except SyncError Account → σ → Prop
  | refused {s t : σ} (e : SyncError) : move s ⟨entry email password, .error e⟩ t →
      SigningIn move email password s [⟨⟨entry email password, .error e⟩, t⟩] (.error e) t
  | unsaved {s t u : σ} (told : Provider.LoginResponse) (e : SyncError) : move s ⟨entry email password, .ok told⟩ t →
      move t ⟨.account (.save (entered email password told)), .error e⟩ u →
      SigningIn move email password s [⟨⟨entry email password, .ok told⟩, t⟩,
        ⟨⟨.account (.save (entered email password told)), .error e⟩, u⟩] (.error e) u
  | signedIn {s t u v : σ} (told : Provider.LoginResponse) : move s ⟨entry email password, .ok told⟩ t →
      move t ⟨.account (.save (entered email password told)), .ok ()⟩ u → move u ⟨.notice .clear, ()⟩ v →
      SigningIn move email password s [⟨⟨entry email password, .ok told⟩, t⟩,
        ⟨⟨.account (.save (entered email password told)), .ok ()⟩, u⟩, ⟨⟨.notice .clear, ()⟩, v⟩]
        (.ok (entered email password told)) v

private theorem login_signIn (email password : String) : login (Login.signIn email password) =
    Dialogue.question (entry email password) >>= fun answer => pure (answer.map (entered email password)) :=
  rfl

private theorem signingIn_of_runs_signIn {s s' : σ} {ms : Moments σ} {r : Except SyncError Account}
    (h : Runs move s (signIn email password) ms r s') : SigningIn move email password s ms r s' := by
  unfold signIn at h
  rw [login_signIn] at h
  obtain ⟨xs, entering, t, ys, hlogin, hrest, rfl⟩ := runs_bind_iff.mp h
  obtain ⟨us, answer, t, vs, hasked, hpure, rfl⟩ := runs_bind_iff.mp hlogin
  obtain ⟨rfl, hentry⟩ := runs_question_iff.mp hasked
  obtain ⟨rfl, rfl, rfl⟩ := runs_pure_iff.mp hpure
  cases answer with
  | error e =>
    obtain ⟨rfl, rfl, rfl⟩ := runs_pure_iff.mp hrest
    exact .refused e hentry
  | ok told =>
    obtain ⟨us, saved, u, vs, hsaved, hlast, rfl⟩ := runs_bind_iff.mp hrest
    obtain ⟨rfl, hstore⟩ := runs_question_iff.mp hsaved
    cases saved with
    | error e =>
      obtain ⟨rfl, rfl, rfl⟩ := runs_pure_iff.mp hlast
      exact .unsaved told e hentry hstore
    | ok done =>
      obtain ⟨us, cleared, v, vs, hnotice, hend, rfl⟩ := runs_bind_iff.mp hlast
      obtain ⟨rfl, hclear⟩ := runs_question_iff.mp hnotice
      obtain ⟨rfl, rfl, rfl⟩ := runs_pure_iff.mp hend
      exact .signedIn told hentry hstore hclear

private theorem runs_signIn_of_signingIn {s s' : σ} {ms : Moments σ} {r : Except SyncError Account}
    (h : SigningIn move email password s ms r s') : Runs move s (signIn email password) ms r s' := by
  have hanswered : ∀ {t : σ} (answer : Except SyncError Provider.LoginResponse),
      move s ⟨entry email password, answer⟩ t → Runs move s (login (Login.signIn email password))
        [⟨⟨entry email password, answer⟩, t⟩] (answer.map (entered email password)) t := by
    intro t answer hentry
    rw [login_signIn]
    exact runs_bind_iff.mpr ⟨_, answer, t, [], runs_question_iff.mpr ⟨rfl, hentry⟩, runs_pure_iff.mpr ⟨rfl, rfl, rfl⟩, rfl⟩
  unfold signIn
  cases h with
  | refused e hentry =>
    exact runs_bind_iff.mpr ⟨_, _, _, [], hanswered _ hentry, runs_pure_iff.mpr ⟨rfl, rfl, rfl⟩, rfl⟩
  | unsaved told e hentry hstore =>
    refine runs_bind_iff.mpr ⟨_, _, _, _, hanswered _ hentry, ?_, rfl⟩
    exact runs_bind_iff.mpr
      ⟨_, .error e, _, [], runs_question_iff.mpr ⟨rfl, hstore⟩, runs_pure_iff.mpr ⟨rfl, rfl, rfl⟩, rfl⟩
  | signedIn told hentry hstore hclear =>
    refine runs_bind_iff.mpr ⟨_, _, _, _, hanswered _ hentry, ?_, rfl⟩
    refine runs_bind_iff.mpr ⟨_, .ok (), _, _, runs_question_iff.mpr ⟨rfl, hstore⟩, ?_, rfl⟩
    exact runs_bind_iff.mpr ⟨_, (), _, [], runs_question_iff.mpr ⟨rfl, hclear⟩, runs_pure_iff.mpr ⟨rfl, rfl, rfl⟩, rfl⟩

private theorem runs_signIn_iff {s s' : σ} {ms : Moments σ} {r : Except SyncError Account} :
    Runs move s (signIn email password) ms r s' ↔ SigningIn move email password s ms r s' :=
  ⟨signingIn_of_runs_signIn, runs_signIn_of_signingIn⟩

section Shelf

variable {c : Client} {s t s' : Shelf} {ms : Moments Shelf} {r : Except SyncError Account} {initial : Account}

private theorem shelved_entry {a : (entry email password).Answer} (h : Shelved s ⟨entry email password, a⟩ t) :
    t = s := by
  cases h with
  | other => rfl

/-- Signing in that fails leaves everything as it is; otherwise the account that it returns is stored, and no notice
stands. -/
theorem shelf_of_signIn (h : Runs Shelved s (signIn email password) ms r s') :
    (∃ e, r = .error e ∧ s' = s) ∨ ∃ told, ⟨entry email password, .ok told⟩ ∈ exchangesOf ms ∧
      r = .ok (entered email password told) ∧ s' = ⟨some (entered email password told), none⟩ := by
  cases runs_signIn_iff.mp h with
  | refused e hentry => exact .inl ⟨e, rfl, shelved_entry hentry⟩
  | unsaved told e hentry hstore =>
    obtain rfl := shelved_entry hentry
    cases hstore with
    | unsaved => exact .inl ⟨e, rfl, rfl⟩
    | other _ haccount _ => exact (haccount rfl).elim
  | signedIn told hentry hstore hclear =>
    obtain rfl := shelved_entry hentry
    refine .inr ⟨told, List.mem_cons_self, rfl, ?_⟩
    cases hclear with
    | other _ _ huser => exact (huser rfl).elim
    | told =>
      cases hstore with
      | saved => rfl
      | other _ haccount _ => exact (haccount rfl).elim

private theorem account_of_shelved {x : Exchange Question.Answer} (h : Shelved s x t) :
    t.account = s.account ∨ ∃ a, saved? x = some a ∧ t.account = some a := by
  cases h with
  | loaded => exact .inl rfl
  | unloaded e => exact .inl rfl
  | saved a => exact .inr ⟨a, rfl, rfl⟩
  | unsaved a e => exact .inl rfl
  | told event => exact .inl rfl
  | other _ _ _ => exact .inl rfl

private theorem account_of_follows (h : Follows Shelved s ms t) :
    t.account = s.account ∨ ∃ a ∈ saves (exchangesOf ms), t.account = some a := by
  induction h with
  | nil s => exact .inl rfl
  | @cons s t m ms hmove _ ih =>
    rw [exchangesOf_cons, ← List.singleton_append, saves_append]
    rcases ih with hkept | ⟨a, ha, hlater⟩
    · rcases account_of_shelved hmove with hsame | ⟨a, ha, hnow⟩
      · exact .inl (hkept.trans hsame)
      · refine .inr ⟨a, List.mem_append_left _ ?_, hkept.trans hnow⟩
        exact List.mem_filterMap.mpr ⟨m.exchange, List.mem_singleton_self _, ha⟩
    · exact .inr ⟨a, List.mem_append_right _ ha, hlater⟩

private theorem account_of_ledger (h : Follows Shelved s ms t)
    (hledger : ∀ x ∈ exchangesOf ms, x.question.part = .ledger) :
    t.account = s.account := by
  have hwithin : ∀ x ∈ exchangesOf ms, Within [.ledger] x.question :=
    fun x hx => List.mem_singleton.mpr (hledger x hx)
  have hnone := saves_of_within hwithin (by decide)
  rcases account_of_follows h with hkept | ⟨a, ha, -⟩
  · exact hkept
  · rw [hnone] at ha
    cases ha

private theorem stored_of_load {x : Exchange Question.Answer} {a : Option Account} (h : Shelved s x t)
    (hx : x = ⟨.account .load, .ok a⟩) : s.account = a := by
  cases h with
  | loaded =>
    cases hx
    rfl
  | unloaded e => cases hx
  | saved a => cases hx
  | unsaved a e => cases hx
  | told event => cases hx
  | other _ haccount _ =>
    rw [hx] at haccount
    exact (haccount rfl).elim

private theorem stored_of_loggedIn {ls : Login.Exchanges} {run : Login.Run}
    (h : LoggedIn c initial ls run (exchangesOf ms))
    (hfollows : Follows Shelved s ms t) : s.account = some initial := by
  generalize hxs : exchangesOf ms = xs at h
  obtain ⟨hbefore, -, -⟩ := h
  obtain ⟨us, vs, rfl, rfl, hvs⟩ := List.map_eq_append_iff.mp hxs
  obtain ⟨m, ws, rfl, hload, -⟩ := List.map_eq_cons_iff.mp hvs
  obtain ⟨u, hus, hrest⟩ := follows_append_iff.mp hfollows
  obtain ⟨hmove, -⟩ := follows_cons_iff.mp hrest
  rw [← account_of_ledger hus hbefore]
  exact stored_of_load hmove hload

/-- Whenever the provider tells an attempt a wrapped key that can be read, it is this one. -/
def ToldWrapped (wrapped : Key32) (xs : Exchanges) : Prop :=
  ∀ token keys told, ⟨.party (.provider (.fetchKeys token)), .ok keys⟩ ∈ xs →
    Key32.ofHex? keys.wrapKB = some told → told = wrapped

/-- The key that unwraps `kB`, from the email address in its normal form. -/
def unwrapping (normal password : String) : Key32 := key normal password "driftsync/v1/unwrapBkey"

/-- What is done with the account of one client: attempts, signing in again, which may fail or be done with another
spelling of the email address, and whatever else stores no account. Of this the attempts are told. -/
inductive Usage (c : Client) (normal password : String) : Shelf → List (Made Shelf) → Shelf → Prop
  | nil (s : Shelf) : Usage c normal password s [] s
  | attempt {s t s' : Shelf} {m : Made Shelf} {made : List (Made Shelf)} :
      Runs Shelved s (run c m.extras) m.moments m.outcome t → Usage c normal password t made s' →
      Usage c normal password s (m :: made) s'
  | signedIn {s t s' : Shelf} {email : String} {ms : Moments Shelf} {a : Account} {made : List (Made Shelf)} :
      normalEmail email = normal → Runs Shelved s (signIn email password) ms (.ok a) t →
      Usage c normal password t made s' → Usage c normal password s made s'
  | refused {s t s' : Shelf} {email other : String} {ms : Moments Shelf} {e : SyncError} {made : List (Made Shelf)} :
      Runs Shelved s (signIn email other) ms (.error e) t → Usage c normal password t made s' →
      Usage c normal password s made s'
  | aside {s t s' : Shelf} {α : Type} {d : Talk α} {a : α} {ms : Moments Shelf} {made : List (Made Shelf)} :
      Runs Shelved s d ms a t → saves (exchangesOf ms) = [] → Usage c normal password t made s' →
      Usage c normal password s made s'

variable {kB unwrapKey wrapped : Key32} {extras : SyncExtras} {o : SyncOutcome} {made : List (Made Shelf)}
  {ls : Login.Exchanges} {run : Login.Run} {xs : Exchanges}

private theorem tellsWrapped_of_translated (h : Translated ofLogin ls xs) (htold : ToldWrapped wrapped xs) :
    TellsWrapped wrapped ls := by
  intro token keys told hmem hread
  obtain ⟨part, hpart, hsub⟩ := h.exists_part hmem
  obtain rfl := course_question_iff.mp hpart
  exact htold token keys told (hsub (List.mem_singleton_self _)) hread

private theorem ToldWrapped.mono {ys : Exchanges} (h : ToldWrapped wrapped ys) (hsub : xs ⊆ ys) :
    ToldWrapped wrapped xs :=
  fun token keys told hmem hread => h token keys told (hsub hmem) hread

private theorem recovers_kept (h : Recovers kB unwrapKey run.state) (xs : Exchanges) :
    Recovers kB unwrapKey (kept run xs) := by
  unfold kept
  split
  · rename_i m hm
    rw [hm] at h
    split
    · exact h
    · exact h
  · exact h

private theorem recovers_of_loggedIn (h : LoggedIn c initial ls run xs) (htold : ToldWrapped (kB.xor unwrapKey) xs)
    (hinitial : Recovers kB unwrapKey initial) : ∀ a ∈ initial :: run.state :: states ls, Recovers kB unwrapKey a := by
  obtain ⟨-, hcourse, htranslated⟩ := h
  have htells := tellsWrapped_of_translated htranslated (htold.mono fun _ hx =>
    List.mem_append_right _ (List.mem_cons_of_mem _ (List.mem_append_left _ hx)))
  intro a ha
  rcases List.mem_cons.mp ha with rfl | ha
  · exact hinitial
  · exact recovers_of_advance hcourse htells hinitial a ha

private theorem recovers_of_run (h : Runs Shelved s (AccountSync.Attempt.run c extras) ms o t)
    (htold : ToldWrapped (kB.xor unwrapKey) (exchangesOf ms)) (hs : ∀ a ∈ s.account, Recovers kB unwrapKey a) :
    ∀ a ∈ t.account, Recovers kB unwrapKey a := by
  rcases account_of_follows h.2 with hkept | ⟨a, ha, hsaved⟩
  · rw [hkept]
    exact hs
  · rw [hsaved]
    rintro _ ⟨⟩
    rcases saves_of_run h with hidle | ⟨initial, ls, run, hlogged, hsaves⟩
    · rw [saves_of_idle hidle] at ha
      cases ha
    · have hinitial := hs initial (stored_of_loggedIn hlogged h.2)
      have hstate := recovers_of_loggedIn hlogged htold hinitial run.state (List.mem_cons_of_mem _ List.mem_cons_self)
      rw [hsaves] at ha
      split at ha
      · cases ha
      · obtain rfl := List.mem_singleton.mp ha
        exact recovers_kept hstate _

/-- Whatever is done with the account, it goes on to recover the same `kB`. -/
theorem Usage.recovers (h : Usage c normal password s made s')
    (htold : ∀ m ∈ made, ToldWrapped (kB.xor (unwrapping normal password)) (exchangesOf m.moments))
    (hs : ∀ a ∈ s.account, Recovers kB (unwrapping normal password) a) :
    (∀ a ∈ s'.account, Recovers kB (unwrapping normal password) a) ∧
      ∀ m ∈ made, ∀ initial ls run, LoggedIn c initial ls run (exchangesOf m.moments) →
        ∀ a ∈ initial :: run.state :: states ls, Recovers kB (unwrapping normal password) a := by
  induction h with
  | nil s => exact ⟨hs, nofun⟩
  | @attempt s t s' m made hrun _ ih =>
    have hfirst := htold m List.mem_cons_self
    obtain ⟨hend, hlater⟩ := ih (fun m hm => htold m (List.mem_cons_of_mem _ hm)) (recovers_of_run hrun hfirst hs)
    refine ⟨hend, ?_⟩
    intro m' hm'
    rcases List.mem_cons.mp hm' with rfl | hm'
    · intro initial ls run hlogged
      exact recovers_of_loggedIn hlogged hfirst (hs initial (stored_of_loggedIn hlogged hrun.2))
    · exact hlater m' hm'
  | signedIn hnormal hrun _ ih =>
    refine ih htold ?_
    rcases shelf_of_signIn hrun with ⟨e, he, -⟩ | ⟨told, -, -, rfl⟩
    · cases he
    · rintro _ ⟨⟩
      rw [← hnormal]
      rfl
  | refused hrun _ ih =>
    refine ih htold ?_
    rcases shelf_of_signIn hrun with ⟨e, -, rfl⟩ | ⟨told, -, ha, -⟩
    · exact hs
    · cases ha
  | aside hrun hsaves _ ih =>
    refine ih htold ?_
    rcases account_of_follows hrun.2 with hkept | ⟨a, ha, -⟩
    · rw [hkept]
      exact hs
    · rw [hsaves] at ha
      cases ha

/-- Signing in that fails leaves the account and the notice as they are, and it only fails if the provider or the store
does. Otherwise just the account that it returns is stored and no notice stands; the account has the email address as it
was typed, what the provider told, and the key that follows from the password and the email address without blanks around
it and in small letters. If the provider wraps a `kB` for that key, every state that later attempts take the account to
has this `kB` once it has any, and so has what is stored after them, though one may have signed in again meanwhile with
the email address in another spelling of the same normal form. -/
theorem signIn_all_or_nothing (h : Runs Shelved s (signIn email password) ms r s') :
    (∀ e, r = .error e → s' = s) ∧
    (∀ told, ⟨entry email password, .ok told⟩ ∈ exchangesOf ms →
      ⟨.account (.save (entered email password told)), .ok ()⟩ ∈ exchangesOf ms → r = .ok (entered email password told)) ∧
    ∀ a, r = .ok a → s' = ⟨some a, none⟩ ∧
      (∃ told, ⟨entry email password, .ok told⟩ ∈ exchangesOf ms ∧
        a = .engaged ⟨email, told.uid, told.verified, told.sessionToken, told.keyFetchToken,
          key (Text.LetterCase.lower (Text.trim email)) password "driftsync/v1/unwrapBkey"⟩) ∧
      ∀ c made t kB, Usage c (normalEmail email) password s' made t →
        (∀ m ∈ made, ToldWrapped (kB.xor (unwrapping (normalEmail email) password)) (exchangesOf m.moments)) →
        (∀ m ∈ made, ∀ initial ls run, LoggedIn c initial ls run (exchangesOf m.moments) →
          ∀ state ∈ initial :: run.state :: states ls, ∀ k, credentials? state = some k → k.kB = kB) ∧
        ∀ state ∈ t.account, ∀ k, credentials? state = some k → k.kB = kB := by
  refine ⟨?_, ?_, ?_⟩
  · rintro e rfl
    rcases shelf_of_signIn h with ⟨_, -, hsame⟩ | ⟨told, -, hok, -⟩
    · exact hsame
    · cases hok
  · intro told hentry hsave
    cases runs_signIn_iff.mp h with
    | refused e _ => simp [entry] at hentry
    | unsaved told' e _ _ => simp [entry] at hsave
    | signedIn told' _ _ _ =>
      have htold : told = told' := by simpa [entry] using hentry
      rw [htold]
  · rintro a rfl
    rcases shelf_of_signIn h with ⟨_, he, -⟩ | ⟨told, hentry, hok, hshelf⟩
    · cases he
    · obtain rfl := Except.ok.inj hok
      refine ⟨hshelf, ⟨told, hentry, rfl⟩, ?_⟩
      intro c made t kB husage htold
      have hentered : ∀ a ∈ s'.account, Recovers kB (unwrapping (normalEmail email) password) a := by
        rw [hshelf]
        rintro _ ⟨⟩
        rfl
      obtain ⟨hend, hstates⟩ := husage.recovers htold hentered
      refine ⟨?_, ?_⟩
      · intro m hm initial ls run hlogged state hstate k hk
        exact (hstates m hm initial ls run hlogged state hstate).kB_eq hk
      · intro state hstate k hk
        exact (hend state hstate).kB_eq hk

/-- A provider that wraps every `kB` to the key that is zero throughout and signs nothing. -/
def answerZero (q : Question) (s : Shelf) : q.Answer × Shelf :=
  match q with
  | .account .load => (.ok s.account, s)
  | .account (.save a) => (.ok (), { s with account := some a })
  | .notice event => ((), { s with notice := Notice.after event })
  | .party (.provider (.login ..)) => (.ok ⟨"u", "s", "k", true⟩, s)
  | .party (.provider (.fetchKeys _)) => (.ok ⟨Key32.zero.hex, Key32.zero.hex⟩, s)
  | .party (.provider (.signCertificate ..)) => (.error (.malformed "busy"), s)
  | q => (silence q, s)

private theorem shelved_answerZero (q : Question) (s : Shelf) :
    Shelved s ⟨q, (answerZero q s).1⟩ (answerZero q s).2 := by
  cases q with
  | ledger q => exact .other _ _ nofun nofun
  | account call =>
    cases call with
    | load => exact .loaded s
    | save a => exact .saved s a
  | notice event => exact .told s event
  | work duration => exact .other _ _ nofun nofun
  | party q =>
    cases q with
    | provider q => cases q <;> exact .other _ _ nofun nofun
    | _ => exact .other _ _ nofun nofun

private theorem toldWrapped_answerZero (d : Talk SyncOutcome) (s : Shelf) :
    ToldWrapped Key32.zero (exchangesOf (d.record answerZero s)) := by
  intro token keys told hmem hread
  rw [exchangesOf_record] at hmem
  obtain ⟨u, hanswer⟩ := answer_of_exchanges hmem
  obtain rfl := Except.ok.inj hanswer
  rw [Key32.ofHex?_hex] at hread
  exact (Option.some.inj hread).symm

private theorem runs_signIn_granted (s : Shelf) (email password : String) (told : Provider.LoginResponse) :
    ∃ ms, Runs Shelved s (signIn email password) ms (.ok (entered email password told))
      ⟨some (entered email password told), none⟩ :=
  ⟨_, runs_signIn_iff.mpr (.signedIn told (.other s _ nofun nofun) (.saved s _) (.told _ .clear))⟩

private theorem runs_attempt_answerZero (c : Client) (extras : SyncExtras) (s : Shelf) :
    ∃ m : Made Shelf, Runs Shelved s (AccountSync.Attempt.run c m.extras) m.moments m.outcome
      ((AccountSync.Attempt.run c extras).run answerZero s).2 ∧ ToldWrapped Key32.zero (exchangesOf m.moments) :=
  ⟨attemptIn answerZero c extras s, runs_record shelved_answerZero _ s, toldWrapped_answerZero _ s⟩

def adaTold : Provider.LoginResponse := ⟨"u", "s", "k", true⟩

/-- What is stored once Ada has signed in, by the spelling of her address. -/
def adaShelf (email : String) : Shelf := ⟨some (entered email "pw" adaTold), none⟩

def adaClient : Client := ⟨{}, "a", "t"⟩

/-- Ada signs in, and once more with another spelling of her address between two attempts. In the end she has her keys. -/
theorem signIn_all_or_nothing_ada : ∃ ms a s', Runs Shelved ⟨none, some (.separated, .needsPassword)⟩
    (signIn " ADA@example.org" "pw") ms (.ok a) s' ∧ s' = ⟨some a, none⟩ ∧
    ∃ made t k, Usage adaClient "ada@example.org" "pw" s' made t ∧ made.length = 2 ∧
      t.account = some (.cohabiting k) ∧ k.kB = Key32.zero.xor (unwrapping "ada@example.org" "pw") := by
  have hfirst : normalEmail " ADA@example.org" = "ada@example.org" := by decide +kernel
  have hsecond : normalEmail "ada@example.org " = "ada@example.org" := by decide +kernel
  have hlabel : ((AccountSync.Attempt.run adaClient ⟨true⟩).run answerZero
      (adaShelf "ada@example.org ")).2.account.map Account.label = some .cohabiting := by decide +kernel
  obtain ⟨ms, hsign⟩ :=
    runs_signIn_granted ⟨none, some (.separated, .needsPassword)⟩ " ADA@example.org" "pw" adaTold
  obtain ⟨m, hattempt, htold⟩ := runs_attempt_answerZero adaClient ⟨true⟩ (adaShelf " ADA@example.org")
  obtain ⟨_, hagain⟩ := runs_signIn_granted ((AccountSync.Attempt.run adaClient ⟨true⟩).run answerZero
    (adaShelf " ADA@example.org")).2 "ada@example.org " "pw" adaTold
  obtain ⟨m', hattempt', htold'⟩ := runs_attempt_answerZero adaClient ⟨true⟩ (adaShelf "ada@example.org ")
  generalize ((AccountSync.Attempt.run adaClient ⟨true⟩).run answerZero (adaShelf "ada@example.org ")).2 = t
    at hattempt' hlabel
  have husage := Usage.attempt hattempt (.signedIn hsecond hagain (.attempt hattempt' (.nil t)))
  have hwrapped : ∀ made ∈ [m, m'], ToldWrapped ((Key32.zero.xor (unwrapping "ada@example.org" "pw")).xor
      (unwrapping "ada@example.org" "pw")) (exchangesOf made.moments) := by
    rw [Key32.xor_xor]
    exact List.forall_mem_cons.mpr ⟨htold, List.forall_mem_singleton.mpr htold'⟩
  obtain ⟨-, -, hok⟩ := signIn_all_or_nothing hsign
  obtain ⟨hshelf, -, hlater⟩ := hok _ rfl
  rw [hfirst] at hlater
  obtain ⟨-, hend⟩ := hlater adaClient [m, m'] t _ husage hwrapped
  obtain ⟨state, hstate, hcohabits⟩ := Option.map_eq_some_iff.mp hlabel
  cases state with
  | cohabiting k => exact ⟨ms, _, _, hsign, hshelf, [m, m'], t, k, husage, rfl, hstate, hend _ hstate k rfl⟩
  | engaged s => cases hcohabits
  | married m => cases hcohabits
  | separated o => cases hcohabits
  | doghouse o => cases hcohabits

end Shelf

end AccountSync.Attempt
