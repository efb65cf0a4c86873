import AccountSync.Proofs.Attempt.Spacing
import AccountSync.Proofs.Attempt.Story
import AccountSync.Proofs.Storage.Dates

/-!
Dates to come back at, and the attempts that follow. The engine sees responses while it is driven, which happens in one
place of an attempt (`driven_of_run`). Main statement: `dates_kept`, how far a date that a server names is honoured by
the deadlines, and by every later attempt that is not forced.
-/

set_option autoImplicit false
set_option relaxedAutoImplicit false

namespace AccountSync.Attempt

open Dialogue

section Ways

variable {σ : Type} {move : σ → Exchange Question.Answer → σ → Prop} {c : Client} {m : Married} {initial : Account}
  {token : TokenServer.Token} {forced : Bool} {extras : SyncExtras} {parts : List Part} {step : Storage.Step}
  {answer : step.Answer} {s s' v : σ} {ms : Moments σ} {r : SyncOutcome}

/-- The engine hears an answer while it is driven: the way to there, and what is left of the attempt. -/
inductive Driven (move : σ → Exchange Question.Answer → σ → Prop) (c : Client) (step : Storage.Step)
    (answer : step.Answer) (v s : σ) : Moments σ → SyncOutcome → σ → Prop
  | intro {t u s' : σ} {before during behind : Moments σ} {x : Storage.Session} {plan : Storage.Plan}
      {o : Storage.Outcome} {m : Married} {r : SyncOutcome} : Follows move s before t →
      Runs move t (drive x plan) during o u → ⟨⟨.party (.tell step answer), ()⟩, v⟩ ∈ during →
      Runs move u (conclude c m o) behind r s' → Driven move c step answer v s (before ++ (during ++ behind)) r s'

private theorem Driven.prepend {t : σ} {xs : Moments σ} (h : Driven move c step answer v t ms r s')
    (hx : Follows move s xs t) : Driven move c step answer v s (xs ++ ms) r s' := by
  cases h with
  | intro hbefore hdrive hmem hend =>
    rw [← List.append_assoc]
    exact .intro (follows_append_iff.mpr ⟨_, hx, hbefore⟩) hdrive hmem hend

private theorem not_tell_of_confined (h : Confined parts ms) (hp : .engine ∉ parts) :
    ⟨⟨.party (.tell step answer), ()⟩, v⟩ ∉ ms :=
  fun hm => hp (h _ hm)

private theorem driven_of_syncStorage (h : Runs move s (syncStorage c m token forced) ms r s')
    (hm : ⟨⟨.party (.tell step answer), ()⟩, v⟩ ∈ ms) : Driven move c step answer v s ms r s' := by
  cases handing_of_runs h with
  | unreadable _ => cases hm
  | unswitched _ hswitch => exact (not_tell_of_confined (confined_of_runs (asks_books _) hswitch) (by decide) hm).elim
  | gated _ hswitch hgate =>
    have hledger := confined_append.mpr
      ⟨confined_of_runs (asks_books _) hswitch, confined_of_runs (asks_gate _ _) hgate⟩
    exact (not_tell_of_confined hledger (by decide) hm).elim
  | @started t u w y z _ xs ys zs us vs endpoint changed skew plan o _ _ hswitch hgate hskew hstart hdrive hend =>
    have hxs := confined_of_runs (asks_books _) hswitch
    have hys := confined_of_runs (asks_gate _ _) hgate
    have hzs := confined_of_runs (asks_books _) hskew
    have hvs := confined_of_runs (asks_conclude c m o) hend
    have hbefore : Follows move s (xs ++ (ys ++ (zs ++
        [⟨⟨.party (.startEngine (session m token endpoint skew forced)), plan⟩, y⟩]))) y :=
      follows_append_iff.mpr ⟨_, hswitch.2, follows_append_iff.mpr ⟨_, hgate.2, follows_append_iff.mpr
        ⟨_, hskew.2, .cons hstart (.nil y)⟩⟩⟩
    have hduring : ⟨⟨.party (.tell step answer), ()⟩, v⟩ ∈ us := by
      rcases List.mem_append.mp hm with hm | hm
      · exact (not_tell_of_confined hxs (by decide) hm).elim
      rcases List.mem_append.mp hm with hm | hm
      · exact (not_tell_of_confined hys (by decide) hm).elim
      rcases List.mem_append.mp hm with hm | hm
      · exact (not_tell_of_confined hzs (by decide) hm).elim
      rcases List.mem_cons.mp hm with hm | hm
      · cases hm
      rcases List.mem_append.mp hm with hm | hm
      · exact hm
      · exact (not_tell_of_confined hvs (by decide) hm).elim
    have hdriven := Driven.intro (c := c) hbefore hdrive hduring hend
    simpa only [List.append_assoc, List.singleton_append] using hdriven

private theorem driven_of_syncMarried (h : Runs move s (syncMarried c initial m forced) ms r s')
    (hm : ⟨⟨.party (.tell step answer), ()⟩, v⟩ ∈ ms) : Driven move c step answer v s ms r s' := by
  cases trading_of_runs h with
  | @accepted t u w _ xs ys zs us token _ hfetch hpersist hclear hstorage =>
    have hxs := confined_of_runs (asks_fetchToken c m) hfetch
    have hys := confined_of_runs (asks_persist _ _) hpersist
    have hzs := confined_of_runs (asks_notice _) hclear
    have hbefore : Follows move s (xs ++ (ys ++ zs)) w :=
      follows_append_iff.mpr ⟨_, hfetch.2, follows_append_iff.mpr ⟨_, hpersist.2, hclear.2⟩⟩
    have hstored : ⟨⟨.party (.tell step answer), ()⟩, v⟩ ∈ us := by
      rcases List.mem_append.mp hm with hm | hm
      · exact (not_tell_of_confined hxs (by decide) hm).elim
      rcases List.mem_append.mp hm with hm | hm
      · exact (not_tell_of_confined hys (by decide) hm).elim
      rcases List.mem_append.mp hm with hm | hm
      · exact (not_tell_of_confined hzs (by decide) hm).elim
      · exact hm
    have hdriven := (driven_of_syncStorage hstorage hstored).prepend hbefore
    simpa only [List.append_assoc] using hdriven
  | rejected hfetch hpersist hnotice =>
    have hquiet : Confined [.ledger, .verifier, .token, .account, .user] _ :=
      confined_append.mpr ⟨(confined_of_runs (asks_fetchToken c m) hfetch).mono (by decide),
        confined_append.mpr ⟨(confined_of_runs (asks_persist _ _) hpersist).mono (by decide),
          (confined_of_runs (asks_notice _) hnotice).mono (by decide)⟩⟩
    exact (not_tell_of_confined hquiet (by decide) hm).elim
  | failed hfetch hpersist =>
    have hquiet : Confined [.ledger, .verifier, .token, .account] _ :=
      confined_append.mpr ⟨(confined_of_runs (asks_fetchToken c m) hfetch).mono (by decide),
        (confined_of_runs (asks_persist _ _) hpersist).mono (by decide)⟩
    exact (not_tell_of_confined hquiet (by decide) hm).elim

theorem driven_of_run (h : Runs move s (run c extras) ms r s')
    (hm : ⟨⟨.party (.tell step answer), ()⟩, v⟩ ∈ ms) : Driven move c step answer v s ms r s' := by
  cases arriving_of_runs h with
  | idle hidle =>
    have hledger : Part.engine ∈ [Part.ledger, Part.account] := within_of_idle hidle _ (List.mem_map_of_mem hm)
    exact absurd hledger (by decide)
  | @loaded t u _ xs ys initial _ hopen hload hsync =>
    have hxs := confined_of_runs (asks_opening c extras.forced) hopen
    have hsynced : ⟨⟨.party (.tell step answer), ()⟩, v⟩ ∈ ys := by
      rcases List.mem_append.mp hm with hm | hm
      · exact (not_tell_of_confined hxs (by decide) hm).elim
      rcases List.mem_cons.mp hm with hm | hm
      · cases hm
      · exact hm
    cases syncing_of_runs hsync with
    | @married w _ as bs login m _ hlogin _ hmarried =>
      have has := confined_of_runs asks_login hlogin
      have hfetched : ⟨⟨.party (.tell step answer), ()⟩, v⟩ ∈ bs := by
        rcases List.mem_append.mp hsynced with hm | hm
        · exact (not_tell_of_confined has (by decide) hm).elim
        · exact hm
      have hbefore : Follows move s (xs ++ ⟨⟨.account .load, .ok (some initial)⟩, u⟩ :: as) w :=
        follows_append_iff.mpr ⟨_, hopen.2, .cons hload hlogin.2⟩
      have hdriven := (driven_of_syncMarried hmarried hfetched).prepend hbefore
      simpa only [List.append_assoc, List.cons_append] using hdriven
    | @short _ _ _ _ as bs cs ds _ _ hlogin _ hinterval hpersist hnot =>
      have hquiet : Confined [.ledger, .identity, .keys, .host, .account, .user] (as ++ (bs ++ (cs ++ ds))) :=
        confined_append.mpr ⟨(confined_of_runs asks_login hlogin).mono (by decide),
          confined_append.mpr ⟨(confined_of_runs (asks_requestInterval _) hinterval).mono (by decide),
            confined_append.mpr ⟨(confined_of_runs (asks_persist _ _) hpersist).mono (by decide),
              (confined_of_runs (asks_notMarried _) hnot).mono (by decide)⟩⟩⟩
      exact (not_tell_of_confined hquiet (by decide) hsynced).elim

end Ways

section Records

variable {c : Client} {extras : SyncExtras} {s s' t v : Ledger.State} {ms ns before rest : Moments Ledger.State}
  {status : UInt16} {headers : Http.Headers} {answer : Except SyncError (Option Nat)} {assertion tag : String}
  {r : SyncOutcome}

private theorem Elapses.clock_le {x : Exchange Question.Answer} (h : Elapses s x s') : s.clock ≤ s'.clock := by
  by_cases hledger : x.question.part = .ledger
  · obtain ⟨q, a⟩ := x
    cases q with
    | ledger q => exact Ledger.Passes.clock_le h
    | account call => cases hledger
    | notice event => cases hledger
    | work duration => cases hledger
    | party q => cases q <;> cases hledger
  · exact (h.forward hledger).clock

/-- A response that an engine has seen was looked at when the clock was read. The scheduler's deadline keeps the date
that it names. -/
def Seen (status : UInt16) (headers : Http.Headers) (answer : Except SyncError (Option Nat))
    (ms : Moments Ledger.State) (s : Ledger.State) : Prop :=
  ∃ now t, ⟨⟨.ledger .now, now⟩, t⟩ ∈ ms ∧ now ≤ s.clock ∧ answer = .ok (headers.backoffSignal status now).delay? ∧
    ∀ date, headers.Appoints status now date → Keeps now date (s.earliest .scheduler)

private theorem Seen.forward (h : Seen status headers answer ms s) (hsub : ms ⊆ ns) (hf : Ledger.Forward s s') :
    Seen status headers answer ns s' := by
  obtain ⟨now, t, hmem, hnow, hanswer, hkeeps⟩ := h
  refine ⟨now, t, hsub hmem, UInt64.le_trans hnow hf.clock, hanswer, ?_⟩
  exact fun date happoints => (hkeeps date happoints).mono (hf.earliest _ Ledger.lasting_scheduler)

private theorem seen_of_observe {x : Storage.Session} (hw : s.Working)
    (h : Runs Elapses s (books (x.observe status headers)) ms answer s') : Seen status headers answer ms s' := by
  obtain ⟨ns, rfl, hns⟩ := runs_books h
  obtain ⟨now, t, hmem, _, hnow, hanswer, hkeeps⟩ := Storage.Session.keeps_of_observe hw hns
  refine ⟨now, t, List.mem_map.mpr ⟨_, hmem, rfl⟩, hnow, hanswer, ?_⟩
  intro date happoints
  exact hkeeps date happoints .scheduler (List.mem_cons_of_mem _ List.mem_cons_self)

private theorem seen_of_drive {x : Storage.Session} {plan : Storage.Plan} {o : Storage.Outcome} (hw : s.Working)
    (h : Runs Elapses s (drive x plan) ms o s')
    (hm : ⟨⟨.party (.tell (.observe status headers) answer), ()⟩, v⟩ ∈ ms) : Seen status headers answer ms s' := by
  induction plan generalizing s ms with
  | done o =>
    obtain ⟨rfl, _, _⟩ := runs_pure_iff.mp h
    cases hm
  | ask step next ih =>
    obtain ⟨xs, a, u, rest, hstep, hrest, rfl⟩ := runs_bind_iff.mp h
    obtain ⟨ys, b, t, zs, hperform, htold, rfl⟩ := runs_bind_iff.mp hstep
    obtain ⟨us, _, w, vs, htell, hpure, rfl⟩ := runs_bind_iff.mp htold
    obtain ⟨rfl, hmove⟩ := runs_question_iff.mp htell
    obtain ⟨rfl, rfl, rfl⟩ := runs_pure_iff.mp hpure
    have hst := (perform_reaches hw hperform).1
    have htu : Ledger.Forward t u := hmove.forward (by simp [Question.part])
    have hwu := (hst.trans htu).working hw
    rcases List.mem_append.mp hm with hm | hm
    · rcases List.mem_append.mp hm with hm | hm
      · have htold := told_of_perform hperform.1
        have hmem : (⟨.observe status headers, answer⟩ : Exchange Storage.Step.Answer) ∈ told (exchangesOf ys) :=
          List.mem_filterMap.mpr ⟨_, List.mem_map_of_mem hm, rfl⟩
        rw [htold] at hmem
        cases hmem
      · cases List.mem_singleton.mp hm
        have hseen := seen_of_observe hw hperform
        have hforward := htu.trans (drive_reaches hwu hrest).1
        refine hseen.forward ?_ hforward
        exact fun y hy => List.mem_append_left _ (List.mem_append_left _ hy)
    · exact (ih a hwu hrest hm).forward (List.subset_append_right _ _) (.refl _)

private theorem seen_of_run (hw : s.Working) (h : Runs Elapses s (run c extras) ms r s')
    (hm : ⟨⟨.party (.tell (.observe status headers) answer), ()⟩, v⟩ ∈ ms) : Seen status headers answer ms s' := by
  cases driven_of_run h hm with
  | @intro t u _ before during behind x plan o m _ hbefore hdrive hmem hend =>
    have ht := working_of_follows hw hbefore
    have hu := working_of_follows ht hdrive.2
    have hf := (pays_of_asks (asks_conclude c m o) (by decide) _ _ _ _ hu hend).1
    refine (seen_of_drive ht hdrive hmem).forward ?_ hf
    exact fun y hy => List.mem_append_right _ (List.mem_append_left _ hy)

/-- The token server's answer is there when the attempt goes on: that is what its delay is counted from. -/
theorem after_le_of_exchange {response : TokenServer.Response} (hw : s.Working)
    (h : Runs Elapses s (run c extras)
      (before ++ ⟨⟨.party (.exchange assertion tag), .ok response⟩, v⟩ :: rest) r s') :
    v.clock ≤ s'.clock ∧ (requested response.backoff ≠ 0 →
      after v.clock (requested response.backoff) ≤ s'.earliest .tokenServer ∧
      after v.clock (requested response.backoff) ≤ s'.earliest .scheduler) := by
  obtain ⟨u, hbefore, hbehind⟩ := follows_append_iff.mp h.2
  obtain ⟨hmove, hrest⟩ := follows_cons_iff.mp hbehind
  have hv : v.Working := working_of_follows (working_of_follows hw hbefore) (.cons hmove (.nil v))
  have hclock : v.clock ≤ s'.clock := hrest.keeps (R := fun a b => a.clock ≤ b.clock) (fun _ => UInt64.le_refl _)
    (fun _ _ _ => UInt64.le_trans) fun _ _ _ hm => hm.clock_le
  refine ⟨hclock, ?_⟩
  obtain ⟨hopen, -, hlogin, hm, hmarried⟩ := reaching_of_runs h
  rename_i between _ _ _
  obtain ⟨_, hloggedIn⟩ := exists_loggedIn hopen hlogin between
  exact (traded_of_syncMarried hv ⟨rfl, rfl⟩ hloggedIn.course hm hmarried).1

private theorem keeps_of_exchange {now : Instant} {response : Http.Response} {date : Int} (hw : s.Working)
    (h : Runs Elapses s (run c extras)
      (before ++ ⟨⟨.party (.exchange assertion tag), .ok (.ofHttp now response)⟩, v⟩ :: rest) r s')
    (hnow : now ≤ v.clock) (happoints : response.headers.Appoints response.status now date) :
    now ≤ s'.clock ∧ Keeps now date (s'.earliest .tokenServer) ∧ Keeps now date (s'.earliest .scheduler) := by
  obtain ⟨hclock, hreach⟩ := after_le_of_exchange hw h
  refine ⟨UInt64.le_trans hnow hclock, ?_, ?_⟩
  · exact happoints.keeps hnow fun hne => (hreach hne).1
  · exact happoints.keeps hnow fun hne => (hreach hne).2

/-- The scheduler's deadline keeps the dates that responses in an attempt have named. -/
structure Booked (ms : Moments Ledger.State) (s : Ledger.State) : Prop where
  token : ∀ assertion tag now response v,
    ⟨⟨.party (.exchange assertion tag), .ok (.ofHttp now response)⟩, v⟩ ∈ ms → now ≤ v.clock →
      ∀ date, response.headers.Appoints response.status now date →
        now ≤ s.clock ∧ Keeps now date (s.earliest .scheduler)
  engine : ∀ status headers answer v, ⟨⟨.party (.tell (.observe status headers) answer), ()⟩, v⟩ ∈ ms →
    Seen status headers answer ms s

private theorem Booked.forward (h : Booked ms s) (hf : Ledger.Forward s s') : Booked ms s' where
  token assertion tag now response v hm hnow date happoints := by
    obtain ⟨hclock, hkeeps⟩ := h.token assertion tag now response v hm hnow date happoints
    exact ⟨UInt64.le_trans hclock hf.clock, hkeeps.mono (hf.earliest _ Ledger.lasting_scheduler)⟩
  engine status headers answer v hm := (h.engine status headers answer v hm).forward (List.Subset.refl ms) hf

private theorem booked_of_run (hw : s.Working) (h : Runs Elapses s (run c extras) ms r s') : Booked ms s' where
  token assertion tag now response v hm hnow date happoints := by
    obtain ⟨before, rest, rfl⟩ := List.append_of_mem hm
    obtain ⟨hclock, -, hkeeps⟩ := keeps_of_exchange hw h hnow happoints
    exact ⟨hclock, hkeeps⟩
  engine status headers answer v hm := seen_of_run hw h hm

private theorem clock_le_begun {now : Instant} (h : Follows Elapses s ms s') (hbegun : begun ms = some now) :
    s.clock ≤ now := by
  cases h with
  | nil => cases hbegun
  | cons hmove _ =>
    cases hbegun
    exact hmove.clock_le

end Records

/-- Over a store that works, the time of a failed response that names a date to come back at is counted in whole seconds
from a reading of the clock. So the deadline of a storage host whose response was observed, and that of the token server
after an exchange, fall short of the date by what is left over of a second at most, if the date is a second ahead; and
so does the beginning of any later attempt that is not forced and turns to anybody. -/
theorem dates_kept (c : Client) :
    (∀ (x : Storage.Session) status headers s ms r s', s.Working →
      Runs Ledger.Passes s (x.observe status headers) ms r s' →
      ∃ now t, ⟨⟨.now, now⟩, t⟩ ∈ ms ∧ s.clock ≤ now ∧ now ≤ s'.clock ∧
        r = .ok (headers.backoffSignal status now).delay? ∧ ∀ date, headers.Appoints status now date →
          Keeps now date (s'.earliest (.storage x.host)) ∧ Keeps now date (s'.earliest .scheduler)) ∧
    (∀ extras s before assertion tag now response v rest r s', s.Working →
      Runs Elapses s (run c extras)
        (before ++ ⟨⟨.party (.exchange assertion tag), .ok (.ofHttp now response)⟩, v⟩ :: rest) r s' →
      now ≤ v.clock → ∀ date, response.headers.Appoints response.status now date →
        Keeps now date (s'.earliest .tokenServer) ∧ Keeps now date (s'.earliest .scheduler)) ∧
    (∀ s made s', s.Working → History Elapses c s made s' →
      made.Pairwise fun earlier later => later.extras.forced = false → Passed later.moments →
        ∃ begins, begun later.moments = some begins ∧
          (∀ assertion tag now response v,
            ⟨⟨.party (.exchange assertion tag), .ok (.ofHttp now response)⟩, v⟩ ∈ earlier.moments → now ≤ v.clock →
              ∀ date, response.headers.Appoints response.status now date → Honours now date begins) ∧
          (∀ status headers answer v,
            ⟨⟨.party (.tell (.observe status headers) answer), ()⟩, v⟩ ∈ earlier.moments →
              ∃ now t, ⟨⟨.ledger .now, now⟩, t⟩ ∈ earlier.moments ∧
                answer = .ok (headers.backoffSignal status now).delay? ∧
                ∀ date, headers.Appoints status now date → Honours now date begins)) := by
  refine ⟨?_, ?_, ?_⟩
  · intro x status headers s ms r s' hw h
    obtain ⟨now, t, hmem, hbegun, hnow, hanswer, hkeeps⟩ := Storage.Session.keeps_of_observe hw h
    refine ⟨now, t, hmem, hbegun, hnow, hanswer, fun date happoints => ⟨?_, ?_⟩⟩
    · exact hkeeps date happoints _ List.mem_cons_self
    · exact hkeeps date happoints _ (List.mem_cons_of_mem _ List.mem_cons_self)
  · intro extras s before assertion tag now response v rest r s' hw h hnow date happoints
    exact (keeps_of_exchange hw h hnow happoints).2
  · intro s made s' hw h
    -- What an attempt leaves behind is the scheduler's deadline, which is never taken back.
    refine h.pairwise (I := Ledger.State.Working) (D := fun m t => Booked m.moments t) ?_ hw
    intro s m t hs hr
    have hst := (pays_run c m.extras _ _ _ _ hs hr).1
    refine ⟨hst.working hs, booked_of_run hs hr, fun e hbooked => ⟨hbooked.forward hst, ?_⟩⟩
    intro hforced hp
    obtain ⟨begins, hbegun, hfree⟩ := begun_of_run hforced hr hp
    have hbegins := clock_le_begun hr.2 hbegun
    refine ⟨begins, hbegun, ?_, ?_⟩
    · intro assertion tag now response v hm hnow date happoints
      obtain ⟨hclock, hkeeps⟩ := hbooked.token assertion tag now response v hm hnow date happoints
      exact hkeeps.honours happoints.ahead (UInt64.le_trans hclock hbegins) hfree
    · intro status headers answer v hm
      obtain ⟨now, u, hread, hclock, hanswer, hkeeps⟩ := hbooked.engine status headers answer v hm
      refine ⟨now, u, hread, hanswer, fun date happoints => ?_⟩
      exact (hkeeps date happoints).honours happoints.ahead (UInt64.le_trans hclock hbegins) hfree

def busyUntil : Http.Response := ⟨503, [.ofText "Retry-After" "Tue, 14 Nov 2023 22:14:50 GMT"], []⟩

private theorem appoints_busyUntil : busyUntil.headers.Appoints 503 1700000000500 1700000090000 where
  failed := by decide
  dated := by
    have hreads : Http.Reads (Text.Utf8.bytes "Tue, 14 Nov 2023 22:14:50 GMT") "Tue, 14 Nov 2023 22:14:50 GMT" :=
      Http.reads_iff.mpr (by decide +kernel)
    refine ⟨Text.Utf8.bytes "Tue, 14 Nov 2023 22:14:50 GMT", rfl, ?_, _, hreads, by decide +kernel⟩
    intro n hn
    have hnone : Text.Decimal.word? "Tue, 14 Nov 2023 22:14:50 GMT" = none := by decide
    rw [hreads.numeral_iff, hnone] at hn
    cases hn
  ahead := by decide

/-- A ledger, a married account that takes a while to be saved, a provider that signs anything, and that server. -/
def answerUntil (q : Question) (s : Ledger.State) : q.Answer × Ledger.State :=
  match q with
  | .ledger q => s.answer q
  | .account .load => (.ok (some (.married ⟨⟨"ada@example.org", "u", "s", .zero, .zero, default⟩, "x"⟩)), s)
  | .account (.save _) => (.ok (), s.advance 89000)
  | .party (.provider (.signCertificate ..)) => (.ok "y", s)
  | .party (.exchange ..) => (.ok (.ofHttp 1700000000500 busyUntil), s)
  | q => (silence q, s)

private theorem elapses_answerUntil (q : Question) (s : Ledger.State) :
    Elapses s ⟨q, (answerUntil q s).1⟩ (answerUntil q s).2 := by
  cases q with
  | ledger q => exact ⟨s.clock, UInt64.le_refl _, rfl⟩
  | account call =>
    cases call with
    | load => exact ⟨s.clock, UInt64.le_refl _, rfl⟩
    | save new => exact ⟨_, Ledger.le_after _ _, rfl⟩
  | notice event => exact ⟨s.clock, UInt64.le_refl _, rfl⟩
  | work duration => exact ⟨s.clock, UInt64.le_refl _, rfl⟩
  | party q =>
    cases q with
    | exchange assertion tag => exact ⟨s.clock, UInt64.le_refl _, rfl⟩
    | provider request => cases request <;> exact ⟨s.clock, UInt64.le_refl _, rfl⟩
    | verify audience assertion => exact ⟨s.clock, UInt64.le_refl _, rfl⟩
    | keyPair => exact ⟨s.clock, UInt64.le_refl _, rfl⟩
    | interval interval => exact ⟨s.clock, UInt64.le_refl _, rfl⟩
    | startEngine session => exact ⟨s.clock, UInt64.le_refl _, rfl⟩
    | tell step answer => exact ⟨s.clock, UInt64.le_refl _, rfl⟩

def untilThen : List (Made Ledger.State) :=
  [attemptIn answerUntil ⟨{}, "a", "t"⟩ ⟨false⟩ ⟨1700000000500, {}, []⟩,
    attemptIn answerUntil ⟨{}, "a", "t"⟩ ⟨false⟩
      ((run ⟨{}, "a", "t"⟩ ⟨false⟩).run answerUntil ⟨1700000000500, {}, []⟩).2]

private theorem history_untilThen : ∃ s', History Elapses ⟨{}, "a", "t"⟩ ⟨1700000000500, {}, []⟩ untilThen s' :=
  ⟨_, history_attemptsIn elapses_answerUntil ⟨{}, "a", "t"⟩ [⟨false⟩, ⟨false⟩] ⟨1700000000500, {}, []⟩⟩

private theorem exists_busyUntil : ∃ before assertion tag v rest,
    (run ⟨{}, "a", "t"⟩ ⟨false⟩).record answerUntil ⟨1700000000500, {}, []⟩ =
      before ++ ⟨⟨.party (.exchange assertion tag), .ok (.ofHttp 1700000000500 busyUntil)⟩, v⟩ :: rest ∧
    1700000000500 ≤ v.clock := by
  have hasked : ((run ⟨{}, "a", "t"⟩ ⟨false⟩).record answerUntil ⟨1700000000500, {}, []⟩).any (fun m =>
      m.exchange.question.part = .token ∧ 1700000000500 ≤ m.after.clock) = true := by decide +kernel
  obtain ⟨⟨⟨q, a⟩, v⟩, hm, hfound⟩ := List.any_eq_true.mp hasked
  obtain ⟨t, hanswer⟩ := answer_of_record hm
  obtain ⟨before, rest, hsplit⟩ := List.append_of_mem hm
  obtain ⟨hq, hnow⟩ : q.part = .token ∧ 1700000000500 ≤ v.clock := of_decide_eq_true hfound
  cases q with
  | party q =>
    cases q with
    | exchange assertion tag =>
      cases hanswer
      exact ⟨before, assertion, tag, v, rest, hsplit, hnow⟩
    | _ => cases hq
  | _ => cases hq

/-- The deadlines that a response leaves, and the attempt after it, are short of the date by less than a second. -/
theorem dates_kept_busyUntil :
    (∃ ms s', Runs Ledger.Passes ⟨1700000000500, {}, []⟩ (Storage.Session.plain.observe 503 busyUntil.headers) ms
      (.ok (some 89000)) s' ∧ Honours 1700000000500 1700000090000 (s'.earliest (.storage "s.example"))) ∧
    (∃ ms s', Runs Elapses ⟨1700000000500, {}, []⟩ (run ⟨{}, "a", "t"⟩ ⟨false⟩) ms (.postponed 89000) s' ∧
      Honours 1700000000500 1700000090000 (s'.earliest .tokenServer)) ∧
    (∃ s', History Elapses ⟨{}, "a", "t"⟩ ⟨1700000000500, {}, []⟩ untilThen s') ∧
    untilThen.Pairwise fun _ later => Passed later.moments ∧ ∃ begins, begun later.moments = some begins ∧
      (1700000090000 : Int) < begins.toNat + 1000 := by
  have hw : Ledger.State.Working ⟨1700000000500, {}, []⟩ := rfl
  have hpasses : ∀ q s, Ledger.Passes s ⟨q, (Ledger.State.answer q s).1⟩ (Ledger.State.answer q s).2 :=
    fun q s => ⟨s.clock, UInt64.le_refl _, rfl⟩
  have hsecond : (1000 : Int) ≤ 1700000090000 - (1700000000500 : Instant).toNat := by decide
  obtain ⟨hobserved, hexchanged, hspaced⟩ := dates_kept ⟨{}, "a", "t"⟩
  obtain ⟨before, assertion, tag, v, rest, hsplit, hnow⟩ := exists_busyUntil
  refine ⟨?_, ?_, ?_, ?_⟩
  · have hruns := runs_record hpasses (Storage.Session.plain.observe 503 busyUntil.headers) ⟨1700000000500, {}, []⟩
    obtain ⟨now, t, -, hlow, hhigh, -, hkeeps⟩ := hobserved _ _ _ _ _ _ _ hw hruns
    have hclock : ((Storage.Session.plain.observe 503 busyUntil.headers).run Ledger.State.answer
        ⟨1700000000500, {}, []⟩).2.clock = 1700000000500 := by decide +kernel
    rw [hclock] at hhigh
    obtain rfl := UInt64.le_antisymm hhigh hlow
    have hanswer : ((Storage.Session.plain.observe 503 busyUntil.headers).run Ledger.State.answer
        ⟨1700000000500, {}, []⟩).1 = .ok (some 89000) := by decide +kernel
    rw [hanswer] at hruns
    exact ⟨_, _, hruns, (hkeeps _ appoints_busyUntil).1 hsecond⟩
  · have hruns := runs_record elapses_answerUntil (run ⟨{}, "a", "t"⟩ ⟨false⟩) ⟨1700000000500, {}, []⟩
    have hanswer : ((run ⟨{}, "a", "t"⟩ ⟨false⟩).run answerUntil ⟨1700000000500, {}, []⟩).1 = .postponed 89000 := by
      decide +kernel
    rw [hsplit, hanswer] at hruns
    exact ⟨_, _, hruns, (hexchanged _ _ _ _ _ _ _ _ _ _ _ hw hruns hnow _ appoints_busyUntil).1 hsecond⟩
  · exact history_untilThen
  · obtain ⟨_, hhistory⟩ := history_untilThen
    have hpassed : ∀ m ∈ untilThen, Passed m.moments := by decide +kernel
    have hpair := hspaced _ _ _ hw hhistory
    have hlater := hpassed _ (List.mem_cons_of_mem _ List.mem_cons_self)
    obtain ⟨begins, hbegun, htoken, -⟩ := List.rel_of_pairwise_cons hpair List.mem_cons_self rfl hlater
    have hmem : ⟨⟨.party (.exchange assertion tag), .ok (.ofHttp 1700000000500 busyUntil)⟩, v⟩ ∈
        (run ⟨{}, "a", "t"⟩ ⟨false⟩).record answerUntil ⟨1700000000500, {}, []⟩ := by
      rw [hsplit]
      exact List.mem_append_right _ List.mem_cons_self
    have hhonours := htoken assertion tag _ busyUntil v hmem hnow _ appoints_busyUntil
    exact List.pairwise_pair.mpr ⟨hlater, begins, hbegun, hhonours.lt⟩

/-- The half second that is cut off: the deadlines come before the date, and so does a second exchange. -/
theorem date_cut_short : busyUntil.headers.Appoints 503 1700000000500 1700000090000 ∧
    (((Storage.Session.plain.observe 503 busyUntil.headers).run Ledger.State.answer
      ⟨1700000000500, {}, []⟩).2.earliest (.storage "s.example")).toNat = 1700000089500 ∧
    (((run ⟨{}, "a", "t"⟩ ⟨false⟩).run answerUntil ⟨1700000000500, {}, []⟩).2.earliest .tokenServer).toNat =
      1700000089500 ∧
    (∃ s', History Elapses ⟨{}, "a", "t"⟩ ⟨1700000000500, {}, []⟩ untilThen s') ∧
    ∀ m ∈ untilThen, m.extras.forced = false ∧
      ∃ x ∈ m.moments, x.exchange.question.part = .token ∧ x.after.clock < 1700000090000 :=
  ⟨appoints_busyUntil, by decide +kernel, by decide +kernel, history_untilThen, by decide +kernel⟩

end AccountSync.Attempt
