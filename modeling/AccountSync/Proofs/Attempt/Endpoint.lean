import AccountSync.Proofs.Attempt.Arrival
import AccountSync.Proofs.Attempt.Handoff
import AccountSync.Proofs.TokenServer.Token

/-!
Where a token takes an attempt. The endpoint of a token is read twice, when a response brings the token and when storage
is turned to. Main statement: `token_accepted_exactly`, what brings a token, and that its endpoint can then be read.
-/

set_option autoImplicit false
set_option relaxedAutoImplicit false

namespace AccountSync.Attempt

open Dialogue
open Json (Tree)
open TokenServer (Token)

/-- An exchange is answered as the client of a token server is over HTTP. -/
def OverHttp (url : String) : Exchange Question.Answer → Prop
  | ⟨.party (.exchange assertion tag), a⟩ => ∃ xs, Course (TokenServer.exchange url assertion tag) xs a
  | _ => True

section Ways

variable {σ : Type} {move : σ → Exchange Question.Answer → σ → Prop} {c : Client} {m : Married} {initial : Account}
  {token : Token} {forced : Bool} {extras : SyncExtras} {url : String} {s s' : σ} {ms : Moments σ} {r : SyncOutcome}

private theorem usable_of_granted (h : ∀ x ∈ exchangesOf ms, OverHttp url x)
    (htoken : token ∈ grants (exchangesOf ms)) : token.Usable := by
  obtain ⟨x, hx, hgrant⟩ := List.mem_filterMap.mp htoken
  have hanswer := h x hx
  unfold grant? at hgrant
  split at hgrant
  · rename_i assertion tag response
    obtain ⟨xs, hcourse⟩ := hanswer
    obtain ⟨_, now, answer, -, rfl⟩ := TokenServer.response_of_course hcourse
    refine TokenServer.usable_of_ok (r := answer) ?_
    cases hresult : TokenServer.resultOf answer with
    | ok token' =>
      rw [show (TokenServer.Response.ofHttp now answer).result = .ok token' from hresult] at hgrant
      rw [Option.some.inj hgrant]
    | error e =>
      rw [show (TokenServer.Response.ofHttp now answer).result = .error e from hresult] at hgrant
      cases hgrant
  · cases hgrant

private theorem storing_of_syncMarried (h : Runs move s (syncMarried c initial m forced) ms r s')
    (htoken : token ∈ grants (exchangesOf ms)) :
    ∃ before storing t, ms = before ++ storing ∧ Runs move t (syncStorage c m token forced) storing r s' := by
  cases trading_of_runs h with
  | @accepted _ _ v _ xs ys zs us token' _ hfetch hpersist hclear hstorage =>
    have hquiet := grants_of_within (within_of_runs hpersist (asks_persist _ _)) (by decide)
    have hquiet' := grants_of_within (within_of_runs hclear (asks_notice _)) (by decide)
    have hquiet'' := grants_of_within (within_of_runs hstorage (asks_syncStorage c m token' forced)) (by decide)
    rw [exchangesOf_append, exchangesOf_append, exchangesOf_append, grants_append, grants_append, grants_append,
      grants_of_fetchToken hfetch, hquiet, hquiet', hquiet''] at htoken
    obtain rfl := List.mem_singleton.mp htoken
    refine ⟨xs ++ (ys ++ zs), us, v, ?_, hstorage⟩
    simp only [List.append_assoc]
  | rejected hfetch hpersist hnotice =>
    have hquiet := grants_of_within (within_of_runs hpersist (asks_persist _ _)) (by decide)
    have hquiet' := grants_of_within (within_of_runs hnotice (asks_notice _)) (by decide)
    rw [exchangesOf_append, exchangesOf_append, grants_append, grants_append, grants_of_fetchToken hfetch, hquiet,
      hquiet'] at htoken
    cases htoken
  | failed hfetch hpersist =>
    have hquiet := grants_of_within (within_of_runs hpersist (asks_persist _ _)) (by decide)
    rw [exchangesOf_append, grants_append, grants_of_fetchToken hfetch, hquiet] at htoken
    cases htoken

private theorem storing_of_run (h : Runs move s (run c extras) ms r s') (htoken : token ∈ grants (exchangesOf ms)) :
    ∃ before storing t m, ms = before ++ storing ∧
      Runs move t (syncStorage c m token extras.forced) storing r s' := by
  cases arriving_of_runs h with
  | idle hidle =>
    rw [grants_of_within (within_of_idle hidle) (by decide)] at htoken
    cases htoken
  | @loaded t u _ xs ys initial _ hopen hload hsync =>
    have hquiet : grants (exchangesOf (xs ++ [⟨⟨.account .load, .ok (some initial)⟩, u⟩])) = [] := by
      rw [exchangesOf_append]
      exact grants_of_within (within_to_load hopen initial) (by decide)
    rw [List.append_cons, exchangesOf_append, grants_append, hquiet, List.nil_append] at htoken
    cases syncing_of_runs hsync with
    | @married v _ as bs login m _ hlogin _ hmarried =>
      have hlogged := grants_of_within (within_of_runs hlogin asks_login) (by decide)
      rw [exchangesOf_append, grants_append, hlogged, List.nil_append] at htoken
      obtain ⟨before, storing, t, rfl, hstorage⟩ := storing_of_syncMarried hmarried htoken
      refine ⟨xs ++ ⟨⟨.account .load, .ok (some initial)⟩, u⟩ :: (as ++ before), storing, t, m, ?_, hstorage⟩
      simp only [List.append_assoc, List.cons_append]
    | short hlogin _ hinterval hpersist hnot =>
      have hlogged := grants_of_within (within_of_runs hlogin asks_login) (by decide)
      have hwoken := grants_of_within (within_of_runs hinterval (asks_requestInterval _)) (by decide)
      have hkept := grants_of_within (within_of_runs hpersist (asks_persist _ _)) (by decide)
      have htold := grants_of_within (within_of_runs hnot (asks_notMarried _)) (by decide)
      simp only [exchangesOf_append, grants_append, hlogged, hwoken, hkept, htold, List.append_nil] at htoken
      cases htoken

private theorem compares_of_storing {endpoint : Url} (hparse : Url.parse token.endpoint = .ok endpoint)
    (h : Runs move s (syncStorage c m token forced) ms r s') :
    ∃ a, ⟨.ledger (.store (.get Ledger.lastHostKey)), a⟩ ∈ exchangesOf ms := by
  have first {host : String} {a : Except SyncError Bool} {t : σ} {xs : Moments σ} (ys : Moments σ)
      (hswitch : Runs move s (books (Ledger.switchHost host)) xs a t) :
      ∃ a, ⟨.ledger (.store (.get Ledger.lastHostKey)), a⟩ ∈ exchangesOf (xs ++ ys) := by
    obtain ⟨us, a, _, vs, hget, -, rfl⟩ := runs_bind_iff.mp
      (show Runs move s (question (Question.ledger (.store (.get Ledger.lastHostKey))) >>= _) xs a t from hswitch)
    obtain ⟨rfl, -⟩ := runs_question_iff.mp hget
    exact ⟨a, List.mem_cons_self⟩
  cases handing_of_runs h with
  | unreadable hfault => cases hparse.symm.trans hfault
  | unswitched _ hswitch =>
    obtain ⟨a, ha⟩ := first [] hswitch
    rw [List.append_nil] at ha
    exact ⟨a, ha⟩
  | gated _ hswitch _ => exact first _ hswitch
  | started _ hswitch _ _ _ _ _ => exact first _ hswitch

end Ways

/-- A token is read back from the text that it is written as: by the client itself, or with either name for the
endpoint, the user's id as a number, the fields in any order and among others, and without a duration where none is
known. More generally it is read off exactly the objects that tell it, and off none with a fault. A response that went
well brings a token if it can be read off the body and used, and is malformed otherwise. So an attempt that was granted
a token over HTTP never fails to read its endpoint, and goes on to compare the storage host. -/
theorem token_accepted_exactly :
    (∀ t : Token, Token.read.ofText t.json.compact = some t) ∧
    (∀ (t : Token) fields, TokenServer.Writes t fields → Json.WholeMembers fields → ∀ l : Json.Layout,
      Token.read.ofText (String.ofList (l.chars 0 (.object fields))) = some t) ∧
    (∀ text members, Tree.ofText? text = some (.object members) →
      (∀ t, Token.read.ofText text = some t ↔ TokenServer.Tells t members) ∧
      (TokenServer.Faulty members → Token.read.ofText text = none)) ∧
    (∀ url assertion tag xs response, Course (TokenServer.exchange url assertion tag) xs (.ok response) →
      ∃ request now r, ⟨.send request, some r⟩ ∈ xs ∧ response = .ofHttp now r ∧
        (Http.isSuccess r.status = true →
          (∀ t, response.result = .ok t ↔ Token.read.ofText r.text = some t ∧ t.Usable) ∧
          ∀ e, response.result = .error e → ∃ message, e = .malformed message)) ∧
    ∀ {σ : Type} (move : σ → Exchange Question.Answer → σ → Prop) c extras url s ms r s',
      Runs move s (run c extras) ms r s' → (∀ x ∈ exchangesOf ms, OverHttp url x) →
      ∀ token ∈ grants (exchangesOf ms), (∃ endpoint, Url.parse token.endpoint = .ok endpoint) ∧
        ∃ a, ⟨.ledger (.store (.get Ledger.lastHostKey)), a⟩ ∈ exchangesOf ms := by
  refine ⟨TokenServer.ofText_compact, fun t fields => TokenServer.ofText_of_writes, ?_, ?_, ?_⟩
  · intro text members hparse
    have hread : ∀ t, Token.read.ofText text = some t ↔ TokenServer.Tells t members := by
      intro t
      rw [Json.Reader.ofText, hparse, Option.bind_some]
      exact TokenServer.read_eq_some_iff
    refine ⟨hread, fun hfaulty => Option.eq_none_iff_forall_ne_some.mpr fun t ht => ?_⟩
    exact TokenServer.not_tells_of_faulty hfaulty t ((hread t).mp ht)
  · intro url assertion tag xs response h
    obtain ⟨request, now, r, hsent, rfl⟩ := TokenServer.response_of_course h
    refine ⟨request, now, r, hsent, rfl, fun hsuccess => ?_⟩
    have hresult : (TokenServer.Response.ofHttp now r).result = Token.ofText r.text :=
      TokenServer.resultOf_of_success hsuccess
    rw [hresult]
    exact ⟨fun t => TokenServer.ofText_eq_ok_iff, fun e => TokenServer.malformed_of_error⟩
  · intro σ move c extras url s ms r s' h hhttp token htoken
    obtain ⟨endpoint, hparse, -⟩ := (usable_of_granted hhttp htoken).endpoint
    obtain ⟨before, storing, t, m, rfl, hstorage⟩ := storing_of_run h htoken
    obtain ⟨a, ha⟩ := compares_of_storing hparse hstorage
    refine ⟨⟨endpoint, hparse⟩, a, ?_⟩
    rw [exchangesOf_append]
    exact List.mem_append_right _ ha

/-- A token of an older server, which names the endpoint in short and does not know how long the token lasts. -/
def shortToken : Token := ⟨"i", "k", "7", "http://[::1]/1.5/7", none⟩

def shortFields : List (String × Json) :=
  [("node", .bool true), ("endpoint", .string "http://[::1]/1.5/7"), ("uid", .number (.whole 7)),
    ("key", .string "k"), ("id", .string "i")]

private theorem writes_shortFields : TokenServer.Writes shortToken shortFields := by
  have hother : ∀ m ∈ [("node", Json.bool true)], ∀ names ∈ TokenServer.fieldNames, m.1 ∉ names := by
    intro m hm
    obtain rfl := List.mem_singleton.mp hm
    decide
  have hturned : shortFields.Perm ([("id", .string "i"), ("key", .string "k"), ("uid", .number (.whole 7)),
      ("endpoint", .string "http://[::1]/1.5/7")] ++ [] ++ [("node", .bool true)]) :=
    (List.reverse_perm shortFields).symm
  exact .intro (.number (by decide) (by decide) (by decide)) (by decide) .missing hother hturned

private theorem exists_of_isSome {ε α : Type} {x : Except ε α} (h : x.toOption.isSome = true) : ∃ a, x = .ok a := by
  cases x with
  | ok a => exact ⟨a, rfl⟩
  | error e => cases h

private theorem usable_shortToken : shortToken.Usable where
  id := by decide
  key := by decide
  endpoint := by
    have hhost : (Url.parse shortToken.endpoint).toOption.any (·.host?.isSome) = true := by decide +kernel
    cases hparse : Url.parse shortToken.endpoint with
    | error f =>
      rw [hparse] at hhost
      cases hhost
    | ok endpoint =>
      rw [hparse] at hhost
      exact ⟨endpoint, rfl, Option.isSome_iff_ne_none.mp hhost⟩

def answerHttp : (q : Http.Question) → Unit → q.Answer × Unit
  | .send _, s => (some ⟨200, [], Text.Utf8.bytes (Json.compact (.object shortFields))⟩, s)
  | .now, s => ((0 : Instant), s)

def answerShort (q : Question) (s : Unit) : q.Answer × Unit :=
  match q with
  | .account .load => (.ok (some (.married ⟨⟨"ada@example.org", "u", "s", .zero, .zero, default⟩, "x"⟩)), s)
  | .party (.provider (.signCertificate ..)) => (.ok "x", s)
  | .party (.exchange assertion tag) => (TokenServer.exchange "http://[::1]/" assertion tag).run answerHttp s
  | q => (silence q, s)

private theorem overHttp_answerShort (q : Question) (s : Unit) : OverHttp "http://[::1]/" ⟨q, (answerShort q s).1⟩ := by
  cases q with
  | party q =>
    cases q with
    | exchange assertion tag => exact ⟨_, course_run answerHttp _ s⟩
    | _ => trivial
  | _ => trivial

private theorem exists_grant_shortToken : ∃ ms r s', Runs (fun _ _ _ => True) () (run ⟨{}, "a", "t"⟩ ⟨true⟩) ms r s' ∧
    grants (exchangesOf ms) = [shortToken] ∧ ∀ x ∈ exchangesOf ms, OverHttp "http://[::1]/" x := by
  have hgrants : grants (exchangesOf ((run ⟨{}, "a", "t"⟩ ⟨true⟩).record answerShort ())) = [shortToken] := by
    decide +kernel
  refine ⟨_, _, _, runs_record (fun _ _ => trivial) _ (), hgrants, fun x hx => ?_⟩
  rw [exchangesOf_record] at hx
  obtain ⟨s, hanswer⟩ := answer_of_exchanges hx
  have hover := overHttp_answerShort x.question s
  rwa [← hanswer] at hover

theorem token_accepted_exactly_short :
    Token.read.ofText shortToken.json.compact = some shortToken ∧
    Token.read.ofText (String.ofList (Json.dense.chars 0 (.object shortFields))) = some shortToken ∧
    Token.read.ofText "\x7b\"uid\":null\x7d" = none ∧
    (∃ xs response, Course (TokenServer.exchange "http://[::1]/" "a" "t") xs (.ok response) ∧
      response.result = .ok shortToken) ∧
    ∃ ms r s', Runs (fun _ _ _ => True) () (run ⟨{}, "a", "t"⟩ ⟨true⟩) ms r s' ∧
      grants (exchangesOf ms) = [shortToken] ∧ ∃ a, ⟨.ledger (.store (.get Ledger.lastHostKey)), a⟩ ∈ exchangesOf ms := by
  obtain ⟨hcompact, hwritten, htext, hresponse, hgranted⟩ := token_accepted_exactly
  have hshort := hwritten _ _ writes_shortFields (by simp [Json.WholeMembers, shortFields, Json.Whole]) Json.dense
  refine ⟨hcompact _, hshort, ?_, ?_, ?_⟩
  · exact (htext _ [(some "uid", .null)] rfl).2 (.uid List.mem_cons_self (.inl rfl))
  · have hcourse := course_run answerHttp (TokenServer.exchange "http://[::1]/" "a" "t") ()
    have hanswered : ((TokenServer.exchange "http://[::1]/" "a" "t").run answerHttp ()).1.toOption.isSome = true := by
      decide +kernel
    obtain ⟨response, hok⟩ := exists_of_isSome hanswered
    rw [hok] at hcourse
    obtain ⟨request, now, r, hsent, -, haccepted⟩ := hresponse _ _ _ _ _ hcourse
    obtain ⟨_, hanswer⟩ := answer_of_exchanges hsent
    obtain rfl := Option.some.inj hanswer
    have hbody : Http.Response.text ⟨200, [], Text.Utf8.bytes (Json.compact (.object shortFields))⟩ =
        String.ofList (Json.dense.chars 0 (.object shortFields)) := by decide +kernel
    refine ⟨_, response, hcourse, ((haccepted (by decide)).1 shortToken).mpr ⟨?_, usable_shortToken⟩⟩
    rw [hbody]
    exact hshort
  · obtain ⟨ms, r, s', hruns, hgrants, hhttp⟩ := exists_grant_shortToken
    have hcompares := (hgranted _ _ _ _ _ _ _ _ hruns hhttp shortToken (by rw [hgrants]; exact List.mem_cons_self)).2
    exact ⟨ms, r, s', hruns, hgrants, hcompares⟩

end AccountSync.Attempt
