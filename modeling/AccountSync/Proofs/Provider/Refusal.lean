import AccountSync.Proofs.Provider.Body
import AccountSync.Provider.Client

/-!
What an error response of the provider says. Its body has four fields, each of which may be missing, but the body is
read as a whole: `Tolerated` says for an object which of its other members leave the number readable. Main statements:
`refusal_of_tolerated` and `refusal_of_not_tolerated`, what becomes of the number with and without that; and
`says_refusal`, the number and the wording for any body at all.
-/

set_option autoImplicit false
set_option relaxedAutoImplicit false

namespace AccountSync.Provider

open Json (Tree Numeral Members valuesOf TellsOption TellsWhole TellsText TextTells)

def under (name : String) (ms : Members) : Members := ms.filter fun m => m.1 = some name

def IsText (t : Tree) : Prop := ∃ text, t = .string (some text)

def IsBelow (bound : Nat) (t : Tree) : Prop :=
  ∃ (n : Numeral) (v : Int), t = .numeral n ∧ n.whole? = some v ∧ 0 ≤ v ∧ v < bound

/-- A field is missing, `null`, or of its kind, and is not written twice. -/
def Fits (kind : Tree → Prop) (name : String) (ms : Members) : Prop :=
  under name ms = [] ∨ ∃ t, under name ms = [(some name, t)] ∧ (t = .null ∨ kind t)

/-- Nothing but the number itself can keep a body from being read. -/
structure Tolerated (ms : Members) : Prop where
  named : ∀ m ∈ ms, m.1 ≠ none
  code : Fits (IsBelow UInt16.size) "code" ms
  error : Fits IsText "error" ms
  message : Fits IsText "message" ms

variable {α : Type} {ms : Members} {name : String} {kind : Tree → Prop} {tells : α → Tree → Prop}
  {n : Numeral} {errno : UInt32} {body : ErrorBody} {r : Http.Response}

/-! ### One field -/

private theorem valuesOf_eq_under : valuesOf [name] ms = (under name ms).map Prod.snd := by
  have hsame : (fun m : Option String × Tree => m.1.any ([name].contains ·)) = fun m => decide (m.1 = some name) := by
    funext m
    cases m.1 <;> simp
  rw [valuesOf, hsame, under]

private theorem name_of_under {m : Option String × Tree} {rest : Members} (h : under name ms = m :: rest) :
    m.1 = some name := by
  have hmem : m ∈ under name ms := h ▸ List.mem_cons_self
  exact of_decide_eq_true (List.mem_filter.mp hmem).2

private theorem fits_iff (hkind : ∀ t, kind t ↔ ∃ a, tells a t) :
    Fits kind name ms ↔ ∃ o, TellsOption tells o (valuesOf [name] ms) := by
  rw [valuesOf_eq_under]
  constructor
  · rintro (hnil | ⟨t, hone, rfl | ht⟩)
    · rw [hnil]
      exact ⟨none, .missing⟩
    · rw [hone]
      exact ⟨none, .null⟩
    · rw [hone]
      obtain ⟨a, ha⟩ := (hkind t).mp ht
      exact ⟨some a, .value ha⟩
  · rintro ⟨o, ho⟩
    generalize hvalues : (under name ms).map Prod.snd = values at ho
    cases ho with
    | missing => exact .inl (List.map_eq_nil_iff.mp hvalues)
    | null =>
      obtain ⟨⟨_, _⟩, hone, rfl⟩ := List.map_eq_singleton_iff.mp hvalues
      obtain rfl := name_of_under hone
      exact .inr ⟨.null, hone, .inl rfl⟩
    | @value a t ha =>
      obtain ⟨⟨_, _⟩, hone, rfl⟩ := List.map_eq_singleton_iff.mp hvalues
      obtain rfl := name_of_under hone
      exact .inr ⟨_, hone, .inr ((hkind _).mpr ⟨a, ha⟩)⟩

private theorem isBelow_iff (t : Tree) : IsBelow UInt16.size t ↔ ∃ w : UInt16, TellsWhole w.toNat t := by
  constructor
  · rintro ⟨n, z, rfl, hn, hlow, hhigh⟩
    refine ⟨UInt16.ofNat z.toNat, n, rfl, ?_⟩
    rw [UInt16.toNat_ofNat_of_lt' (by omega), Int.toNat_of_nonneg hlow, hn]
  · rintro ⟨w, n, rfl, hn⟩
    have hlt := w.toNat_lt_size
    exact ⟨n, _, rfl, hn, by omega, by omega⟩

/-! ### The body -/

private theorem tellsError_object_iff : TellsError body (.object ms) ↔ (∀ m ∈ ms, m.1 ≠ none) ∧
    TellsOption (fun w : UInt16 => TellsWhole w.toNat) body.code (valuesOf ["code"] ms) ∧
    TellsOption (fun w : UInt32 => TellsWhole w.toNat) body.errno (valuesOf ["errno"] ms) ∧
    TellsOption TellsText body.error (valuesOf ["error"] ms) ∧
    TellsOption TellsText body.message (valuesOf ["message"] ms) := by
  constructor
  · rintro ⟨_, _, _, _, ⟨hnamed, hvalues⟩, hfields⟩
    cases hvalues
    exact ⟨hnamed, hfields⟩
  · rintro ⟨hnamed, hfields⟩
    exact ⟨_, _, _, _, ⟨hnamed, rfl⟩, hfields⟩

private theorem tellsOption_errno_iff {o : Option UInt32} (hunder : under "errno" ms = [(some "errno", .numeral n)])
    (hwhole : n.whole? = some (errno.toNat : Int)) :
    TellsOption (fun w : UInt32 => TellsWhole w.toNat) o (valuesOf ["errno"] ms) ↔ o = some errno := by
  rw [valuesOf_eq_under, hunder]
  constructor
  · intro h
    cases h with
    | value htells =>
      obtain ⟨_, hn, hwhole'⟩ := htells
      obtain rfl := Tree.numeral.inj hn
      rw [UInt32.toNat_inj.mp (Int.ofNat_inj.mp (Option.some.inj (hwhole.symm.trans hwhole')))]
  · rintro rfl
    exact .value ⟨n, rfl, hwhole⟩

private theorem exists_tellsError_iff (hunder : under "errno" ms = [(some "errno", .numeral n)])
    (hwhole : n.whole? = some (errno.toNat : Int)) : (∃ body, TellsError body (.object ms)) ↔ Tolerated ms := by
  have htext (name : String) : Fits IsText name ms ↔ ∃ o, TellsOption TellsText o (valuesOf [name] ms) :=
    fits_iff fun _ => Iff.rfl
  constructor
  · rintro ⟨body, hbody⟩
    obtain ⟨hnamed, hcode, -, herror, hmessage⟩ := tellsError_object_iff.mp hbody
    exact ⟨hnamed, (fits_iff isBelow_iff).mpr ⟨_, hcode⟩, (htext _).mpr ⟨_, herror⟩, (htext _).mpr ⟨_, hmessage⟩⟩
  · rintro ⟨hnamed, hcode, herror, hmessage⟩
    obtain ⟨code, hcode⟩ := (fits_iff isBelow_iff).mp hcode
    obtain ⟨error, herror⟩ := (htext _).mp herror
    obtain ⟨message, hmessage⟩ := (htext _).mp hmessage
    exact ⟨⟨code, some errno, error, message⟩, tellsError_object_iff.mpr
      ⟨hnamed, hcode, (tellsOption_errno_iff hunder hwhole).mpr rfl, herror, hmessage⟩⟩

private theorem ofText_eq_some_iff : ErrorBody.read.ofText r.text = some body ↔ TextTells TellsError r.text body :=
  Json.ofText_iff_textTells ErrorBody.read_eq_some_iff

/-! ### The error -/

def wordless (r : Http.Response) : SyncError :=
  .remote r.status 0 ((Http.reason? r.status).getD "request failed")

theorem refusal_of_unread (h : ErrorBody.read.ofText r.text = none) : refusal r = wordless r := by
  unfold refusal
  rw [h]
  rfl

section Objects

variable (hobject : Tree.ofText? r.text = some (.object ms)) (hunder : under "errno" ms = [(some "errno", .numeral n)])
  (hwhole : n.whole? = some (errno.toNat : Int))

include hobject hunder hwhole

theorem refusal_of_tolerated (h : Tolerated ms) : ∃ message, refusal r = .remote r.status errno message := by
  obtain ⟨body, hbody⟩ := (exists_tellsError_iff hunder hwhole).mpr h
  have hread : ErrorBody.read.ofText r.text = some body := ofText_eq_some_iff.mpr ⟨_, hobject, hbody⟩
  have herrno : body.errno = some errno :=
    (tellsOption_errno_iff hunder hwhole).mp (tellsError_object_iff.mp hbody).2.2.1
  refine ⟨(body.message <|> body.error).getD ((Http.reason? r.status).getD "request failed"), ?_⟩
  unfold refusal
  rw [hread]
  dsimp only [Option.getD_some]
  rw [herrno]
  rfl

theorem refusal_of_not_tolerated (h : ¬ Tolerated ms) : refusal r = wordless r := by
  refine refusal_of_unread (Option.eq_none_iff_forall_ne_some.mpr fun body hread => ?_)
  obtain ⟨t, ht, hbody⟩ := ofText_eq_some_iff.mp hread
  obtain rfl := Option.some.inj (hobject.symm.trans ht)
  exact h ((exists_tellsError_iff hunder hwhole).mp ⟨body, hbody⟩)

end Objects

/-- What an error response says: the number of its body, 0 if there is none; and the body's message, else its error
text, else what the status is called, if it has a name. -/
inductive Says (r : Http.Response) : UInt32 → String → Prop
  | message {body : ErrorBody} {text : String} : TextTells TellsError r.text body →
      body.message = some text → Says r (body.errno.getD 0) text
  | error {body : ErrorBody} {text : String} : TextTells TellsError r.text body →
      body.message = none → body.error = some text → Says r (body.errno.getD 0) text
  | reason {body : ErrorBody} : TextTells TellsError r.text body → body.message = none → body.error = none →
      Says r (body.errno.getD 0) ((Http.reason? r.status).getD "request failed")
  | unread : (∀ body, ¬ TextTells TellsError r.text body) → Says r 0 ((Http.reason? r.status).getD "request failed")

theorem says_refusal (r : Http.Response) :
    ∃ errno message, Says r errno message ∧ refusal r = .remote r.status errno message := by
  cases hbody : ErrorBody.read.ofText r.text with
  | none =>
    refine ⟨0, _, .unread fun body htells => ?_, refusal_of_unread hbody⟩
    cases hbody.symm.trans (ofText_eq_some_iff.mpr htells)
  | some body =>
    have htells := ofText_eq_some_iff.mp hbody
    have hrefusal : refusal r = .remote r.status (body.errno.getD 0)
        ((body.message <|> body.error).getD ((Http.reason? r.status).getD "request failed")) := by
      rw [refusal, hbody]
      rfl
    refine ⟨_, _, ?_, hrefusal⟩
    cases hmessage : body.message with
    | some text => exact .message htells hmessage
    | none =>
      cases herror : body.error with
      | some text => exact .error htells hmessage herror
      | none => exact .reason htells hmessage herror

theorem interpret_of_failure (q : Request) (h : Http.isSuccess r.status = false) :
    q.interpret r = .error (refusal r) := by
  unfold Request.interpret
  rw [h]
  rfl

end AccountSync.Provider
