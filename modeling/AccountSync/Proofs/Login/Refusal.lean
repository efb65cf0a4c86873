import AccountSync.Proofs.Json.Reading
import AccountSync.Proofs.Login.Failure
import AccountSync.Proofs.Provider.Refusal

/-!
What a refusal of the provider does to an account. `Classified` is the table of it, by status and number. Main
statement: `number_told`, which bodies get their number through to the table; `number_lost` is about one that does not.
-/

set_option autoImplicit false
set_option relaxedAutoImplicit false

namespace AccountSync.Login

open Json (Tree Numeral)

/-- Where a refusal leaves an account. Credentials that are no good come before a client that is too old, and that comes
before an account that is not verified, of which only one without keys takes note. -/
inductive Classified (state : Account) (status : UInt16) (errno : UInt32) : Kind × Account → Prop
  | invalid : status = 401 ∨ errno = 110 → Classified state status errno (.reset, .separated state.owner)
  | retired : ¬ (status = 401 ∨ errno = 110) → errno = 116 →
      Classified state status errno (.reset, .doghouse state.owner)
  | unverified {s : Engaged} : state = .engaged s → ¬ (status = 401 ∨ errno = 110) → errno = 104 →
      Classified state status errno (.stay, .engaged { s with verified := false })
  | kept : ¬ (status = 401 ∨ errno = 110) → errno ≠ 116 → (errno = 104 → ∀ s, state ≠ .engaged s) →
      Classified state status errno (.stay, state)

private theorem isInvalidAuthentication_iff {status : UInt16} {errno : UInt32} {message : String} :
    (SyncError.remote status errno message).isInvalidAuthentication = true ↔ status = 401 ∨ errno = 110 := by
  simp only [SyncError.isInvalidAuthentication, Bool.or_eq_true, decide_eq_true_eq]
  rfl

private theorem isUpgradeRequired_iff {status : UInt16} {errno : UInt32} {message : String} :
    (SyncError.remote status errno message).isUpgradeRequired = true ↔ errno = 116 := decide_eq_true_iff

private theorem isUnverified_iff {status : UInt16} {errno : UInt32} {message : String} :
    (SyncError.remote status errno message).isUnverified = true ↔ errno = 104 := decide_eq_true_iff

theorem classified_fallBack (state : Account) (status : UInt16) (errno : UInt32) (message : String) :
    Classified state status errno (fallBack state (.remote status errno message)) := by
  unfold fallBack
  by_cases hinvalid : status = 401 ∨ errno = 110
  · rw [if_pos (isInvalidAuthentication_iff.mpr hinvalid)]
    exact .invalid hinvalid
  · rw [if_neg (mt isInvalidAuthentication_iff.mp hinvalid)]
    by_cases hretired : errno = 116
    · rw [if_pos (isUpgradeRequired_iff.mpr hretired)]
      exact .retired hinvalid hretired
    · rw [if_neg (mt isUpgradeRequired_iff.mp hretired)]
      by_cases hunverified : errno = 104
      · rw [if_pos (isUnverified_iff.mpr hunverified)]
        cases state with
        | engaged s => exact .unverified rfl hinvalid hunverified
        | cohabiting k => exact .kept hinvalid hretired nofun
        | married m => exact .kept hinvalid hretired nofun
        | separated o => exact .kept hinvalid hretired nofun
        | doghouse o => exact .kept hinvalid hretired nofun
      · rw [if_neg (mt isUnverified_iff.mp hunverified)]
        exact .kept hinvalid hretired fun h => (hunverified h).elim

/-- The number that stands once in the body of a refusal is told and goes by the table, if the rest of the body is
tolerated. If it is not, the refusal counts as one without a number, and only its status tells something. -/
theorem number_told (q : Provider.Request) (state : Account) {r : Http.Response} {ms : Json.Members} {n : Numeral}
    {errno : UInt32} (hstatus : Http.isSuccess r.status = false) (hobject : Tree.ofText? r.text = some (.object ms))
    (hunder : Provider.under "errno" ms = [(some "errno", .numeral n)]) (hwhole : n.whole? = some (errno.toNat : Int)) :
    ∃ told message, q.interpret r = .error (.remote r.status told message) ∧
      (Provider.Tolerated ms → told = errno) ∧
      (¬ Provider.Tolerated ms → told = 0 ∧ message = (Http.reason? r.status).getD "request failed") ∧
      Classified state r.status told (fallBack state (.remote r.status told message)) := by
  rw [Provider.interpret_of_failure q hstatus]
  by_cases htolerated : Provider.Tolerated ms
  · obtain ⟨message, hrefusal⟩ := Provider.refusal_of_tolerated hobject hunder hwhole htolerated
    exact ⟨errno, message, congrArg _ hrefusal, fun _ => rfl, fun h => (h htolerated).elim, classified_fallBack ..⟩
  · have hrefusal := Provider.refusal_of_not_tolerated hobject hunder hwhole htolerated
    exact ⟨0, _, congrArg _ hrefusal, fun h => (htolerated h).elim, fun _ => ⟨rfl, rfl⟩, classified_fallBack ..⟩

def documented (status : UInt16) (j : Json) : Http.Response := { status, content := Text.Utf8.bytes j.compact }

theorem ofText?_documented {status : UInt16} {j : Json} (hstatus : Http.isBodiless status = false) (hj : Json.Whole j) :
    Tree.ofText? (documented status j).text = some j.tree := by
  have htext : (documented status j).text = j.compact := by
    rw [Http.Response.text, Http.Response.body, documented, hstatus]
    exact Text.Utf8.lossy_bytes j.compact
  rw [htext, Tree.ofText?, Json.compact, String.toList_ofList, Json.compactChars_eq 0, Json.parse_chars hj]

def revoked : Http.Response := documented 400 (.object [("errno", .nat 110), ("code", .nat 400)])

theorem number_told_revoked : ∃ ms n, Http.isSuccess revoked.status = false ∧
    Tree.ofText? revoked.text = some (.object ms) ∧
    Provider.under "errno" ms = [(some "errno", .numeral n)] ∧ n.whole? = some 110 ∧ Provider.Tolerated ms ∧
    ∃ message, (Provider.Request.emailStatus "s").interpret revoked = .error (.remote 400 110 message) := by
  have hobject : Tree.ofText? revoked.text = some (.object (Json.branches [("errno", .nat 110), ("code", .nat 400)])) :=
    ofText?_documented rfl ⟨trivial, trivial, trivial⟩
  have hunder : Provider.under "errno" (Json.branches [("errno", .nat 110), ("code", .nat 400)]) =
      [(some "errno", .numeral (Json.numeralOf 110))] := rfl
  have hwhole : (Json.numeralOf 110).whole? = some ((110 : UInt32).toNat : Int) := by decide
  have htolerated : Provider.Tolerated (Json.branches [("errno", .nat 110), ("code", .nat 400)]) :=
    { named := by
        intro m hm
        rcases List.mem_cons.mp hm with rfl | hm
        · exact nofun
        · rw [List.mem_singleton.mp hm]
          exact nofun
      code := .inr ⟨.numeral (Json.numeralOf 400), rfl, .inr ⟨_, 400, rfl, by decide, by decide, by decide⟩⟩
      error := .inl rfl
      message := .inl rfl }
  obtain ⟨told, message, hinterpret, htold, -⟩ :=
    number_told (.emailStatus "s") (.separated ⟨"ada@example.org", "u"⟩) rfl hobject hunder hwhole
  rw [htold htolerated] at hinterpret
  exact ⟨_, _, rfl, hobject, hunder, hwhole, htolerated, message, hinterpret⟩

/-- The same with a code that no status is. -/
def outsized : Http.Response := documented 400 (.object [("errno", .nat 110), ("code", .nat 70000)])

/-- The number is there, but the session goes on. -/
theorem number_lost : ∃ ms n, Http.isSuccess outsized.status = false ∧
    Tree.ofText? outsized.text = some (.object ms) ∧
    Provider.under "errno" ms = [(some "errno", .numeral n)] ∧ n.whole? = some 110 ∧
    ∀ q : Provider.Request, q.interpret outsized = .error (.remote 400 0 "Bad Request") ∧
      ∀ state, fallBack state (.remote 400 0 "Bad Request") = (.stay, state) := by
  have hobject : Tree.ofText? outsized.text =
      some (.object (Json.branches [("errno", .nat 110), ("code", .nat 70000)])) :=
    ofText?_documented rfl ⟨trivial, trivial, trivial⟩
  have hunread : Provider.ErrorBody.read.ofText outsized.text = none := by
    rw [Json.Reader.ofText, hobject]
    rfl
  refine ⟨_, Json.numeralOf 110, rfl, hobject, rfl, by decide, fun q => ⟨?_, fun state => rfl⟩⟩
  rw [Provider.interpret_of_failure q rfl, Provider.refusal_of_unread hunread]
  rfl

end AccountSync.Login
