import AccountSync.Config.File
import AccountSync.Proofs.Json.Reading

/-!
Configurations that are written and loaded. `Config.only` has some fields of a configuration and default values otherwise.
Main statement: `loaded_from_given`, that an object which gives these fields, in any order and among others, is loaded as
this configuration, or is refused as its check says.
-/

set_option autoImplicit false
set_option relaxedAutoImplicit false

namespace AccountSync.Config

open Json (Tree Reader Layout)
open Json.Reader (withDefault)

def fields (c : Config) : List (String × Json) :=
  match c.json with
  | .object fields => fields
  | _ => []

/-- The configuration that has the given fields of another one, and default values for the rest. -/
def only (c : Config) (given : String → Bool) : Config :=
  let base : Config := {}
  { identityServerUrl := if given "identity_server_url" then c.identityServerUrl else base.identityServerUrl
    tokenServerUrl := if given "token_server_url" then c.tokenServerUrl else base.tokenServerUrl
    verifierUrl := if given "verifier_url" then c.verifierUrl else base.verifierUrl
    audience := if given "audience" then c.audience else base.audience
    certificateDuration := if given "certificate_duration_secs" then c.certificateDuration else base.certificateDuration
    assertionDuration := if given "assertion_duration_secs" then c.assertionDuration else base.assertionDuration
    schedulerRateLimit := if given "scheduler_rate_limit_secs" then c.schedulerRateLimit else base.schedulerRateLimit
    singleDeviceInterval :=
      if given "single_device_interval_secs" then c.singleDeviceInterval else base.singleDeviceInterval
    multiDeviceInterval := if given "multi_device_interval_secs" then c.multiDeviceInterval else base.multiDeviceInterval
    unverifiedInterval := if given "unverified_interval_secs" then c.unverifiedInterval else base.unverifiedInterval
    maxLoginSteps := if given "max_login_steps" then c.maxLoginSteps else base.maxLoginSteps
    connectTimeout := if given "connect_timeout_secs" then c.connectTimeout else base.connectTimeout
    requestTimeout := if given "request_timeout_secs" then c.requestTimeout else base.requestTimeout
    debugAssertions := if given "debug_assertions" then c.debugAssertions else base.debugAssertions }

variable {c : Config} {given : String → Bool} {members : List (Option String × Tree)} {text : String}

private theorem names_fields (c : Config) : c.fields.map Prod.fst = fieldNames := rfl

private theorem nodup_names (c : Config) : (c.fields.map Prod.fst).Nodup := by
  rw [names_fields]
  decide

private theorem whole_json (c : Config) : Json.Whole c.json := by
  simp [json, Json.nat, Json.Whole, Json.WholeMembers]

private theorem fields_only (c : Config) (given : String → Bool) : (c.only given).fields =
    List.zipWith (fun own base => if given own.1 then own else base) c.fields ({} : Config).fields := by
  simp only [fields, json, only, List.zipWith_cons_cons, List.zipWith_nil_left, List.cons.injEq, and_true]
  refine ⟨?_, ?_, ?_, ?_, ?_, ?_, ?_, ?_, ?_, ?_, ?_, ?_, ?_, ?_⟩ <;> split <;> rfl

private theorem bind_withDefault {α β : Type} {r : Reader α} {t : Tree} {v absent : α} {b : Bool} {k : α → Option β}
    (h : r t = some v) : (withDefault r absent (if b then some t else none) >>= k) = k (if b then v else absent) := by
  cases b with
  | true => simp [withDefault, h]
  | false => rfl

private theorem read_of_gives (hnamed : ∀ m ∈ members, m.1 ≠ none) (hgives : Json.Gives c.fields given members) :
    read (.object members) = some (c.only given) := by
  have hslots : Reader.slots (fieldNames.map ([·])) (.object members) = _ :=
    Json.slots_of_gives c.nodup_names hnamed hgives
  unfold read
  rw [hslots, Option.bind_eq_bind, Option.bind_some]
  simp only [fields, json, List.map_cons, List.map_nil]
  rw [bind_withDefault (Json.string_tree _), bind_withDefault (Json.string_tree _), bind_withDefault (Json.string_tree _),
    bind_withDefault (Json.string_tree _), bind_withDefault (Json.word64_nat _), bind_withDefault (Json.word64_nat _),
    bind_withDefault (Json.word64_nat _), bind_withDefault (Json.word64_nat _), bind_withDefault (Json.word64_nat _),
    bind_withDefault (Json.word64_nat _), bind_withDefault (Json.word64_nat _), bind_withDefault (Json.word64_nat _),
    bind_withDefault (Json.word64_nat _), bind_withDefault (Json.bool_tree _)]
  rfl

private theorem ofText_eq {loaded : Config} (h : read.ofText text = some loaded) :
    ofText text = loaded.validate.map fun _ => loaded := by
  unfold ofText
  rw [h]
  cases hcheck : loaded.validate with
  | ok _ => simp [hcheck, Except.map, bind, Except.bind, pure, Except.pure]
  | error e => simp [hcheck, Except.map, bind, Except.bind]

/-- An object that gives some fields of a configuration is loaded as one that has these fields and default values
otherwise, if it passes its check, and is refused as this says if not. The fields may stand in any order and among any
others, and the text may be spelled in any way; so it can be laid out in any way. A configuration that passes its check is
loaded as it was written. -/
theorem loaded_from_given (c : Config) (given : String → Bool) :
    (c.only given).fields =
      List.zipWith (fun own base => if given own.1 then own else base) c.fields ({} : Config).fields ∧
    (∀ text members, Tree.ofText? text = some (.object members) → (∀ m ∈ members, m.1 ≠ none) →
      Json.Gives c.fields given members → ofText text = (c.only given).validate.map fun _ => c.only given) ∧
    (∀ written others, written.Perm (c.fields.filter (given ·.1) ++ others) → (∀ m ∈ others, m.1 ∉ fieldNames) →
      Json.WholeMembers others → ∀ (l : Layout) level,
        ofText (String.ofList (l.chars level (.object written))) = (c.only given).validate.map fun _ => c.only given) ∧
    (c.validate = .ok () → ofText c.json.compact = .ok c ∧ ofText c.json.pretty = .ok c) := by
  refine ⟨fields_only c given, ?_, ?_, ?_⟩
  · intro text members htext hnamed hgives
    have hread : read.ofText text = some (c.only given) := by
      rw [Reader.ofText, htext, Option.bind_some]
      exact read_of_gives hnamed hgives
    exact ofText_eq hread
  · intro written others hwritten hothers hwhole l level
    have hfields := Json.wholeMembers_iff.mp (whole_json c)
    have hwritten' : Json.Whole (.object written) := by
      refine Json.wholeMembers_iff.mpr fun m hm => ?_
      rcases List.mem_append.mp (hwritten.mem_iff.mp hm) with hm | hm
      · exact hfields m (List.mem_of_mem_filter hm)
      · exact Json.wholeMembers_iff.mp hwhole m hm
    have hread : read.ofText (String.ofList (l.chars level (.object written))) = some (c.only given) := by
      rw [Json.ofText_chars read hwritten']
      exact read_of_gives (fun _ => Json.ne_none_of_branches) (Json.gives_branches hothers hwritten)
    exact ofText_eq hread
  · intro hvalid
    have hread : read c.json.tree = some c :=
      read_of_gives (fun _ => Json.ne_none_of_branches) (Json.gives_all c.fields)
    constructor
    · rw [ofText_eq ((Json.ofText_compact read c.whole_json).trans hread), hvalid]
      rfl
    · rw [ofText_eq ((Json.ofText_pretty read c.whole_json).trans hread), hvalid]
      rfl

def partly : Config where
  identityServerUrl := "http://[::1]/v1"
  tokenServerUrl := "http://[::1]/t"
  verifierUrl := "http://[::1]/v2"
  maxLoginSteps := 2
  requestTimeout := 5

def partlyGiven (name : String) : Bool :=
  ["identity_server_url", "token_server_url", "verifier_url", "max_login_steps"].contains name

/-- They stand in another order here, among other members and with characters that are escaped. -/
def partlyText : String :=
  "\x7b \"max_login_steps\": 2, \"extra\": [1.5e3, null], \"verifier_url\": \"http:\\/\\/[::1]/v2\",
    \"token_server_url\":\"http://[::1]/t\", \"extra\": \x7b\x7d, \"identity_server_url\": \"http://[::1]/\\u00761\" \x7d"

def partlyMembers : List (Option String × Tree) :=
  [(some "max_login_steps", .numeral ⟨false, [2], none, none⟩),
    (some "extra", .array [.numeral ⟨false, [1], some [5], some 3⟩, .null]),
    (some "verifier_url", .string (some "http://[::1]/v2")), (some "token_server_url", .string (some "http://[::1]/t")),
    (some "extra", .object []), (some "identity_server_url", .string (some "http://[::1]/v1"))]

private theorem ofText?_partlyText : Tree.ofText? partlyText = some (.object partlyMembers) := by
  have hscan : Json.Token.scan (partlyText.toList.map some) = some [.openObject,
      .string (some "max_login_steps"), .colon, .numeral ⟨false, [2], none, none⟩, .comma,
      .string (some "extra"), .colon, .openArray, .numeral ⟨false, [1], some [5], some 3⟩, .comma, .null, .closeArray,
      .comma, .string (some "verifier_url"), .colon, .string (some "http://[::1]/v2"), .comma,
      .string (some "token_server_url"), .colon, .string (some "http://[::1]/t"), .comma,
      .string (some "extra"), .colon, .openObject, .closeObject, .comma,
      .string (some "identity_server_url"), .colon, .string (some "http://[::1]/v1"), .closeObject] := by decide +kernel
  rw [Tree.ofText?, Tree.parse, hscan]
  rfl

private theorem gives_partlyMembers : Json.Gives partly.fields partlyGiven partlyMembers :=
  List.reverse_perm (Json.branches (partly.fields.filter (partlyGiven ·.1)))

/-- What is given is loaded, and the rest has default values. The same with a lifetime of zero is refused. -/
theorem loaded_from_given_partly : ofText partlyText = .ok { partly with requestTimeout := 60 } ∧
    ofText (String.ofList (Json.dense.chars 0 (.object [("note", .array []), ("certificate_duration_secs", .nat 0),
      ("verifier_url", .string "http://[::1]/v2"), ("token_server_url", .string "http://[::1]/t"),
      ("identity_server_url", .string "http://[::1]/v1")]))) =
        .error (.config "certificate and assertion durations must be positive") ∧
    ofText partly.json.pretty = .ok partly := by
  have hvalid : partly.validate = .ok () := by decide +kernel
  obtain ⟨-, hloaded, -, hback⟩ := loaded_from_given partly partlyGiven
  let zeroed : Config := { partly with certificateDuration := 0 }
  let names := ["identity_server_url", "token_server_url", "verifier_url", "certificate_duration_secs"]
  obtain ⟨-, -, hrefused, -⟩ := loaded_from_given zeroed names.contains
  refine ⟨?_, ?_, (hback hvalid).2⟩
  · have honly : partly.only partlyGiven = { partly with requestTimeout := 60 } := by decide
    have hchecked : ({ partly with requestTimeout := 60 } : Config).validate = .ok () := by decide +kernel
    rw [hloaded _ _ ofText?_partlyText (by decide) gives_partlyMembers, honly, hchecked]
    rfl
  · have horder := List.reverse_perm (zeroed.fields.filter (names.contains ·.1) ++ [("note", .array [])])
    have hchecked : (zeroed.only names.contains).validate =
        .error (.config "certificate and assertion durations must be positive") := by decide +kernel
    have hloaded := hrefused _ [("note", .array [])] horder (by decide) (by simp [Json.WholeMembers, Json.Whole,
      Json.WholeItems]) Json.dense 0
    rw [hchecked] at hloaded
    exact hloaded

end AccountSync.Config
