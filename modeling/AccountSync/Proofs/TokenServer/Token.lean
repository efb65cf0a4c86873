import AccountSync.Proofs.Dialogue.Course
import AccountSync.Proofs.Json.Record
import AccountSync.TokenServer.Client
import Mathlib.Data.List.Basic

/-!
Tokens as the token server may write them. `Tells` says which members of an object tell a token, and `Writes` in what
ways one can be written. Main statements: `read_eq_some_iff`, that a token is read off exactly the objects that tell it;
`tells_of_writes`, that all of these ways do; `not_tells_of_faulty`, what cannot be read; and `ofText_eq_ok_iff`, which
texts bring a token.
-/

set_option autoImplicit false
set_option relaxedAutoImplicit false

namespace AccountSync.TokenServer

open Json (Tree Numeral Reader Members valuesOf TellsOption TellsWhole)

inductive TellsUid (uid : String) : Tree → Prop
  | text : TellsUid uid (.string (some uid))
  | number {n : Numeral} {z : Int} : n.whole? = some z → toString z = uid → TellsUid uid (.numeral n)

inductive TellsDuration : Option UInt64 → List Tree → Prop
  | missing : TellsDuration none []
  | null : TellsDuration none [.null]
  | number {n : Numeral} {w : UInt64} : n.whole? = some (w.toNat : Int) → TellsDuration (some w) [.numeral n]

structure Tells (t : Token) (ms : Members) : Prop where
  named : ∀ m ∈ ms, m.1 ≠ none
  id : valuesOf ["id"] ms = [.string (some t.id)]
  key : valuesOf ["key"] ms = [.string (some t.key)]
  uid : ∃ v, valuesOf ["uid"] ms = [v] ∧ TellsUid t.uid v
  endpoint : valuesOf ["api_endpoint", "endpoint"] ms = [.string (some t.endpoint)]
  duration : TellsDuration t.duration (valuesOf ["duration"] ms)

/-- The names of the fields of a token, of which the endpoint has two. -/
def fieldNames : List (List String) := [["id"], ["key"], ["uid"], ["api_endpoint", "endpoint"], ["duration"]]

inductive WritesUid (uid : String) : Json → Prop
  | text : WritesUid uid (.string uid)
  | number {z : Int} : -0x8000000000000000 ≤ z → z < UInt64.size → toString z = uid →
      WritesUid uid (.number (.whole z))

inductive WritesDuration : Option UInt64 → List (String × Json) → Prop
  | missing : WritesDuration none []
  | null : WritesDuration none [("duration", .null)]
  | number (w : UInt64) : WritesDuration (some w) [("duration", .nat w.toNat)]

/-- The ways to write a token as the members of an object: in any order and among others. -/
inductive Writes (t : Token) : List (String × Json) → Prop
  | intro {ms lasts extras : List (String × Json)} {uid : Json} {endpoint : String} : WritesUid t.uid uid →
      endpoint ∈ ["api_endpoint", "endpoint"] → WritesDuration t.duration lasts →
      (∀ m ∈ extras, ∀ names ∈ fieldNames, m.1 ∉ names) →
      ms.Perm ([("id", .string t.id), ("key", .string t.key), ("uid", uid), (endpoint, .string t.endpoint)] ++
        lasts ++ extras) → Writes t ms

/-- Members that tell no token: a field is written twice, one that is needed is missing, or the user's id is neither
text nor a whole number. -/
inductive Faulty (ms : Members) : Prop
  | spellings {a b : Tree} : (some "api_endpoint", a) ∈ ms → (some "endpoint", b) ∈ ms → Faulty ms
  | repeated {names : List String} {name : String} : names ∈ fieldNames → name ∈ names →
      2 ≤ (valuesOf [name] ms).length → Faulty ms
  | missing {names : List String} : names ∈ fieldNames → names ≠ ["duration"] → valuesOf names ms = [] → Faulty ms
  | uid {v : Tree} : (some "uid", v) ∈ ms → (v = .null ∨ (∃ b, v = .bool b) ∨
      ∃ n, v = .numeral n ∧ (n.fraction.isSome ∨ n.exponent.isSome)) → Faulty ms

structure Token.Usable (t : Token) : Prop where
  id : t.id ≠ ""
  key : t.key ≠ ""
  endpoint : ∃ endpoint, Url.parse t.endpoint = .ok endpoint ∧ endpoint.host? ≠ none

variable {names : List String} {ms : Members} {t : Token} {v : Tree} {s : String}

/-! ### One field -/

private theorem textOrNumber_eq_some_iff : textOrNumber v = some s ↔ TellsUid s v := by
  constructor
  · intro h
    cases v with
    | string text =>
      obtain rfl : text = some s := h
      exact .text
    | numeral n =>
      obtain ⟨z, hz, hs⟩ := Option.map_eq_some_iff.mp (show n.whole?.map toString = some s from h)
      exact .number hz hs
    | null => cases h
    | bool b => cases h
    | array ts => cases h
    | object ms => cases h
  · intro h
    cases h with
    | text => rfl
    | number hz hs => exact Option.map_eq_some_iff.mpr ⟨_, hz, hs⟩

private theorem tellsDuration_iff {o : Option UInt64} {vs : List Tree} :
    TellsOption (fun w : UInt64 => TellsWhole w.toNat) o vs ↔ TellsDuration o vs := by
  constructor
  · intro h
    cases h with
    | missing => exact .missing
    | null => exact .null
    | value htells =>
      obtain ⟨_, rfl, hwhole⟩ := htells
      exact .number hwhole
  · intro h
    cases h with
    | missing => exact .missing
    | null => exact .null
    | number hwhole => exact .value ⟨_, rfl, hwhole⟩

private theorem optional_word64_iff {o : Option UInt64} {slot : Option Tree} :
    Reader.optional Reader.word64 slot = some o ↔ TellsDuration o slot.toList := by
  have hread (w : UInt64) (t : Tree) : Reader.word64 t = some w ↔ TellsWhole w.toNat t := Json.word64_eq_some_iff
  exact (Json.optional_iff_tellsOption hread fun w => Json.not_tellsWhole_null w.toNat).trans tellsDuration_iff

/-! ### The object -/

theorem read_eq_some_iff : Token.read (.object ms) = some t ↔ Tells t ms := by
  unfold Token.read
  simp only [Option.bind_eq_bind, Option.bind_eq_some_iff]
  constructor
  · rintro ⟨slots, hslots, hread⟩
    split at hread
    · rename_i id key uid endpoint duration
      obtain ⟨hnamed, hvalues⟩ := Json.slots_iff_fieldsOf.mp hslots
      simp only [List.map_cons, List.map_nil, List.cons.injEq] at hvalues
      obtain ⟨hid, hkey, huid, hendpoint, hduration, -⟩ := hvalues
      simp only [Option.bind_eq_some_iff] at hread
      obtain ⟨_, hid', _, hkey', _, huid', _, hendpoint', _, hduration', ht⟩ := hread
      obtain rfl := Option.some.inj ht
      obtain ⟨v, hv, hvuid⟩ := Json.required_eq_some_iff.mp huid'
      exact ⟨hnamed, hid.trans (Json.required_string_iff.mp hid'), hkey.trans (Json.required_string_iff.mp hkey'),
        ⟨v, huid.trans hv, textOrNumber_eq_some_iff.mp hvuid⟩,
        hendpoint.trans (Json.required_string_iff.mp hendpoint'), hduration ▸ optional_word64_iff.mp hduration'⟩
    · cases hread
  · rintro ⟨hnamed, hid, hkey, ⟨v, huid, hvuid⟩, hendpoint, hduration⟩
    obtain ⟨duration, hslot⟩ := (tellsDuration_iff.mpr hduration).exists_slot
    rw [hslot] at hduration
    refine ⟨[some (.string (some t.id)), some (.string (some t.key)), some v, some (.string (some t.endpoint)),
      duration], Json.slots_iff_fieldsOf.mpr ⟨hnamed, ?_⟩, ?_⟩
    · simp only [List.map_cons, List.map_nil, hid, hkey, huid, hendpoint, hslot, Option.toList_some]
    · have hid' : Reader.required Reader.string (some (.string (some t.id))) = some t.id := rfl
      have hkey' : Reader.required Reader.string (some (.string (some t.key))) = some t.key := rfl
      have huid' : Reader.required textOrNumber (some v) = some t.uid := textOrNumber_eq_some_iff.mpr hvuid
      have hendpoint' : Reader.required Reader.string (some (.string (some t.endpoint))) = some t.endpoint := rfl
      simp only [hid', hkey', huid', hendpoint', optional_word64_iff.mpr hduration]
      rfl

/-! ### How a token is written -/

section Documents

variable {fields : List (String × Json)}

private theorem valuesOf_branches (names : List String) (fields : List (String × Json)) :
    valuesOf names (Json.branches fields) = (fields.filter (names.contains ·.1)).map (·.2.tree) := by
  rw [Json.branches_eq_map, valuesOf, List.filter_map, List.map_map]
  rfl

private theorem tellsUid_tree {uid : String} {j : Json} (h : WritesUid uid j) : TellsUid uid j.tree := by
  cases h with
  | text => exact .text
  | number hlow hhigh hz => exact .number (Json.whole?_numeralOf hlow hhigh) hz

private theorem tellsDuration_values {duration : Option UInt64} {lasts : List (String × Json)}
    (h : WritesDuration duration lasts) : TellsDuration duration (valuesOf ["duration"] (Json.branches lasts)) ∧
      ∀ names ∈ fieldNames, names ≠ ["duration"] → valuesOf names (Json.branches lasts) = [] := by
  have hnames : ∀ names ∈ fieldNames, names ≠ ["duration"] → names.contains "duration" = false := by decide
  cases h with
  | missing => exact ⟨.missing, fun _ _ _ => rfl⟩
  | null =>
    refine ⟨.null, fun names hmem hne => ?_⟩
    rw [valuesOf_branches, List.filter_cons_of_neg (by rw [hnames names hmem hne]; exact Bool.false_ne_true)]
    rfl
  | number w =>
    have hlt := w.toNat_lt_size
    refine ⟨.number (Json.whole?_numeralOf (by omega) (by omega)), fun names hmem hne => ?_⟩
    rw [valuesOf_branches, List.filter_cons_of_neg (by rw [hnames names hmem hne]; exact Bool.false_ne_true)]
    rfl

private theorem valuesOf_append (names : List String) (fields fields' : List (String × Json)) :
    valuesOf names (Json.branches (fields ++ fields')) =
      valuesOf names (Json.branches fields) ++ valuesOf names (Json.branches fields') := by
  simp only [valuesOf_branches, List.filter_append, List.map_append]

private theorem valuesOf_perm {fields' : List (String × Json)} (h : fields.Perm fields') (names : List String) :
    (valuesOf names (Json.branches fields)).Perm (valuesOf names (Json.branches fields')) := by
  simp only [valuesOf_branches]
  exact (h.filter _).map _

private theorem TellsDuration.length_le {duration : Option UInt64} {vs : List Tree} (h : TellsDuration duration vs) :
    vs.length ≤ 1 := by
  cases h with
  | missing => exact Nat.zero_le 1
  | null => exact Nat.le_refl 1
  | number _ => exact Nat.le_refl 1

private theorem TellsDuration.of_perm {duration : Option UInt64} {us vs : List Tree} (h : TellsDuration duration vs)
    (hperm : us.Perm vs) : TellsDuration duration us := by
  cases h with
  | missing =>
    rw [List.perm_nil.mp hperm]
    exact .missing
  | null =>
    rw [List.perm_singleton.mp hperm]
    exact .null
  | number hwhole =>
    rw [List.perm_singleton.mp hperm]
    exact .number hwhole

theorem tells_of_writes (h : Writes t fields) : Tells t (Json.branches fields) := by
  cases h with
  | @intro lasts extras uid endpoint huid hendpoint hduration hextras hperm =>
    have hother : ∀ names ∈ fieldNames, valuesOf names (Json.branches extras) = [] := by
      intro names hnames
      rw [valuesOf_branches, List.map_eq_nil_iff, List.filter_eq_nil_iff]
      exact fun m hm hcontains => hextras m hm names hnames (List.contains_iff_mem.mp hcontains)
    obtain ⟨htells, hnone⟩ := tellsDuration_values hduration
    have hvalues (names : List String) (hnames : names ∈ fieldNames) : (valuesOf names (Json.branches fields)).Perm
        (valuesOf names (Json.branches [("id", .string t.id), ("key", .string t.key), ("uid", uid),
          (endpoint, .string t.endpoint)]) ++ valuesOf names (Json.branches lasts)) := by
      have hall := valuesOf_perm hperm names
      rwa [valuesOf_append, valuesOf_append, hother names hnames, List.append_nil] at hall
    have one {names : List String} {v : Tree} (hnames : names ∈ fieldNames) (hne : names ≠ ["duration"])
        (hv : valuesOf names (Json.branches [("id", .string t.id), ("key", .string t.key), ("uid", uid),
          (endpoint, .string t.endpoint)]) = [v]) : valuesOf names (Json.branches fields) = [v] := by
      have hall := hvalues names hnames
      rw [hv, hnone names hnames hne, List.append_nil] at hall
      exact List.perm_singleton.mp hall
    have hlasts := hvalues ["duration"] (by decide)
    have hnamed : ∀ m ∈ Json.branches fields, m.1 ≠ none := by
      rw [Json.branches_eq_map]
      intro m hm
      obtain ⟨field, -, rfl⟩ := List.mem_map.mp hm
      exact nofun
    simp only [List.mem_cons, List.not_mem_nil, or_false] at hendpoint
    -- Under either name of the endpoint the four fields are found where they stand.
    rcases hendpoint with rfl | rfl
    · exact ⟨hnamed, one (by decide) (by decide) rfl, one (by decide) (by decide) rfl,
        ⟨_, one (by decide) (by decide) rfl, tellsUid_tree huid⟩, one (by decide) (by decide) rfl,
        htells.of_perm hlasts⟩
    · exact ⟨hnamed, one (by decide) (by decide) rfl, one (by decide) (by decide) rfl,
        ⟨_, one (by decide) (by decide) rfl, tellsUid_tree huid⟩, one (by decide) (by decide) rfl,
        htells.of_perm hlasts⟩

private theorem writes_json (t : Token) : ∃ fields, t.json = .object fields ∧ Writes t fields := by
  have hduration : WritesDuration t.duration [("duration", Json.ofOption (fun n => .nat n.toNat) t.duration)] := by
    cases t.duration with
    | none => exact .null
    | some w => exact .number w
  refine ⟨_, rfl, @Writes.intro t _ _ [] _ _ .text List.mem_cons_self hduration nofun (.refl _)⟩

private theorem whole_json (t : Token) : Json.Whole t.json := by
  cases h : t.duration <;> simp [Token.json, Json.Whole, Json.WholeMembers, Json.ofOption, Json.nat, h]

theorem ofText_of_writes (h : Writes t fields) (hwhole : Json.WholeMembers fields) (l : Json.Layout) :
    Token.read.ofText (String.ofList (l.chars 0 (.object fields))) = some t := by
  rw [Json.ofText_chars Token.read (j := .object fields) hwhole]
  exact read_eq_some_iff.mpr (tells_of_writes h)

theorem ofText_compact (t : Token) : Token.read.ofText t.json.compact = some t := by
  rw [Json.ofText_compact Token.read (whole_json t)]
  obtain ⟨fields, hjson, hwrites⟩ := writes_json t
  rw [hjson]
  exact read_eq_some_iff.mpr (tells_of_writes hwrites)

end Documents

/-! ### What is refused -/

private theorem mem_valuesOf {name : String} (hm : (some name, v) ∈ ms) (hname : name ∈ names) :
    v ∈ valuesOf names ms := by
  refine List.mem_map.mpr ⟨(some name, v), List.mem_filter.mpr ⟨hm, ?_⟩, rfl⟩
  exact List.contains_iff_mem.mpr hname

private theorem Tells.length_le (h : Tells t ms) (hnames : names ∈ fieldNames) : (valuesOf names ms).length ≤ 1 := by
  obtain ⟨-, hid, hkey, ⟨v, huid, -⟩, hendpoint, hduration⟩ := h
  simp only [fieldNames, List.mem_cons, List.not_mem_nil, or_false] at hnames
  rcases hnames with rfl | rfl | rfl | rfl | rfl
  · rw [hid]
    exact Nat.le_refl 1
  · rw [hkey]
    exact Nat.le_refl 1
  · rw [huid]
    exact Nat.le_refl 1
  · rw [hendpoint]
    exact Nat.le_refl 1
  · exact hduration.length_le

private theorem Tells.ne_nil (h : Tells t ms) (hnames : names ∈ fieldNames) (hne : names ≠ ["duration"]) :
    valuesOf names ms ≠ [] := by
  obtain ⟨-, hid, hkey, ⟨v, huid, -⟩, hendpoint, -⟩ := h
  simp only [fieldNames, List.mem_cons, List.not_mem_nil, or_false] at hnames
  rcases hnames with rfl | rfl | rfl | rfl | rfl
  · rw [hid]
    exact List.cons_ne_nil _ _
  · rw [hkey]
    exact List.cons_ne_nil _ _
  · rw [huid]
    exact List.cons_ne_nil _ _
  · rw [hendpoint]
    exact List.cons_ne_nil _ _
  · exact (hne rfl).elim

private theorem length_valuesOf_le {name : String} (hname : name ∈ names) (ms : Members) :
    (valuesOf [name] ms).length ≤ (valuesOf names ms).length := by
  refine ((List.monotone_filter_right ms ?_).map Prod.snd).length_le
  intro ⟨n, _⟩ hm
  cases n with
  | none => cases hm
  | some n =>
    obtain rfl := List.mem_singleton.mp (List.contains_iff_mem.mp hm)
    exact List.contains_iff_mem.mpr hname

theorem not_tells_of_faulty (h : Faulty ms) (t : Token) : ¬ Tells t ms := by
  intro ht
  cases h with
  | spellings ha hb =>
    obtain ⟨m, hm, -⟩ := List.map_eq_singleton_iff.mp ht.endpoint
    have hfirst := List.mem_singleton.mp (hm ▸ List.mem_filter.mpr ⟨ha, rfl⟩)
    have hsecond := List.mem_singleton.mp (hm ▸ List.mem_filter.mpr ⟨hb, rfl⟩)
    rw [← hsecond] at hfirst
    exact absurd (Option.some.inj (congrArg Prod.fst hfirst)) (by decide)
  | repeated hnames hname htwo =>
    have hone := ht.length_le hnames
    have hle := length_valuesOf_le hname ms
    omega
  | missing hnames hne hnil => exact ht.ne_nil hnames hne hnil
  | uid hv hbad =>
    obtain ⟨v', huid, htells⟩ := ht.uid
    obtain rfl := List.mem_singleton.mp (huid ▸ mem_valuesOf hv (List.mem_singleton_self _))
    cases htells with
    | text =>
      rcases hbad with hnull | ⟨b, hbool⟩ | ⟨n, hn, -⟩
      · cases hnull
      · cases hbool
      · cases hn
    | number hwhole _ =>
      rcases hbad with hnull | ⟨b, hbool⟩ | ⟨n, hn, hreal⟩
      · cases hnull
      · cases hbool
      · obtain rfl := Tree.numeral.inj hn
        rw [Numeral.whole?, if_pos hreal] at hwhole
        cases hwhole

/-! ### Responses -/

/-- A text brings the token that is read off it, if that one can be used. -/
theorem ofText_eq_ok_iff {text : String} :
    Token.ofText text = .ok t ↔ Token.read.ofText text = some t ∧ t.Usable := by
  unfold Token.ofText
  cases hread : Token.read.ofText text with
  | none => exact iff_of_false nofun fun h => nomatch h.1
  | some token =>
    dsimp only
    cases hparse : Url.parse token.endpoint with
    | error f =>
      refine iff_of_false nofun ?_
      rintro ⟨ht, -, -, endpoint, hok, -⟩
      obtain rfl := Option.some.inj ht
      rw [hparse] at hok
      cases hok
    | ok endpoint =>
      dsimp only
      by_cases hhost : endpoint.host? = none
      · rw [if_pos (by rw [hhost]; rfl)]
        refine iff_of_false nofun ?_
        rintro ⟨ht, -, -, endpoint', hok, hhost'⟩
        obtain rfl := Option.some.inj ht
        obtain rfl := Except.ok.inj (hparse.symm.trans hok)
        exact hhost' hhost
      · rw [if_neg (by rwa [Option.isNone_iff_eq_none])]
        by_cases hempty : token.id = "" ∨ token.key = ""
        · rw [if_pos (by simpa using hempty)]
          refine iff_of_false nofun ?_
          rintro ⟨ht, hid, hkey, -⟩
          obtain rfl := Option.some.inj ht
          exact hempty.elim hid hkey
        · rw [if_neg (by simpa using hempty)]
          obtain ⟨hid, hkey⟩ := not_or.mp hempty
          constructor
          · intro ht
            obtain rfl := Except.ok.inj ht
            exact ⟨rfl, hid, hkey, endpoint, hparse, hhost⟩
          · rintro ⟨ht, -⟩
            rw [Option.some.inj ht]

theorem malformed_of_error {text : String} {e : SyncError} (h : Token.ofText text = .error e) :
    ∃ message, e = .malformed message := by
  unfold Token.ofText at h
  split at h
  · cases h
    exact ⟨_, rfl⟩
  · split at h
    · cases h
      exact ⟨_, rfl⟩
    · split at h
      · cases h
        exact ⟨_, rfl⟩
      · split at h
        · cases h
          exact ⟨_, rfl⟩
        · cases h

variable {r : Http.Response}

theorem resultOf_of_success (h : Http.isSuccess r.status = true) : resultOf r = Token.ofText r.text := if_pos h

private theorem not_ok_of_failure (h : Http.isSuccess r.status = false) : resultOf r ≠ .ok t := by
  intro hok
  unfold resultOf at hok
  rw [h, if_neg Bool.false_ne_true] at hok
  dsimp only at hok
  split at hok
  · cases hok
  · cases hok

private theorem sent_of_course {request? : Except Http.Failure Http.Request}
    {xs : List (Dialogue.Exchange Http.Question.Answer)} (h : Dialogue.Course (Http.send request?) xs (.ok r)) :
    ∃ request, ⟨.send request, some r⟩ ∈ xs := by
  cases request? with
  | error f =>
    obtain ⟨-, hr⟩ := Dialogue.course_pure_iff.mp h
    cases hr
  | ok request =>
    obtain ⟨ys, answer, zs, hasked, hrest, rfl⟩ := Dialogue.course_bind_iff.mp
      (show Dialogue.Course (Dialogue.question (Http.Question.send request) >>= _) xs (Except.ok r) from h)
    cases answer with
    | none =>
      obtain ⟨-, hr⟩ := Dialogue.course_pure_iff.mp hrest
      cases hr
    | some response =>
      obtain ⟨-, hr⟩ := Dialogue.course_pure_iff.mp hrest
      obtain rfl := Except.ok.inj hr
      obtain rfl := Dialogue.course_question_iff.mp hasked
      exact ⟨request, List.mem_append_left _ List.mem_cons_self⟩

theorem usable_of_ok (h : resultOf r = .ok t) : t.Usable := by
  cases hstatus : Http.isSuccess r.status with
  | true =>
    rw [resultOf_of_success hstatus] at h
    exact (ofText_eq_ok_iff.mp h).2
  | false => exact (not_ok_of_failure hstatus h).elim

theorem response_of_course {url assertion clientState : String} {xs : List (Dialogue.Exchange Http.Question.Answer)}
    {response : Response} (h : Dialogue.Course (exchange url assertion clientState) xs (.ok response)) :
    ∃ request now r, ⟨.send request, some r⟩ ∈ xs ∧ response = .ofHttp now r := by
  obtain ⟨ys, answer, zs, hsend, hrest, rfl⟩ := Dialogue.course_bind_iff.mp h
  cases answer with
  | error e =>
    obtain ⟨-, hr⟩ := Dialogue.course_pure_iff.mp hrest
    cases hr
  | ok r =>
    obtain ⟨us, now, vs, -, hpure, -⟩ := Dialogue.course_bind_iff.mp hrest
    obtain ⟨-, hr⟩ := Dialogue.course_pure_iff.mp hpure
    obtain ⟨request, hmem⟩ := sent_of_course hsend
    exact ⟨request, now, r, List.mem_append_left _ hmem, Except.ok.inj hr⟩

end AccountSync.TokenServer
