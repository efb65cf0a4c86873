import AccountSync.Http.Signal
import AccountSync.Proofs.Text.Decimal
import AccountSync.Proofs.Text.Trimming
import Mathlib.Order.Bounds.Basic

/-!
How long a server wants to be left alone. Three fields of a response say so (`Directive`), each by the first value of
its name (`Headers.first?`), and `Asks` says what such a value asks for. Main statement: `backoffSignal_heeded`, that
all of this is heeded and nothing else, and that the delay to keep is the longest that counts.
-/

set_option autoImplicit false
set_option relaxedAutoImplicit false

namespace AccountSync.Http

open Text Text.Decimal Text.LetterCase

def SameName (a b : String) : Prop := lowerAscii a = lowerAscii b

instance (a b : String) : Decidable (SameName a b) := inferInstanceAs (Decidable (lowerAscii a = lowerAscii b))

def Headers.named (hs : Headers) (name : String) : Headers := hs.filter fun h => SameName h.name name

def Headers.first? (hs : Headers) (name : String) : Option (List UInt8) := (hs.named name).head?.map (·.value)

def characters (value : List UInt8) : List Char := value.map fun b => Char.ofNat b.toNat

/-- What a value says: all of it can be read, and this is left without the spaces and tabs around it. -/
structure Reads (value : List UInt8) (text : String) : Prop where
  visible : ∀ b ∈ value, b = 9 ∨ 32 ≤ b ∧ b < 127
  trimmed : Trimmed (fun c => c = ' ' ∨ c = '\t') (characters value) text.toList
  nonblank : text ≠ ""

def Numeral (value : List UInt8) (n : Nat) : Prop := ∃ text, Reads value text ∧ Writes text.toList n ∧ n < UInt64.size

def Dated (value : List UInt8) (date : Int) : Prop :=
  (∀ n, ¬ Numeral value n) ∧ ∃ text, Reads value text ∧ Date.millis? text = some date

/-- The fields by which a server asks for a delay. -/
inductive Directive
  | retryAfter
  | backoff
  | weaveBackoff

namespace Directive

def header : Directive → String
  | retryAfter => "Retry-After"
  | backoff => "X-Backoff"
  | weaveBackoff => "X-Weave-Backoff"

def seconds? : Directive → BackoffSignal → Option Nat
  | retryAfter => BackoffSignal.retryAfter
  | backoff => BackoffSignal.backoff
  | weaveBackoff => BackoffSignal.weaveBackoff

/-- What a value of the field asks for: its number of seconds, or the whole seconds until its date. -/
def Asks (now : Instant) (d : Directive) (value : List UInt8) (n : Nat) : Prop :=
  Numeral value n ∨
    d = retryAfter ∧ ∃ date : Int, Dated value date ∧ now.toNat ≤ date ∧ (n : Int) = (date - now.toNat) / 1000

end Directive

/-- A delay counts among those that are asked for. When to come back is advice only where the request went well. -/
def BackoffSignal.Counts (s : BackoffSignal) (n : Nat) : Prop :=
  ∃ d : Directive, (d = .retryAfter → ¬ (200 ≤ s.status ∧ s.status < 300)) ∧ d.seconds? s = some n

variable {hs hs' : Headers} {name small text : String} {value : List UInt8} {n : Nat} {now : Instant} {status : UInt16}

/-! ### The first value of a name -/

private theorem value?_eq_first? (hsmall : lowerAscii name = small) : hs.value? small = hs.first? name := by
  rw [Headers.value?, Headers.first?, Headers.named, List.head?_filter]
  simp only [SameName, hsmall]

/-- Within visible characters nothing but spaces and tabs is blank. -/
theorem isBlank_iff {c : Char} (hvalue : ∀ b ∈ value, b = 9 ∨ 32 ≤ b ∧ b < 127) (hc : c ∈ characters value) :
    isBlank c = true ↔ c = ' ' ∨ c = '\t' := by
  obtain ⟨b, hb, rfl⟩ := List.mem_map.mp hc
  have hcode : b.toNat < 127 ∧ (b.toNat = 9 ∨ 32 ≤ b.toNat) := by
    rcases hvalue b hb with rfl | ⟨hlow, hhigh⟩
    · decide
    · exact ⟨hhigh, .inr hlow⟩
  have hcodes : ∀ n < 127, n = 9 ∨ 32 ≤ n →
      (isBlank (Char.ofNat n) = true ↔ Char.ofNat n = ' ' ∨ Char.ofNat n = '\t') := by decide
  exact hcodes b.toNat hcode.1 hcode.2

private theorem isVisible_iff {b : UInt8} : isVisible b = true ↔ b = 9 ∨ 32 ≤ b ∧ b < 127 := by
  simp [isVisible]

theorem reads_iff : Reads value text ↔ value.all isVisible = true ∧
    trim (String.ofList (characters value)) = text ∧ text ≠ "" := by
  have htrim : trim (String.ofList (characters value)) = text ↔
      Trimmed (isBlank · = true) (characters value) text.toList := by
    rw [trim_eq_iff, String.toList_ofList]
  rw [htrim, List.all_eq_true]
  constructor
  · rintro ⟨hvisible, htrimmed, hnonblank⟩
    refine ⟨fun b hb => isVisible_iff.mpr (hvisible b hb), ?_, hnonblank⟩
    exact (trimmed_congr fun c hc => isBlank_iff hvisible hc).mpr htrimmed
  · rintro ⟨hvisible, htrimmed, hnonblank⟩
    have hvalue : ∀ b ∈ value, b = 9 ∨ 32 ≤ b ∧ b < 127 := fun b hb => isVisible_iff.mp (hvisible b hb)
    exact ⟨hvalue, (trimmed_congr fun c hc => isBlank_iff hvalue hc).mp htrimmed, hnonblank⟩

private theorem Reads.unique {text' : String} (h : Reads value text) (h' : Reads value text') : text = text' :=
  (reads_iff.mp h).2.1.symm.trans (reads_iff.mp h').2.1

private theorem text?_eq_some_iff (hsmall : lowerAscii name = small) :
    hs.text? small = some text ↔ ∃ value, hs.first? name = some value ∧ Reads value text := by
  rw [Headers.text?, value?_eq_first? hsmall]
  refine Option.bind_eq_some_iff.trans (exists_congr fun value => and_congr_right fun _ => ?_)
  rw [reads_iff]
  by_cases hvisible : value.all isVisible = true
  · rw [if_pos hvisible]
    dsimp only
    rw [characters]
    generalize trim (String.ofList (value.map fun b => Char.ofNat b.toNat)) = read
    by_cases hread : read = ""
    · subst hread
      refine iff_of_false nofun ?_
      rintro ⟨-, hempty, hnonblank⟩
      exact hnonblank hempty.symm
    · rw [if_neg (by simpa using hread), Option.some_inj]
      constructor
      · rintro rfl
        exact ⟨hvisible, rfl, hread⟩
      · exact fun h => h.2.1
  · rw [if_neg hvisible]
    exact iff_of_false nofun fun h => hvisible h.1

private theorem word?_eq_some_iff_numeral (hsmall : lowerAscii name = small) :
    hs.word? small = some n ↔ ∃ value, hs.first? name = some value ∧ Numeral value n := by
  rw [Headers.word?, Option.bind_eq_some_iff]
  constructor
  · rintro ⟨text, htext, hword⟩
    obtain ⟨value, hfirst, hreads⟩ := (text?_eq_some_iff hsmall).mp htext
    exact ⟨value, hfirst, text, hreads, word?_eq_some_iff.mp hword⟩
  · rintro ⟨value, hfirst, text, hreads, hwrites⟩
    exact ⟨text, (text?_eq_some_iff hsmall).mpr ⟨value, hfirst, hreads⟩, word?_eq_some_iff.mpr hwrites⟩

/-! ### When to come back -/

theorem Reads.numeral_iff (h : Reads value text) : Numeral value n ↔ word? text = some n := by
  rw [word?_eq_some_iff]
  constructor
  · rintro ⟨text', hreads, hwrites⟩
    rwa [h.unique hreads]
  · exact fun hwrites => ⟨text, h, hwrites⟩

private theorem moment_millis?_lt {m : Date.Moment} {date : Int} (h : m.millis? = some date) : date < 2 ^ 63 := by
  unfold Date.Moment.millis? at h
  obtain ⟨⟨-, -, -, -, -, -, -, -, hlast⟩, hdate⟩ := Option.ite_none_right_eq_some.mp h
  rw [← Option.some.inj hdate]
  have hday : Calendar.Date.dayNumber ⟨262142, 12, 31⟩ < 2 ^ 30 := by decide
  split at hlast
  · omega
  · omega

theorem date_millis?_lt {date : Int} (h : Date.millis? text = some date) : date < 2 ^ 63 := by
  have hbind {m : Option Date.Moment} (hm : m.bind Date.Moment.millis? = some date) : date < 2 ^ 63 := by
    obtain ⟨moment, -, hmoment⟩ := Option.bind_eq_some_iff.mp hm
    exact moment_millis?_lt hmoment
  unfold Date.millis? at h
  rcases (Option.orElse_eq_some _ _ _).mp h with h | ⟨-, h⟩
  · exact hbind h
  · rcases (Option.orElse_eq_some _ _ _).mp h with h | ⟨-, h⟩
    · exact hbind h
    · exact hbind h

private theorem retryAfter?_eq_some_iff : hs.retryAfter? now = some n ↔
    ∃ value, hs.first? "Retry-After" = some value ∧ Directive.retryAfter.Asks now value n := by
  have hsmall : lowerAscii "Retry-After" = "retry-after" := by decide
  unfold Headers.retryAfter?
  refine Option.bind_eq_some_iff.trans ?_
  constructor
  · rintro ⟨text, htext, hread⟩
    obtain ⟨value, hfirst, hreads⟩ := (text?_eq_some_iff hsmall).mp htext
    refine ⟨value, hfirst, ?_⟩
    cases hword : word? text with
    | some seconds =>
      rw [hword] at hread
      obtain rfl := Option.some.inj hread
      exact .inl (hreads.numeral_iff.mpr hword)
    | none =>
      rw [hword] at hread
      obtain ⟨date, hdate, hrest⟩ := Option.bind_eq_some_iff.mp hread
      obtain ⟨⟨-, hle⟩, hn⟩ := Option.ite_none_right_eq_some.mp hrest
      have hword' : ∀ n, ¬ Numeral value n := by
        intro n hn
        rw [hreads.numeral_iff, hword] at hn
        cases hn
      refine .inr ⟨rfl, date, ⟨hword', text, hreads, hdate⟩, hle, ?_⟩
      rw [← Option.some.inj hn]
      omega
  · rintro ⟨value, hfirst, hnumeral | ⟨-, date, ⟨hword, text, hreads, hdate⟩, hle, hn⟩⟩
    · obtain ⟨text, hreads, hwrites⟩ := hnumeral
      refine ⟨text, (text?_eq_some_iff hsmall).mpr ⟨value, hfirst, hreads⟩, ?_⟩
      rw [word?_eq_some_iff.mpr hwrites]
    · have hnone : word? text = none :=
        Option.eq_none_iff_forall_ne_some.mpr fun n hn => hword n (hreads.numeral_iff.mpr hn)
      have hlt := date_millis?_lt hdate
      refine ⟨text, (text?_eq_some_iff hsmall).mpr ⟨value, hfirst, hreads⟩, ?_⟩
      rw [hnone]
      refine Option.bind_eq_some_iff.mpr ⟨date, hdate, ?_⟩
      rw [if_pos ⟨by omega, hle⟩, Option.some_inj]
      omega

/-- Every field is read by the first value of its name, and by what that value asks for. -/
theorem seconds?_eq_some_iff (d : Directive) : d.seconds? (hs.backoffSignal status now) = some n ↔
    ∃ value, hs.first? d.header = some value ∧ d.Asks now value n := by
  have hasks {d : Directive} (hd : d ≠ .retryAfter) {value : List UInt8} : d.Asks now value n ↔ Numeral value n :=
    or_iff_left fun h => hd h.1
  cases d with
  | retryAfter => exact retryAfter?_eq_some_iff
  | backoff =>
    simp only [hasks (d := .backoff) nofun]
    exact word?_eq_some_iff_numeral (by decide)
  | weaveBackoff =>
    simp only [hasks (d := .weaveBackoff) nofun]
    exact word?_eq_some_iff_numeral (by decide)

private theorem seconds?_congr {d : Directive} (h : hs'.first? d.header = hs.first? d.header) :
    d.seconds? (hs'.backoffSignal status now) = d.seconds? (hs.backoffSignal status now) := by
  refine Option.ext fun n => ?_
  rw [seconds?_eq_some_iff, seconds?_eq_some_iff, h]

private theorem backoffSignal_congr (h : ∀ d : Directive, hs'.first? d.header = hs.first? d.header) :
    hs'.backoffSignal status now = hs.backoffSignal status now := by
  have hfield (d : Directive) : d.seconds? (hs'.backoffSignal status now) = d.seconds? (hs.backoffSignal status now) :=
    seconds?_congr (h d)
  exact (BackoffSignal.mk.injEq ..).mpr ⟨rfl, hfield .retryAfter, hfield .backoff, hfield .weaveBackoff⟩

private theorem not_reads_of_blank (h : ∀ b ∈ value, b = 32 ∨ b = 9) : ¬ Reads value text := by
  intro hreads
  obtain ⟨left, right, hvalue, -, -⟩ := hreads.trimmed.around
  cases htext : text.toList with
  | nil => exact hreads.nonblank (String.toList_inj.mp htext)
  | cons c cs =>
    have hmem : c ∈ characters value := by
      rw [hvalue, htext]
      exact List.mem_append_left _ (List.mem_append_right _ List.mem_cons_self)
    obtain ⟨b, hb, rfl⟩ := List.mem_map.mp hmem
    refine hreads.trimmed.starts (Char.ofNat b.toNat) (by rw [htext]; rfl) ?_
    rcases h b hb with rfl | rfl
    · exact .inl rfl
    · exact .inr rfl

private theorem seconds?_eq_none {d : Directive} (hfirst : hs.first? d.header = some value)
    (hreads : ∀ text, ¬ Reads value text) : d.seconds? (hs.backoffSignal status now) = none := by
  refine Option.eq_none_iff_forall_ne_some.mpr fun n hn => ?_
  obtain ⟨value', hfirst', hasks⟩ := (seconds?_eq_some_iff d).mp hn
  obtain rfl := Option.some.inj (hfirst.symm.trans hfirst')
  rcases hasks with ⟨text, htext, -⟩ | ⟨-, date, ⟨-, text, htext, -⟩, -⟩
  · exact hreads text htext
  · exact hreads text htext

/-! ### Other ways to write the same fields -/

private theorem first?_of_named (h : hs'.named name = hs.named name) : hs'.first? name = hs.first? name := by
  rw [Headers.first?, h, Headers.first?]

private theorem named_cons_of_same {h : Header} (hname : SameName h.name name) :
    Headers.named (h :: hs) name = h :: hs.named name :=
  List.filter_cons_of_pos (decide_eq_true hname)

private theorem named_cons_of_other {h : Header} (hname : ¬ SameName h.name name) :
    Headers.named (h :: hs) name = hs.named name :=
  List.filter_cons_of_neg (mt of_decide_eq_true hname)

private theorem named_append (hs hs' : Headers) (name : String) :
    Headers.named (hs ++ hs') name = hs.named name ++ hs'.named name :=
  List.filter_append ..

private theorem SameName.congr_left {a b : String} (h : SameName a b) : SameName a name ↔ SameName b name := by
  rw [SameName, h, SameName]

private theorem first?_of_forall₂ (h : List.Forall₂ (fun h' h => SameName h'.name h.name ∧ h'.value = h.value) hs' hs) :
    hs'.first? name = hs.first? name := by
  induction h with
  | nil => rfl
  | @cons h' h hs' hs hhead htail ih =>
    unfold Headers.first? at ih ⊢
    by_cases hname : SameName h.name name
    · rw [named_cons_of_same (hhead.1.congr_left.mpr hname), named_cons_of_same hname]
      exact congrArg some hhead.2
    · rw [named_cons_of_other (mt hhead.1.congr_left.mp hname), named_cons_of_other hname]
      exact ih

/-! ### The delay to keep -/

namespace BackoffSignal

variable {s : BackoffSignal}

def counted (s : BackoffSignal) : List Nat :=
  [if !isSuccess s.status then s.retryAfter else none, s.backoff, s.weaveBackoff].filterMap id

private theorem mem_counted : n ∈ s.counted ↔ s.Counts n := by
  have hsuccess : isSuccess s.status = true ↔ 200 ≤ s.status ∧ s.status < 300 := by simp [isSuccess]
  have hretry : (if !isSuccess s.status then s.retryAfter else none) = some n ↔
      ¬ (200 ≤ s.status ∧ s.status < 300) ∧ s.retryAfter = some n := by
    rw [Option.ite_none_right_eq_some, ← hsuccess, Bool.not_eq_true', Bool.not_eq_true]
  unfold counted
  rw [List.mem_filterMap]
  constructor
  · rintro ⟨_, hmem, hn⟩
    rcases List.mem_cons.mp hmem with rfl | hmem
    · obtain ⟨hstatus, hn⟩ := hretry.mp hn
      exact ⟨.retryAfter, fun _ => hstatus, hn⟩
    rcases List.mem_cons.mp hmem with rfl | hmem
    · exact ⟨.backoff, nofun, hn⟩
    · rw [List.mem_singleton.mp hmem] at hn
      exact ⟨.weaveBackoff, nofun, hn⟩
  · rintro ⟨d, hstatus, hn⟩
    cases d with
    | retryAfter => exact ⟨_, List.mem_cons_self, hretry.mpr ⟨hstatus rfl, hn⟩⟩
    | backoff => exact ⟨_, List.mem_cons_of_mem _ List.mem_cons_self, hn⟩
    | weaveBackoff => exact ⟨_, List.mem_cons_of_mem _ (List.mem_cons_of_mem _ List.mem_cons_self), hn⟩

theorem total_eq_none_iff : s.total = none ↔ ∀ n, ¬ s.Counts n := by
  rw [total, Option.map_eq_none_iff]
  refine List.max?_eq_none_iff.trans ?_
  rw [List.eq_nil_iff_forall_not_mem]
  exact forall_congr' fun n => not_congr mem_counted

theorem total_eq_some_iff {delay : Nat} :
    s.total = some delay ↔ ∃ n, IsGreatest {n | s.Counts n} n ∧ 1000 * n = delay := by
  rw [total, Option.map_eq_some_iff]
  refine exists_congr fun n => and_congr_left fun _ => ?_
  refine List.max?_eq_some_iff.trans ?_
  exact and_congr mem_counted (forall_congr' fun m => imp_congr_left mem_counted)

end BackoffSignal

/-- What is made of the headers of a response. -/
structure Heeds (hs : Headers) (status : UInt16) (now : Instant) : Prop where
  asked : ∀ (d : Directive) n, d.seconds? (hs.backoffSignal status now) = some n ↔
    ∃ value, hs.first? d.header = some value ∧ d.Asks now value n
  passed : ∀ value date, hs.first? "Retry-After" = some value → Dated value date → date < now.toNat →
    (hs.backoffSignal status now).retryAfter = none
  unread : ∀ (d : Directive) value, hs.first? d.header = some value →
    (∃ b ∈ value, ¬ (b = 9 ∨ 32 ≤ b ∧ b < 127)) ∨ (∀ b ∈ value, b = 32 ∨ b = 9) →
      d.seconds? (hs.backoffSignal status now) = none
  own : ∀ (d : Directive) hs', Headers.first? hs' d.header = hs.first? d.header →
    d.seconds? (Headers.backoffSignal hs' status now) = d.seconds? (hs.backoffSignal status now)
  order : ∀ hs', (∀ name, Headers.named hs' name = hs.named name) →
    Headers.backoffSignal hs' status now = hs.backoffSignal status now
  letters : ∀ hs', List.Forall₂ (fun h' h => SameName h'.name h.name ∧ h'.value = h.value) hs' hs →
    Headers.backoffSignal hs' status now = hs.backoffSignal status now
  others : ∀ before h after, hs = before ++ h :: after → (∀ d : Directive, ¬ SameName h.name d.header) →
    Headers.backoffSignal (before ++ after) status now = hs.backoffSignal status now

private theorem heeds (hs : Headers) (status : UInt16) (now : Instant) : Heeds hs status now where
  asked d _ := seconds?_eq_some_iff d
  passed value date hfirst hdated hpassed := by
    refine Option.eq_none_iff_forall_ne_some.mpr fun n hn => ?_
    obtain ⟨value', hfirst', hasks⟩ := (seconds?_eq_some_iff .retryAfter).mp hn
    obtain rfl := Option.some.inj (hfirst.symm.trans hfirst')
    rcases hasks with hnumeral | ⟨-, date', hdated', hle, -⟩
    · exact hdated.1 n hnumeral
    · obtain ⟨-, text, hreads, hdate⟩ := hdated
      obtain ⟨-, text', hreads', hdate'⟩ := hdated'
      rw [hreads.unique hreads', hdate'] at hdate
      obtain rfl := Option.some.inj hdate
      omega
  unread d value hfirst hvalue := by
    refine seconds?_eq_none hfirst fun text hreads => ?_
    rcases hvalue with ⟨b, hb, hvisible⟩ | hblank
    · exact hvisible (hreads.visible b hb)
    · exact not_reads_of_blank hblank hreads
  own _ _ h := seconds?_congr h
  order _ h := backoffSignal_congr fun d => first?_of_named (h d.header)
  letters _ h := backoffSignal_congr fun _ => first?_of_forall₂ h
  others before h after hhs hother := by
    refine backoffSignal_congr fun d => first?_of_named ?_
    rw [hhs, named_append, named_append, named_cons_of_other (hother d)]

/-- What a server asks for in its headers is heeded, and the delay to keep is the longest that counts, a thousand
milliseconds for each second; no delay is kept if none counts. -/
theorem backoffSignal_heeded (hs : Headers) (status : UInt16) (now : Instant) :
    Heeds hs status now ∧
      ((hs.backoffSignal status now).total = none ↔ ∀ n, ¬ (hs.backoffSignal status now).Counts n) ∧
      (∀ delay, (hs.backoffSignal status now).total = some delay ↔
        ∃ n, IsGreatest {n | (hs.backoffSignal status now).Counts n} n ∧ 1000 * n = delay) ∧
      ∀ millis, (hs.backoffSignal status now).total.map clampMillis = some millis ↔
        ∃ n, IsGreatest {n | (hs.backoffSignal status now).Counts n} n ∧ min (1000 * n) (2 ^ 64 - 1) = millis := by
  refine ⟨heeds hs status now, BackoffSignal.total_eq_none_iff, fun _ => BackoffSignal.total_eq_some_iff, ?_⟩
  intro millis
  rw [Option.map_eq_some_iff]
  constructor
  · rintro ⟨_, htotal, hmillis⟩
    obtain ⟨n, hgreatest, rfl⟩ := BackoffSignal.total_eq_some_iff.mp htotal
    exact ⟨n, hgreatest, hmillis⟩
  · rintro ⟨n, hgreatest, hmillis⟩
    exact ⟨_, BackoffSignal.total_eq_some_iff.mpr ⟨n, hgreatest, rfl⟩, hmillis⟩

example : (Headers.backoffSignal [⟨"x-BACKOFF", [49, 32]⟩, ⟨"X-Backoff", [50]⟩, ⟨"Retry-After", [57]⟩] 200 0).total =
    some 1000 := by decide

end AccountSync.Http
