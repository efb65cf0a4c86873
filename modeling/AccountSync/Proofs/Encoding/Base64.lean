import Mathlib.Data.List.Forall2
import AccountSync.Encoding.Base64

/-!
The URL-safe dialect has one written form for every byte string. Main statements: `eq_of_decode`, that a text which
decodes to some bytes is the text that these are written as, and `decode_encodeChars`, that it then decodes to them. By
`exists_bytes_iff` a written form can be told by its characters alone.
-/

set_option autoImplicit false
set_option relaxedAutoImplicit false

namespace AccountSync

theorem bind_eq_ok_iff {ε α β : Type} {x : Except ε α} {f : α → Except ε β} {b : β} :
    x >>= f = .ok b ↔ ∃ a, x = .ok a ∧ f a = .ok b := by
  constructor
  · intro h
    cases x with
    | error e => cases h
    | ok a => exact ⟨a, rfl, h⟩
  · rintro ⟨a, rfl, h⟩
    exact h

alias ⟨exists_ok_of_bind, _⟩ := bind_eq_ok_iff

theorem mapError_eq_ok_iff {ε ε' α : Type} {f : ε → ε'} {x : Except ε α} {a : α} :
    x.mapError f = .ok a ↔ x = .ok a := by
  cases x <;> simp [Except.mapError]

namespace Encoding.Base64

open Text.Utf8 (toNat_ofNat_of_lt)

abbrev Reads (text : List UInt8) (ns : List Nat) : Prop :=
  List.Forall₂ (fun b n => urlSafe.value? b = some n) text ns

private theorem value?_spec : ∀ k : Nat, k < 256 → ∀ n ∈ urlSafe.value? (UInt8.ofNat k),
    n < 64 ∧ String.utf8EncodeChar (urlSafe.symbol n) = [UInt8.ofNat k] := by
  decide +kernel

/-- A byte that has a value is the whole of the symbol for that value. -/
theorem symbol_of_value? {b : UInt8} {n : Nat} (h : urlSafe.value? b = some n) :
    n < 64 ∧ String.utf8EncodeChar (urlSafe.symbol n) = [b] := by
  have hb := value?_spec b.toNat b.toNat_lt n
  rw [UInt8.ofNat_toNat] at hb
  exact hb h

private theorem encode_symbols {text : List UInt8} {ns : List Nat} (h : Reads text ns) :
    Text.Utf8.encode (ns.map urlSafe.symbol) = text := by
  induction h with
  | nil => rfl
  | @cons b n text ns hb _ ih =>
    unfold Text.Utf8.encode at ih ⊢
    rw [List.map_cons, List.flatMap_cons, ih, (symbol_of_value? hb).2]
    rfl

private theorem value?_of_valueAt {offset : Nat} {b : UInt8} {n : Nat} (h : urlSafe.valueAt offset b = .ok n) :
    urlSafe.value? b = some n := by
  unfold Dialect.valueAt at h
  split at h
  · cases h
    assumption
  · cases h

/-- Padding that was read is not forgotten. -/
theorem padded_of_lastGroup {offset place first : Nat} {text : List UInt8} {ns : List Nat} {padded : Bool}
    (h : lastGroup urlSafe offset place (some first) text = .ok (ns, padded)) : padded = true := by
  induction text generalizing place with
  | nil =>
    cases h
    rfl
  | cons b text ih =>
    unfold lastGroup at h
    split at h
    · split at h
      · cases h
      · exact ih h
    · cases h

private theorem reads_of_lastGroup {offset place : Nat} {text : List UInt8} {ns : List Nat}
    (h : lastGroup urlSafe offset place none text = .ok (ns, false)) : Reads text ns := by
  induction text generalizing place ns with
  | nil =>
    cases h
    exact .nil
  | cons b text ih =>
    unfold lastGroup at h
    split at h
    · split at h
      · cases h
      · cases padded_of_lastGroup h
    · obtain ⟨n, hb, h⟩ := exists_ok_of_bind h
      obtain ⟨⟨ms, padded⟩, hrest, h⟩ := exists_ok_of_bind h
      cases h
      exact .cons (value?_of_valueAt hb) (ih hrest)

private theorem encodeChars_group {a b c e : Nat} (ha : a < 64) (hb : b < 64) (hc : c < 64) (he : e < 64)
    (bs : List UInt8) : encodeChars urlSafe (UInt8.ofNat (a * 4 + b / 16) :: UInt8.ofNat (b % 16 * 16 + c / 4) ::
      UInt8.ofNat (c % 4 * 64 + e) :: bs) = [a, b, c, e].map urlSafe.symbol ++ encodeChars urlSafe bs := by
  rw [encodeChars, toNat_ofNat_of_lt (by omega), toNat_ofNat_of_lt (by omega), toNat_ofNat_of_lt (by omega)]
  generalize hn : ((a * 4 + b / 16) * 256 + (b % 16 * 16 + c / 4)) * 256 + (c % 4 * 64 + e) = n
  have h₁ : n / 262144 = a := by omega
  have h₂ : n / 4096 % 64 = b := by omega
  have h₃ : n / 64 % 64 = c := by omega
  have h₄ : n % 64 = e := by omega
  rw [h₁, h₂, h₃, h₄]
  rfl

private theorem encodeChars_closeGroup {offset : Nat} {ns : List Nat} {bs : List UInt8} (hns : ∀ n ∈ ns, n < 64)
    (h : closeGroup urlSafe offset ns = .ok bs) : encodeChars urlSafe bs = ns.map urlSafe.symbol := by
  unfold closeGroup at h
  split at h
  · rename_i a b
    have ha := hns a (by simp)
    have hb := hns b (by simp)
    split at h
    · rename_i hleft
      cases h
      rw [encodeChars, toNat_ofNat_of_lt (by omega)]
      have h₁ : (a * 4 + b / 16) * 16 / 64 = a := by omega
      have h₂ : (a * 4 + b / 16) * 16 % 64 = b := by omega
      rw [h₁, h₂]
      rfl
    · cases h
  · rename_i a b c
    have ha := hns a (by simp)
    have hb := hns b (by simp)
    have hc := hns c (by simp)
    split at h
    · rename_i hleft
      cases h
      rw [encodeChars, toNat_ofNat_of_lt (by omega), toNat_ofNat_of_lt (by omega)]
      generalize hn : ((a * 4 + b / 16) * 256 + (b % 16 * 16 + c / 4)) * 4 = n
      have h₁ : n / 4096 = a := by omega
      have h₂ : n / 64 % 64 = b := by omega
      have h₃ : n % 64 = c := by omega
      rw [h₁, h₂, h₃]
      rfl
    · cases h
  · rename_i a b c e
    cases h
    exact encodeChars_group (hns a (by simp)) (hns b (by simp)) (hns c (by simp)) (hns e (by simp)) []
  · cases h

private theorem lt_of_reads {text : List UInt8} {ns : List Nat} (h : Reads text ns) : ∀ n ∈ ns, n < 64 := by
  induction h with
  | nil => exact nofun
  | @cons b n text ns hb _ ih =>
    intro m hm
    rcases List.mem_cons.mp hm with rfl | hm
    · exact (symbol_of_value? hb).1
    · exact ih m hm

private theorem reads_of_decodeGroups {offset : Nat} {text bs : List UInt8}
    (h : decodeGroups urlSafe offset text = .ok bs) :
    ∃ ns, Reads text ns ∧ encodeChars urlSafe bs = ns.map urlSafe.symbol := by
  fun_induction decodeGroups urlSafe offset text generalizing bs with
  | case1 offset =>
    cases h
    exact ⟨[], .nil, rfl⟩
  | case2 offset a b c e next rest ih =>
    obtain ⟨na, ha, h⟩ := exists_ok_of_bind h
    obtain ⟨nb, hb, h⟩ := exists_ok_of_bind h
    obtain ⟨nc, hc, h⟩ := exists_ok_of_bind h
    obtain ⟨ne, he, h⟩ := exists_ok_of_bind h
    obtain ⟨bs', hrest, h⟩ := exists_ok_of_bind h
    cases h
    obtain ⟨ns, hreads, hns⟩ := ih hrest
    have hfour : Reads [a, b, c, e] [na, nb, nc, ne] :=
      .cons (value?_of_valueAt ha) (.cons (value?_of_valueAt hb)
        (.cons (value?_of_valueAt hc) (.cons (value?_of_valueAt he) .nil)))
    have hlt := lt_of_reads hfour
    refine ⟨[na, nb, nc, ne] ++ ns, List.rel_append hfour hreads, ?_⟩
    rw [encodeChars_group (hlt na (by simp)) (hlt nb (by simp)) (hlt nc (by simp)) (hlt ne (by simp)), hns,
      List.map_append]
  | case3 offset last _ _ =>
    obtain ⟨⟨ns, padded⟩, hgroup, h⟩ := exists_ok_of_bind h
    dsimp only at h
    split at h
    · cases h
    · cases padded with
      | true => cases h
      | false =>
        have hreads := reads_of_lastGroup hgroup
        exact ⟨ns, hreads, encodeChars_closeGroup (lt_of_reads hreads) h⟩

/-- A text that is read is the written form of what it says. -/
theorem eq_of_decode {text bs : List UInt8} (h : decode urlSafe text = .ok bs) :
    text = Text.Utf8.encode (encodeChars urlSafe bs) := by
  unfold decode at h
  split at h
  · split at h
    · cases h
    · obtain ⟨ns, hreads, hns⟩ := reads_of_decodeGroups h
      rw [hns, encode_symbols hreads]
  · rename_i hnone
    cases h
    exact List.getLast?_eq_none_iff.mp hnone

private theorem exists_symbol_of_mem {c : Char} {bs : List UInt8} (h : c ∈ encodeChars urlSafe bs) :
    ∃ n, c = urlSafe.symbol n := by
  fun_induction encodeChars urlSafe bs with
  | case1 => cases h
  | case2 a n =>
    simp only [Dialect.padding, urlSafe, List.mem_cons] at h
    rcases h with rfl | rfl | h
    · exact ⟨_, rfl⟩
    · exact ⟨_, rfl⟩
    · cases h
  | case3 a b n =>
    simp only [Dialect.padding, urlSafe, List.mem_cons] at h
    rcases h with rfl | rfl | rfl | h
    · exact ⟨_, rfl⟩
    · exact ⟨_, rfl⟩
    · exact ⟨_, rfl⟩
    · cases h
  | case4 a b c rest n ih =>
    simp only [List.mem_cons] at h
    rcases h with rfl | rfl | rfl | rfl | h
    · exact ⟨_, rfl⟩
    · exact ⟨_, rfl⟩
    · exact ⟨_, rfl⟩
    · exact ⟨_, rfl⟩
    · exact ih h

private theorem symbol_of_le {n : Nat} (h : 63 ≤ n) : urlSafe.symbol n = urlSafe.symbol 63 := by
  rw [Dialect.symbol, if_neg (by omega), if_neg (by omega), if_neg (by omega), if_neg (by omega)]
  rfl

theorem not_mem_encodeChars {c : Char} (h : ∀ n < 64, c ≠ urlSafe.symbol n) (bs : List UInt8) :
    c ∉ encodeChars urlSafe bs := by
  intro hmem
  obtain ⟨n, rfl⟩ := exists_symbol_of_mem hmem
  by_cases hn : n < 64
  · exact h n hn rfl
  · exact h 63 (by omega) (symbol_of_le (by omega))

def symbolByte (n : Nat) : UInt8 := UInt8.ofNat (urlSafe.symbol n).toNat

private theorem symbol_spec : ∀ n < 64,
    String.utf8EncodeChar (urlSafe.symbol n) = [symbolByte n] ∧ urlSafe.value? (symbolByte n) = some n := by
  decide +kernel

private theorem encode_map_symbol {ns : List Nat} (h : ∀ n ∈ ns, n < 64) :
    Text.Utf8.encode (ns.map urlSafe.symbol) = ns.map symbolByte := by
  rw [Text.Utf8.encode, List.flatMap_map, List.map_eq_flatMap]
  exact List.flatMap_congr fun n hn => (symbol_spec n (h n hn)).1

private theorem reads_symbols {ns : List Nat} (h : ∀ n ∈ ns, n < 64) : Reads (ns.map symbolByte) ns := by
  rw [Reads, List.forall₂_map_left_iff, List.forall₂_same]
  exact fun n hn => (symbol_spec n (h n hn)).2

private theorem valueAt_of_value? {offset n : Nat} {b : UInt8} (h : urlSafe.value? b = some n) :
    urlSafe.valueAt offset b = .ok n := by
  rw [Dialect.valueAt, h]

private theorem lastGroup_of_reads {offset place : Nat} {text : List UInt8} {ns : List Nat} (h : Reads text ns) :
    lastGroup urlSafe offset place none text = .ok (ns, false) := by
  induction h generalizing place with
  | nil => rfl
  | @cons b n text ns hb _ ih =>
    have hpad : b ≠ pad := by
      rintro rfl
      cases hb
    rw [lastGroup, if_neg hpad]
    dsimp only
    rw [valueAt_of_value? hb, ih]
    rfl

/-- The last group of a text is read by itself. -/
theorem decodeGroups_last {offset : Nat} {text : List UInt8} {ns : List Nat} (h : Reads text ns)
    (hlength : 2 ≤ ns.length ∧ ns.length ≤ 4) :
    decodeGroups urlSafe offset text = closeGroup urlSafe offset ns := by
  have hgroup : lastGroup urlSafe offset 0 none text = .ok (ns, false) := lastGroup_of_reads h
  have htext := h.length_eq
  rw [decodeGroups]
  · rw [hgroup]
    change (if ns.length < 2 then _ else _) = _
    rw [if_neg (by omega)]
    rfl
  · rintro rfl
    simp at htext
    omega
  · rintro a b c e next rest rfl
    simp at htext
    omega

private theorem decodeGroups_next {offset : Nat} {a b c e next : UInt8} {na nb nc ne : Nat} {rest bs : List UInt8}
    (h : Reads [a, b, c, e] [na, nb, nc, ne]) (hrest : decodeGroups urlSafe (offset + 4) (next :: rest) = .ok bs) :
    decodeGroups urlSafe offset (a :: b :: c :: e :: next :: rest) = .ok (UInt8.ofNat (na * 4 + nb / 16) ::
      UInt8.ofNat (nb % 16 * 16 + nc / 4) :: UInt8.ofNat (nc % 4 * 64 + ne) :: bs) := by
  obtain _ | ⟨ha, _ | ⟨hb, _ | ⟨hc, _ | ⟨he, _⟩⟩⟩⟩ := h
  rw [decodeGroups, valueAt_of_value? ha, valueAt_of_value? hb, valueAt_of_value? hc, valueAt_of_value? he, hrest]
  rfl

private theorem decodeGroups_encodeChars (offset : Nat) (bs : List UInt8) :
    decodeGroups urlSafe offset (Text.Utf8.encode (encodeChars urlSafe bs)) = .ok bs := by
  fun_induction encodeChars urlSafe bs generalizing offset with
  | case1 => rfl
  | case2 a n =>
    have ha := a.toNat_lt
    have hns : ∀ m ∈ [n / 64, n % 64], m < 64 := by
      simp
      omega
    change decodeGroups urlSafe offset (Text.Utf8.encode ([n / 64, n % 64].map urlSafe.symbol)) = _
    rw [encode_map_symbol hns, decodeGroups_last (reads_symbols hns) (by simp), closeGroup, if_pos (by omega)]
    have hbyte : n / 64 * 4 + n % 64 / 16 = a.toNat := by omega
    rw [hbyte, UInt8.ofNat_toNat]
  | case3 a b n =>
    have ha := a.toNat_lt
    have hb := b.toNat_lt
    have hns : ∀ m ∈ [n / 4096, n / 64 % 64, n % 64], m < 64 := by
      simp
      omega
    change decodeGroups urlSafe offset (Text.Utf8.encode ([n / 4096, n / 64 % 64, n % 64].map urlSafe.symbol)) = _
    rw [encode_map_symbol hns, decodeGroups_last (reads_symbols hns) (by simp), closeGroup, if_pos (by omega)]
    have hfirst : n / 4096 * 4 + n / 64 % 64 / 16 = a.toNat := by omega
    have hsecond : n / 64 % 64 % 16 * 16 + n % 64 / 4 = b.toNat := by omega
    rw [hfirst, hsecond, UInt8.ofNat_toNat, UInt8.ofNat_toNat]
  | case4 a b c rest n ih =>
    have ha := a.toNat_lt
    have hb := b.toNat_lt
    have hc := c.toNat_lt
    have hns : ∀ m ∈ [n / 262144, n / 4096 % 64, n / 64 % 64, n % 64], m < 64 := by
      simp
      omega
    have hfirst : UInt8.ofNat (n / 262144 * 4 + n / 4096 % 64 / 16) = a := by
      rw [show n / 262144 * 4 + n / 4096 % 64 / 16 = a.toNat by omega, UInt8.ofNat_toNat]
    have hsecond : UInt8.ofNat (n / 4096 % 64 % 16 * 16 + n / 64 % 64 / 4) = b := by
      rw [show n / 4096 % 64 % 16 * 16 + n / 64 % 64 / 4 = b.toNat by omega, UInt8.ofNat_toNat]
    have hthird : UInt8.ofNat (n / 64 % 64 % 4 * 64 + n % 64) = c := by
      rw [show n / 64 % 64 % 4 * 64 + n % 64 = c.toNat by omega, UInt8.ofNat_toNat]
    have hreads := reads_symbols hns
    have hwhole : Text.Utf8.encode (urlSafe.symbol (n / 262144) :: urlSafe.symbol (n / 4096 % 64) ::
        urlSafe.symbol (n / 64 % 64) :: urlSafe.symbol (n % 64) :: encodeChars urlSafe rest) =
        [n / 262144, n / 4096 % 64, n / 64 % 64, n % 64].map symbolByte ++
          Text.Utf8.encode (encodeChars urlSafe rest) := by
      rw [← encode_map_symbol hns]
      simp [Text.Utf8.encode]
    rw [hwhole]
    -- A group that ends the text is read with its checks, so whether anything follows decides how this one is read.
    cases hmore : Text.Utf8.encode (encodeChars urlSafe rest) with
    | nil =>
      have hrest := ih offset
      rw [hmore] at hrest
      cases hrest
      rw [List.append_nil, decodeGroups_last hreads (by simp), closeGroup, hfirst, hsecond, hthird]
    | cons next more =>
      have hrest := ih (offset + 4)
      rw [hmore] at hrest
      have hgroup := decodeGroups_next hreads hrest
      rw [hfirst, hsecond, hthird] at hgroup
      exact hgroup

private theorem value?_ne_none {b : UInt8} {bs : List UInt8} (h : b ∈ Text.Utf8.encode (encodeChars urlSafe bs)) :
    urlSafe.value? b ≠ none := by
  obtain ⟨c, hc, hb⟩ := List.mem_flatMap.mp h
  obtain ⟨n, rfl⟩ := exists_symbol_of_mem hc
  obtain ⟨m, hm, hsymbol⟩ : ∃ m < 64, urlSafe.symbol n = urlSafe.symbol m := by
    by_cases hn : n < 64
    · exact ⟨n, hn, rfl⟩
    · exact ⟨63, by decide, symbol_of_le (by omega)⟩
  rw [hsymbol, (symbol_spec m hm).1, List.mem_singleton] at hb
  rw [hb, (symbol_spec m hm).2]
  exact Option.some_ne_none m

theorem decode_encodeChars (bs : List UInt8) :
    decode urlSafe (Text.Utf8.encode (encodeChars urlSafe bs)) = .ok bs := by
  have hgroups := decodeGroups_encodeChars 0 bs
  unfold decode
  split
  · rename_i b hlast
    have hvalue := value?_ne_none (List.mem_of_getLast? hlast)
    rw [if_neg fun h => hvalue h.2.2]
    exact hgroups
  · rename_i hlast
    rw [List.getLast?_eq_none_iff.mp hlast] at hgroups
    exact hgroups

/-- Two bytes behind any number of groups are written with two bits left over, which are zero. -/
theorem exists_bytes_iff {m : Nat} {cs : List Char} :
    (∃ bs, bs.length = 3 * m + 2 ∧ encodeChars urlSafe bs = cs) ↔
      ∃ ns : List Nat, ns.length = 4 * m + 3 ∧ (∀ n ∈ ns, n < 64) ∧ (∀ n ∈ ns.getLast?, n % 4 = 0) ∧
        ns.map urlSafe.symbol = cs := by
  induction m generalizing cs with
  | zero =>
    constructor
    · rintro ⟨bs, hlength, rfl⟩
      obtain ⟨a, b, rfl⟩ := List.length_eq_two.mp hlength
      have ha := a.toNat_lt
      have hb := b.toNat_lt
      have hlast : (a.toNat * 256 + b.toNat) * 4 % 64 % 4 = 0 := by omega
      refine ⟨[(a.toNat * 256 + b.toNat) * 4 / 4096, (a.toNat * 256 + b.toNat) * 4 / 64 % 64,
        (a.toNat * 256 + b.toNat) * 4 % 64], rfl, ?_, ?_, rfl⟩
      · simp only [List.mem_cons, List.not_mem_nil, or_false, forall_eq_or_imp, forall_eq]
        omega
      · simp only [List.getLast?_cons_cons, List.getLast?_singleton, Option.mem_some_iff, forall_eq']
        exact hlast
    · rintro ⟨ns, hlength, hlt, hlast, rfl⟩
      obtain ⟨a, b, c, rfl⟩ := List.length_eq_three.mp hlength
      have hleft : c % 4 = 0 := hlast c rfl
      have hclose : closeGroup urlSafe 0 [a, b, c] =
          .ok [UInt8.ofNat (a * 4 + b / 16), UInt8.ofNat (b % 16 * 16 + c / 4)] := if_pos hleft
      exact ⟨_, rfl, encodeChars_closeGroup hlt hclose⟩
  | succ m ih =>
    constructor
    · rintro ⟨bs, hlength, rfl⟩
      match bs, hlength with
      | a :: b :: c :: bs, hlength =>
        have ha := a.toNat_lt
        have hb := b.toNat_lt
        have hc := c.toNat_lt
        have hrest : bs.length = 3 * m + 2 := by
          simp only [List.length_cons] at hlength
          omega
        obtain ⟨ns, hns, hlt, hlast, hmap⟩ := ih.mp ⟨bs, hrest, rfl⟩
        have hne : ns ≠ [] := by
          rintro rfl
          simp at hns
        generalize hn : (a.toNat * 256 + b.toNat) * 256 + c.toNat = n
        refine ⟨n / 262144 :: n / 4096 % 64 :: n / 64 % 64 :: n % 64 :: ns, ?_, ?_, ?_, ?_⟩
        · simp only [List.length_cons]
          omega
        · simp only [List.mem_cons, forall_eq_or_imp]
          exact ⟨by omega, by omega, by omega, by omega, hlt⟩
        · simpa [List.getLast?_cons_cons, List.getLast?_cons_of_ne_nil hne] using hlast
        · rw [encodeChars, hn, ← hmap]
          rfl
    · rintro ⟨ns, hlength, hlt, hlast, rfl⟩
      match ns, hlength with
      | a :: b :: c :: e :: ns, hlength =>
        have hrest : ns.length = 4 * m + 3 := by
          simp only [List.length_cons] at hlength
          omega
        have hne : ns ≠ [] := by
          rintro rfl
          simp at hrest
        simp only [List.mem_cons, forall_eq_or_imp] at hlt
        obtain ⟨ha, hb, hc, he, hlt⟩ := hlt
        have hlast' : ∀ n ∈ ns.getLast?, n % 4 = 0 := by
          simpa [List.getLast?_cons_cons, List.getLast?_cons_of_ne_nil hne] using hlast
        obtain ⟨bs, hbs, hmap⟩ := ih.mpr ⟨ns, hrest, hlt, hlast', rfl⟩
        have hgroup := encodeChars_group ha hb hc he bs
        rw [hmap] at hgroup
        refine ⟨_, ?_, hgroup⟩
        simp only [List.length_cons]
        omega

end Encoding.Base64

end AccountSync
