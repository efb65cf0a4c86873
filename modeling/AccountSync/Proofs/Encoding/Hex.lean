import AccountSync.Key32
import AccountSync.Text.LetterCase

/-!
Hexadecimal digits, and the keys that are written in them. Main statements: `Key32.exists_ofHex?_iff`, that exactly the
texts of 64 digits of either case are keys, and `Key32.ofHex?_eq_some_iff`, that such a text is the key that is written
like it but for the case of its letters.
-/

set_option autoImplicit false
set_option relaxedAutoImplicit false

namespace AccountSync

namespace Encoding.Hex

def IsDigit (c : Char) : Prop := ('0' ≤ c ∧ c ≤ '9') ∨ ('a' ≤ c ∧ c ≤ 'f') ∨ ('A' ≤ c ∧ c ≤ 'F')

instance (c : Char) : Decidable (IsDigit c) := inferInstanceAs (Decidable (_ ∨ _))

private theorem exists_value? {c : Char} (h : IsDigit c) : ∃ n, value? c = some n := by
  unfold value?
  by_cases hdecimal : '0' ≤ c ∧ c ≤ '9'
  · exact ⟨_, if_pos hdecimal⟩
  · rw [if_neg hdecimal]
    by_cases hsmall : 'a' ≤ c ∧ c ≤ 'f'
    · exact ⟨_, if_pos hsmall⟩
    · rw [if_neg hsmall]
      exact ⟨_, if_pos ((h.resolve_left hdecimal).resolve_left hsmall)⟩

private theorem exists_decodeChars? {n : Nat} {cs : List Char} (hlength : cs.length = 2 * n)
    (hdigits : ∀ c ∈ cs, IsDigit c) : ∃ bs, decodeChars? cs = some bs ∧ bs.length = n := by
  induction n generalizing cs with
  | zero =>
    obtain rfl := List.eq_nil_of_length_eq_zero hlength
    exact ⟨[], rfl, rfl⟩
  | succ n ih =>
    match cs, hlength with
    | a :: b :: rest, hlength =>
      obtain ⟨high, ha⟩ := exists_value? (hdigits a List.mem_cons_self)
      obtain ⟨low, hb⟩ := exists_value? (hdigits b (List.mem_cons_of_mem _ List.mem_cons_self))
      have hrest : rest.length = 2 * n := by
        simp only [List.length_cons] at hlength
        omega
      obtain ⟨bs, hbs, hlen⟩ :=
        ih hrest fun c hc => hdigits c (List.mem_cons_of_mem _ (List.mem_cons_of_mem _ hc))
      refine ⟨UInt8.ofNat (16 * high + low) :: bs, ?_, congrArg Nat.succ hlen⟩
      simp [decodeChars?, ha, hb, hbs]

variable {c : Char} {n : Nat}

private theorem value?_of_le (h : 128 ≤ c.toNat) : value? c = none ∧ ∀ n < 16, c.toLower ≠ digit n := by
  have hbelow : ∀ d : Char, d.toNat < 128 → ¬ c ≤ d := by
    intro d hd hle
    have hnat : c.toNat ≤ d.toNat := hle
    omega
  refine ⟨?_, ?_⟩
  · unfold value?
    rw [if_neg fun h => hbelow '9' (by decide) h.2, if_neg fun h => hbelow 'f' (by decide) h.2,
      if_neg fun h => hbelow 'F' (by decide) h.2]
  · intro n hn heq
    have hdigits : ∀ n < 16, (digit n).toNat < 128 := by decide
    have hlow : c.toLower = c := dif_neg fun h => hbelow 'Z' (by decide) h.2
    have hdigit := hdigits n hn
    rw [← heq, hlow] at hdigit
    omega

private theorem value?_eq_some_iff : value? c = some n ↔ n < 16 ∧ c.toLower = digit n := by
  by_cases hc : c.toNat < 128
  · have hall : ∀ m < 128, ∀ n < 16, value? (Char.ofNat m) = some n ↔ (Char.ofNat m).toLower = digit n := by
      decide +kernel
    have hlt : ∀ m < 128, ∀ n ∈ value? (Char.ofNat m), n < 16 := by decide +kernel
    have h := hall c.toNat hc
    have h' := hlt c.toNat hc
    rw [Char.ofNat_toNat] at h h'
    constructor
    · intro hv
      have hn := h' n hv
      exact ⟨hn, (h n hn).mp hv⟩
    · rintro ⟨hn, hd⟩
      exact (h n hn).mpr hd
  · obtain ⟨hnone, hne⟩ := value?_of_le (Nat.le_of_not_lt hc)
    rw [hnone]
    exact iff_of_false nofun fun h => hne n h.1 h.2

private theorem ofNat_halves_iff {high low : Nat} {b : UInt8} (hhigh : high < 16) (hlow : low < 16) :
    UInt8.ofNat (16 * high + low) = b ↔ high = b.toNat / 16 ∧ low = b.toNat % 16 := by
  rw [← UInt8.toNat_inj, UInt8.toNat_ofNat']
  omega

/-- Reading is what undoes writing, but for the case of the letters. -/
theorem decodeChars?_eq_some_iff {cs : List Char} {bs : List UInt8} :
    decodeChars? cs = some bs ↔ cs.map Char.toLower = bs.flatMap pair := by
  fun_induction decodeChars? cs generalizing bs with
  | case1 => cases bs <;> simp [pair]
  | case2 c =>
    cases bs with
    | nil => simp
    | cons b bs => simp [pair]
  | case3 a b rest ih =>
    cases bs with
    | nil => simp [Option.bind_eq_some_iff]
    | cons x bs =>
      have hwritten : (a :: b :: rest).map Char.toLower = (x :: bs).flatMap pair ↔
          a.toLower = digit (x.toNat / 16) ∧ b.toLower = digit (x.toNat % 16) ∧
            rest.map Char.toLower = bs.flatMap pair := by
        simp [pair]
      rw [hwritten, ← ih]
      simp only [Option.bind_eq_bind, Option.bind_eq_some_iff, Option.pure_def, Option.some.injEq, List.cons.injEq]
      have hx := x.toNat_lt
      constructor
      · rintro ⟨high, hhigh, low, hlow, bs', hrest, hbyte, rfl⟩
        obtain ⟨hhigh, ha⟩ := value?_eq_some_iff.mp hhigh
        obtain ⟨hlow, hb⟩ := value?_eq_some_iff.mp hlow
        obtain ⟨rfl, rfl⟩ := (ofNat_halves_iff hhigh hlow).mp hbyte
        exact ⟨ha, hb, hrest⟩
      · rintro ⟨ha, hb, hrest⟩
        have hhigh : x.toNat / 16 < 16 := by omega
        have hlow : x.toNat % 16 < 16 := Nat.mod_lt _ (by decide)
        exact ⟨_, value?_eq_some_iff.mpr ⟨hhigh, ha⟩, _, value?_eq_some_iff.mpr ⟨hlow, hb⟩, bs, hrest,
          (ofNat_halves_iff hhigh hlow).mpr ⟨rfl, rfl⟩, rfl⟩

private theorem isDigit_of_value? (h : value? c = some n) : IsDigit c := by
  unfold value? at h
  split at h
  · exact .inl ‹_›
  · split at h
    · exact .inr (.inl ‹_›)
    · split at h
      · exact .inr (.inr ‹_›)
      · cases h

private theorem length_flatMap_pair (bs : List UInt8) : (bs.flatMap pair).length = 2 * bs.length := by
  induction bs with
  | nil => rfl
  | cons b bs ih =>
    rw [List.flatMap_cons, List.length_append, ih, List.length_cons]
    simp only [pair, List.length_cons, List.length_nil]
    omega

private theorem exists_digit_of_mem {bs : List UInt8} (h : c ∈ bs.flatMap pair) : ∃ n < 16, c = digit n := by
  obtain ⟨b, -, hc⟩ := List.mem_flatMap.mp h
  have hb := b.toNat_lt
  simp only [pair, List.mem_cons, List.not_mem_nil, or_false] at hc
  rcases hc with hc | hc
  · exact ⟨_, by omega, hc⟩
  · exact ⟨_, Nat.mod_lt _ (by decide), hc⟩

end Encoding.Hex

/-- A text that writes a key: 64 hexadecimal digits, each of them in either case. -/
structure Key32.Written (text : String) : Prop where
  length : text.toList.length = 64
  digits : ∀ c ∈ text.toList, Encoding.Hex.IsDigit c

theorem Key32.Written.exists_key {text : String} (h : Key32.Written text) : ∃ k, Key32.ofHex? text = some k := by
  obtain ⟨bs, hbs, hlength⟩ := Encoding.Hex.exists_decodeChars? (n := 32) h.length h.digits
  refine ⟨⟨bs, hlength⟩, ?_⟩
  rw [Key32.ofHex?, Encoding.Hex.decode?, hbs, Option.bind_some, Key32.ofBytes?, dif_pos hlength]

namespace Key32

variable {text : String} {k : Key32}

theorem ofHex?_eq_some_iff : ofHex? text = some k ↔ Text.LetterCase.lowerAscii text = k.hex := by
  have hbytes : ∀ bs, ofBytes? bs = some k ↔ bs = k.bytes := by
    intro bs
    unfold ofBytes?
    constructor
    · intro h
      split at h
      · cases h
        rfl
      · cases h
    · rintro rfl
      exact ofBytes?_bytes k
  rw [ofHex?, Option.bind_eq_some_iff, Text.LetterCase.lowerAscii, hex, Encoding.Hex.encode, String.ofList_inj,
    ← Encoding.Hex.decodeChars?_eq_some_iff]
  constructor
  · rintro ⟨bs, hbs, hk⟩
    rw [← (hbytes bs).mp hk]
    exact hbs
  · intro h
    exact ⟨k.bytes, h, (hbytes _).mpr rfl⟩

theorem exists_ofHex?_iff : (∃ k, ofHex? text = some k) ↔ Written text := by
  refine ⟨?_, Written.exists_key⟩
  rintro ⟨k, hk⟩
  have hchars : text.toList.map Char.toLower = k.bytes.flatMap Encoding.Hex.pair :=
    String.ofList_inj.mp (ofHex?_eq_some_iff.mp hk)
  constructor
  · have hlength := congrArg List.length hchars
    rwa [List.length_map, Encoding.Hex.length_flatMap_pair, k.length_eq] at hlength
  · intro c hc
    have hlower : c.toLower ∈ k.bytes.flatMap Encoding.Hex.pair := hchars ▸ List.mem_map_of_mem hc
    obtain ⟨n, hn, hdigit⟩ := Encoding.Hex.exists_digit_of_mem hlower
    exact Encoding.Hex.isDigit_of_value? (Encoding.Hex.value?_eq_some_iff.mpr ⟨hn, hdigit⟩)

private theorem eq_of_bytes {a b : Key32} (h : a.bytes = b.bytes) : a = b := by
  cases a
  cases b
  cases h
  rfl

theorem xor_xor (a b : Key32) : (a.xor b).xor b = a := by
  refine eq_of_bytes (List.ext_getElem ?_ fun i _ _ => ?_)
  · rw [length_eq, length_eq]
  · simp only [xor, List.getElem_zipWith, UInt8.xor_assoc, UInt8.xor_self, UInt8.xor_zero]

end Key32

end AccountSync
