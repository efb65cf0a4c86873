import AccountSync.Proofs.Identity.Issuance

/-!
Which descriptors say a key. `KeyText` says of a text alone, without any bytes, that it is the text of a key
(`exists_key_iff`). Main statement: `descriptor_read_exactly`, that a descriptor is read as a key if it names the
algorithm and gives the one text of that key, and not otherwise, and that a certificate is issued for the same
descriptors.
-/

set_option autoImplicit false
set_option relaxedAutoImplicit false

namespace AccountSync

open Encoding.Base64 (encode encodeChars urlSafe)

def keyAlphabet : List Char := "ABCDEFGHIJKLMNOPQRSTUVWXYZabcdefghijklmnopqrstuvwxyz0123456789-_".toList

/-- The characters that a key may end in: those that leave no bits over. -/
def keyEndings : List Char := "AEIMQUYcgkosw048".toList

/-- The text of a key, told by its characters. -/
structure KeyText (text : String) : Prop where
  length : text.toList.length = 43
  alphabet : ∀ c ∈ text.toList, c ∈ keyAlphabet
  ending : ∀ c ∈ text.toList.getLast?, c ∈ keyEndings

private theorem mem_keyAlphabet_iff {c : Char} : c ∈ keyAlphabet ↔ ∃ n < 64, urlSafe.symbol n = c := by
  have hsymbols : keyAlphabet = (List.range 64).map urlSafe.symbol := by decide
  rw [hsymbols]
  simp only [List.mem_map, List.mem_range]

private theorem symbol_mem_keyEndings : ∀ n < 64, urlSafe.symbol n ∈ keyEndings ↔ n % 4 = 0 := by
  decide

private theorem exists_values {cs : List Char} (h : ∀ c ∈ cs, c ∈ keyAlphabet) :
    ∃ ns : List Nat, (∀ n ∈ ns, n < 64) ∧ ns.map urlSafe.symbol = cs := by
  induction cs with
  | nil => exact ⟨[], nofun, rfl⟩
  | cons c cs ih =>
    obtain ⟨hc, hrest⟩ := List.forall_mem_cons.mp h
    obtain ⟨ns, hns, hmap⟩ := ih hrest
    obtain ⟨n, hn, hsymbol⟩ := mem_keyAlphabet_iff.mp hc
    refine ⟨n :: ns, List.forall_mem_cons.mpr ⟨hn, hns⟩, ?_⟩
    rw [List.map_cons, hsymbol, hmap]

theorem exists_key_iff {text : String} : (∃ key : Key32, text = encode urlSafe key.bytes) ↔ KeyText text := by
  constructor
  · rintro ⟨key, rfl⟩
    obtain ⟨ns, hlength, hlt, hlast, hmap⟩ :=
      (Encoding.Base64.exists_bytes_iff (m := 10)).mp ⟨key.bytes, key.length_eq, rfl⟩
    have htext : (encode urlSafe key.bytes).toList = ns.map urlSafe.symbol := by
      rw [encode, String.toList_ofList, hmap]
    refine ⟨?_, ?_, ?_⟩
    · rw [htext, List.length_map, hlength]
    · intro c hc
      rw [htext] at hc
      obtain ⟨n, hn, rfl⟩ := List.mem_map.mp hc
      exact mem_keyAlphabet_iff.mpr ⟨n, hlt n hn, rfl⟩
    · intro c hc
      rw [htext, List.getLast?_map] at hc
      obtain ⟨n, hn, rfl⟩ := Option.map_eq_some_iff.mp hc
      exact (symbol_mem_keyEndings n (hlt n (List.mem_of_getLast? hn))).mpr (hlast n hn)
  · intro h
    obtain ⟨ns, hlt, hmap⟩ := exists_values h.alphabet
    have hlength : ns.length = 4 * 10 + 3 := by
      rw [← List.length_map urlSafe.symbol, hmap, h.length]
    have hlast : ∀ n ∈ ns.getLast?, n % 4 = 0 := by
      intro n hn
      have hending := h.ending (urlSafe.symbol n)
      rw [← hmap, List.getLast?_map, hn] at hending
      exact (symbol_mem_keyEndings n (hlt n (List.mem_of_getLast? hn))).mp (hending rfl)
    obtain ⟨bs, hbs, htext⟩ := Encoding.Base64.exists_bytes_iff.mpr ⟨ns, hlength, hlt, hlast, hmap⟩
    refine ⟨⟨bs, hbs⟩, ?_⟩
    rw [encode, htext, String.ofList_toList]

private theorem publicKeyOfDescriptor_eq_ok_iff {v : Json} {key : Key32} :
    publicKeyOfDescriptor v = .ok key ↔ Describes v key :=
  ⟨describes_of_publicKeyOfDescriptor, publicKeyOfDescriptor_of_describes⟩

private theorem exists_members_of_member? {v j : Json} {name : String} (h : v.member? name = some j) :
    ∃ members, v = .object members := by
  cases v with
  | object members => exact ⟨members, rfl⟩
  | null => cases h
  | bool b => cases h
  | number n => cases h
  | string s => cases h
  | array js => cases h

private theorem issueCertificate_cases (pair : KeyPair) (issuer principal : String) (v : Json) (issuedAt : Instant)
    (duration : Nat) : ∃ certificate, issueCertificate pair issuer principal v issuedAt duration =
      (publicKeyOfDescriptor v).map fun _ => certificate := by
  unfold issueCertificate
  cases publicKeyOfDescriptor v with
  | error e => exact ⟨"", rfl⟩
  | ok key => exact ⟨_, rfl⟩

/-- A document is read as a key exactly if it is an object that names the algorithm and gives the text of that key
without padding in the URL-safe alphabet. So it is read as some key exactly if that text has 43 characters, all of this
alphabet and the last of them one that leaves no bits over, and no two texts are read as one key. What others are shown
of a key pair is read as its public key, and a certificate is issued for the descriptors that are read as a key and for
no others, which are refused for the same fault. -/
theorem descriptor_read_exactly :
    (∀ v key, publicKeyOfDescriptor v = .ok key ↔ ∃ members, v = .object members ∧
      v.member? "algorithm" = some (.string "EdDSA") ∧
      v.member? "publicKey" = some (.string (encode urlSafe key.bytes))) ∧
    (∀ v, (∃ key, publicKeyOfDescriptor v = .ok key) ↔ ∃ members text, v = .object members ∧
      v.member? "algorithm" = some (.string "EdDSA") ∧ v.member? "publicKey" = some (.string text) ∧ KeyText text) ∧
    (∀ v w key, publicKeyOfDescriptor v = .ok key → publicKeyOfDescriptor w = .ok key →
      v.member? "publicKey" = w.member? "publicKey") ∧
    (∀ pair : KeyPair, publicKeyOfDescriptor pair.descriptor = .ok pair.publicKey) ∧
    ∀ pair issuer principal v issuedAt duration,
      ((∃ certificate, issueCertificate pair issuer principal v issuedAt duration = .ok certificate) ↔
        ∃ key, publicKeyOfDescriptor v = .ok key) ∧
      ∀ e, issueCertificate pair issuer principal v issuedAt duration = .error e ↔
        publicKeyOfDescriptor v = .error e := by
  have hexact : ∀ v key, publicKeyOfDescriptor v = .ok key ↔ ∃ members, v = .object members ∧
      v.member? "algorithm" = some (.string "EdDSA") ∧
      v.member? "publicKey" = some (.string (encode urlSafe key.bytes)) := by
    intro v key
    rw [publicKeyOfDescriptor_eq_ok_iff]
    constructor
    · intro h
      obtain ⟨members, hv⟩ := exists_members_of_member? h.algorithm
      exact ⟨members, hv, h.algorithm, h.publicKey⟩
    · rintro ⟨members, -, halgorithm, hkey⟩
      exact ⟨halgorithm, hkey⟩
  refine ⟨hexact, ?_, ?_, ?_, ?_⟩
  · intro v
    constructor
    · rintro ⟨key, hread⟩
      obtain ⟨members, hv, halgorithm, hkey⟩ := (hexact v key).mp hread
      exact ⟨members, _, hv, halgorithm, hkey, exists_key_iff.mp ⟨key, rfl⟩⟩
    · rintro ⟨members, text, hv, halgorithm, hkey, htext⟩
      obtain ⟨key, rfl⟩ := exists_key_iff.mpr htext
      exact ⟨key, (hexact v key).mpr ⟨members, hv, halgorithm, hkey⟩⟩
  · intro v w key hv hw
    rw [(publicKeyOfDescriptor_eq_ok_iff.mp hv).publicKey, (publicKeyOfDescriptor_eq_ok_iff.mp hw).publicKey]
  · intro pair
    exact publicKeyOfDescriptor_of_describes pair.describes_descriptor
  · intro pair issuer principal v issuedAt duration
    obtain ⟨certificate, hissued⟩ := issueCertificate_cases pair issuer principal v issuedAt duration
    rw [hissued]
    cases publicKeyOfDescriptor v with
    | error e =>
      refine ⟨iff_of_false (by rintro ⟨_, h⟩; cases h) (by rintro ⟨_, h⟩; cases h), ?_⟩
      intro e'
      simp [Except.map]
    | ok key =>
      refine ⟨iff_of_true ⟨certificate, rfl⟩ ⟨key, rfl⟩, ?_⟩
      intro e'
      simp [Except.map]

def zeroDescriptor : Json :=
  .object [("publicKey", .string (String.ofList (List.replicate 43 'A'))), ("use", .null), ("algorithm", .string "EdDSA")]

/-- It says the key that is zero throughout, as do all that give this text; with bits left over it would say none. -/
theorem descriptor_read_exactly_zero : publicKeyOfDescriptor zeroDescriptor = .ok .zero ∧
    (∀ w, publicKeyOfDescriptor w = .ok .zero → w.member? "publicKey" =
      some (.string (String.ofList (List.replicate 43 'A')))) ∧
    (∃ certificate, issueCertificate default "i" "p" zeroDescriptor 0 0 = .ok certificate) ∧
    ∀ key, publicKeyOfDescriptor (.object [("algorithm", .string "EdDSA"),
      ("publicKey", .string (String.ofList (List.replicate 42 'A' ++ ['B'])))]) ≠ .ok key := by
  obtain ⟨hexact, hsome, hone, -, hissue⟩ := descriptor_read_exactly
  have htext : encode urlSafe Key32.zero.bytes = String.ofList (List.replicate 43 'A') := by decide
  have hread : publicKeyOfDescriptor zeroDescriptor = .ok .zero := by
    refine (hexact _ _).mpr ⟨_, rfl, by simp [zeroDescriptor, Json.member?], ?_⟩
    rw [htext]
    simp [zeroDescriptor, Json.member?]
  refine ⟨hread, ?_, (hissue _ _ _ _ _ _).1.mpr ⟨_, hread⟩, ?_⟩
  · intro w hw
    rw [hone w zeroDescriptor .zero hw hread]
    simp [zeroDescriptor, Json.member?]
  · intro key hkey
    obtain ⟨_, text, -, -, hmember, hkeyText⟩ := (hsome _).mp ⟨key, hkey⟩
    have htold : text = String.ofList (List.replicate 42 'A' ++ ['B']) := by
      simpa [Json.member?] using hmember.symm
    have hending := hkeyText.ending 'B'
    rw [htold, String.toList_ofList] at hending
    exact absurd (hending (by simp)) (by decide)

end AccountSync
