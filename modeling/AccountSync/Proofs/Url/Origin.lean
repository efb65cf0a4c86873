import AccountSync.Proofs.Encoding.Base64
import AccountSync.Url.Parser

/-!
What is known of the host of a URL that could be read. Main statement: `authority_of_parse`, that a URL of one of the
web's own schemes has a host, which is not empty; by `origin_of_web` its origin is then the scheme, this host and a port
that is not the scheme's own.
-/

set_option autoImplicit false
set_option relaxedAutoImplicit false

namespace AccountSync

theorem unless_eq_ok_iff {ε α : Type} {p : Prop} [Decidable p] {e : ε} {k : Unit → Except ε α} {a : α} :
    (if p then (throw e : Except ε Unit) >>= k else k ()) = .ok a ↔ ¬p ∧ k () = .ok a := by
  by_cases hp : p
  · rw [if_pos hp]
    exact iff_of_false nofun fun h => h.1 hp
  · rw [if_neg hp]
    exact (and_iff_right hp).symm

namespace Url

private theorem Ipv6.text_ne_empty (ps : List Nat) : Ipv6.text ps ≠ "" := by
  intro h
  unfold Ipv6.text at h
  split at h <;> simp at h

private theorem Ipv4.text_ne_empty (n : Nat) : Ipv4.text n ≠ "" := by
  intro h
  simp [Ipv4.text] at h

private theorem ne_empty_of_specialHost {cs : List Char} {host : String} (h : specialHost cs = .ok host) :
    host ≠ "" := by
  unfold specialHost at h
  split at h
  · split at h
    · split at h
      · obtain rfl := Except.ok.inj h
        exact Ipv6.text_ne_empty _
      · cases h
    · cases h
  · split at h
    · cases h
    · cases h
    · rename_i name hname _
      split at h
      · split at h
        · obtain rfl := Except.ok.inj h
          exact Ipv4.text_ne_empty _
        · cases h
      · obtain rfl := Except.ok.inj h
        simpa using hname

private theorem takeAuthority_host {scheme : String} {cs rest : List Char} {a : Authority}
    (hs : isSpecial scheme = true) (h : takeAuthority scheme cs = .ok (a, rest)) : a.host ≠ "" := by
  unfold takeAuthority at h
  obtain ⟨⟨username, password, cs⟩, -, h⟩ := bind_eq_ok_iff.mp h
  obtain ⟨-, h⟩ := unless_eq_ok_iff.mp h
  rw [if_pos hs] at h
  obtain ⟨host, hhost, h⟩ := bind_eq_ok_iff.mp h
  have hne := ne_empty_of_specialHost hhost
  have hempty : host.isEmpty = false := by simpa using hne
  simp only [hempty, Bool.false_eq_true, false_and, if_false] at h
  split at h
  · obtain ⟨p, -, h⟩ := bind_eq_ok_iff.mp h
    obtain ⟨rfl, -⟩ := Prod.mk.inj (Except.ok.inj h)
    exact hne
  · obtain ⟨rfl, -⟩ := Prod.mk.inj (Except.ok.inj h)
    exact hne

private theorem scheme_of_parseFile {cs : List Char} {u : Url} (h : parseFile cs = .ok u) : u.scheme = "file" := by
  unfold parseFile at h
  split at h
  · split at h
    · dsimp only at h
      split at h
      · exact congrArg scheme (Except.ok.inj h).symm
      · split at h
        · exact congrArg scheme (Except.ok.inj h).symm
        · obtain ⟨host, -, h⟩ := bind_eq_ok_iff.mp h
          obtain rfl := Except.ok.inj h
          rw [apply_ite scheme]
          exact ite_self "file"
    · exact congrArg scheme (Except.ok.inj h).symm
  · exact congrArg scheme (Except.ok.inj h).symm

/-- The schemes whose URLs always name a host and have an origin of their own. -/
def webSchemes : List String := ["http", "https", "ws", "wss", "ftp"]

private theorem mem_webSchemes_iff {scheme : String} :
    scheme ∈ webSchemes ↔ isSpecial scheme = true ∧ scheme ≠ "file" := by
  constructor
  · intro h
    simp only [webSchemes, List.mem_cons, List.not_mem_nil, or_false] at h
    obtain rfl | rfl | rfl | rfl | rfl := h <;> decide
  · rintro ⟨hspecial, hfile⟩
    simp only [isSpecial, hfile, decide_false, Bool.or_false, defaultPort?] at hspecial
    simp only [webSchemes, List.mem_cons, List.not_mem_nil, or_false]
    split_ifs at hspecial <;> simp_all <;> tauto

theorem authority_of_parse {text : String} {u : Url} (h : parse text = .ok u) (hweb : u.scheme ∈ webSchemes) :
    ∃ a, u.authority = some a ∧ a.host ≠ "" := by
  obtain ⟨hspecial, hfile⟩ := mem_webSchemes_iff.mp hweb
  unfold parse at h
  split at h
  · cases h
  · rename_i scheme rest _
    split at h
    · exact absurd (scheme_of_parseFile h) hfile
    · split at h
      · rename_i hs
        obtain ⟨⟨a, rest⟩, ha, h⟩ := bind_eq_ok_iff.mp h
        obtain rfl := Except.ok.inj h
        exact ⟨a, rfl, takeAuthority_host hs ha⟩
      · -- the other schemes are kept as they are read, so that `u` would not be one of the web's
        rename_i hs
        split at h
        · obtain ⟨⟨a, rest⟩, -, h⟩ := bind_eq_ok_iff.mp h
          obtain rfl := Except.ok.inj h
          exact absurd hspecial hs
        · obtain rfl := Except.ok.inj h
          exact absurd hspecial hs
        · obtain rfl := Except.ok.inj h
          exact absurd hspecial hs

theorem host?_of_authority {u : Url} {a : Authority} (h : u.authority = some a) (hne : a.host ≠ "") :
    u.host? = some a.host := by
  simp [host?, h, hne]

theorem host?_ne_empty {u : Url} {host : String} (h : u.host? = some host) : host ≠ "" := by
  unfold host? at h
  obtain ⟨a, -, ha⟩ := Option.bind_eq_some_iff.mp h
  split at ha
  · cases ha
  · rename_i hne
    obtain rfl := Option.some.inj ha
    simpa using hne

theorem origin_of_web {u : Url} {a : Authority} (hweb : u.scheme ∈ webSchemes) (ha : u.authority = some a) :
    u.origin = u.scheme ++ "://" ++ a.host ++ portText a.port := by
  have hblob : u.scheme ≠ "blob" := by
    intro h
    rw [h] at hweb
    exact absurd hweb (by decide)
  unfold origin originOf
  rw [if_neg hblob, if_pos (mem_webSchemes_iff.mp hweb), ha]

end Url

end AccountSync
