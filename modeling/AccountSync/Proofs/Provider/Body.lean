import AccountSync.Proofs.Json.Record
import AccountSync.Provider.Messages

/-!
Which bodies tell what an answer of the provider has to tell: the keys, a certificate, or what was wrong. Main
statements: `read_eq_some_iff` for each of the three, that it is read off exactly these.
-/

set_option autoImplicit false
set_option relaxedAutoImplicit false

namespace AccountSync.Provider

open Json (Tree Reader FieldsOf TellsOption TellsWhole TellsText)

/-- Both keys are there, each once and as a text. -/
def TellsKeys (keys : KeysResponse) (t : Tree) : Prop :=
  FieldsOf [["kA"], ["wrapKB"]] t [[.string (some keys.kA)], [.string (some keys.wrapKB)]]

def TellsCertificate (answer : CertificateResponse) (t : Tree) : Prop :=
  FieldsOf [["cert"]] t [[.string (some answer.certificate)]]

/-- Each of the four fields may be left open or be `null`. What is there is of its kind, and is there once. -/
def TellsError (body : ErrorBody) (t : Tree) : Prop :=
  ∃ code errno error message, FieldsOf [["code"], ["errno"], ["error"], ["message"]] t [code, errno, error, message] ∧
    TellsOption (fun w : UInt16 => TellsWhole w.toNat) body.code code ∧
    TellsOption (fun w : UInt32 => TellsWhole w.toNat) body.errno errno ∧
    TellsOption TellsText body.error error ∧ TellsOption TellsText body.message message

variable {t : Tree}

theorem KeysResponse.read_eq_some_iff {keys : KeysResponse} : KeysResponse.read t = some keys ↔ TellsKeys keys t := by
  unfold KeysResponse.read
  simp only [Option.bind_eq_bind, Option.bind_eq_some_iff]
  constructor
  · rintro ⟨slots, hslots, hread⟩
    split at hread
    · rename_i kA wrapKB
      simp only [Option.bind_eq_some_iff] at hread
      obtain ⟨_, hkA, _, hwrapKB, hkeys⟩ := hread
      obtain rfl := Option.some.inj hkeys
      have hfields := Json.slots_iff_fieldsOf.mp hslots
      rwa [List.map_cons, List.map_cons, List.map_nil, Json.required_string_iff.mp hkA,
        Json.required_string_iff.mp hwrapKB] at hfields
    · cases hread
  · intro h
    exact ⟨[some (.string (some keys.kA)), some (.string (some keys.wrapKB))], Json.slots_iff_fieldsOf.mpr h, rfl⟩

theorem CertificateResponse.read_eq_some_iff {answer : CertificateResponse} :
    CertificateResponse.read t = some answer ↔ TellsCertificate answer t := by
  unfold CertificateResponse.read
  simp only [Option.bind_eq_bind, Option.bind_eq_some_iff]
  constructor
  · rintro ⟨slots, hslots, hread⟩
    split at hread
    · rename_i cert
      simp only [Option.bind_eq_some_iff] at hread
      obtain ⟨_, hcert, hanswer⟩ := hread
      obtain rfl := Option.some.inj hanswer
      have hfields := Json.slots_iff_fieldsOf.mp hslots
      rwa [List.map_cons, List.map_nil, Json.required_string_iff.mp hcert] at hfields
    · cases hread
  · intro h
    exact ⟨[some (.string (some answer.certificate))], Json.slots_iff_fieldsOf.mpr h, rfl⟩

private theorem optional_string_iff {o : Option String} {slot : Option Tree} :
    Reader.optional Reader.string slot = some o ↔ TellsOption TellsText o slot.toList :=
  Json.optional_iff_tellsOption (fun _ _ => Json.string_eq_some_iff) Json.not_tellsText_null

private theorem optional_word16_iff {o : Option UInt16} {slot : Option Tree} :
    Reader.optional Reader.word16 slot = some o ↔ TellsOption (fun w : UInt16 => TellsWhole w.toNat) o slot.toList :=
  Json.optional_iff_tellsOption (fun _ _ => Json.word16_eq_some_iff) fun _ => Json.not_tellsWhole_null _

private theorem optional_word32_iff {o : Option UInt32} {slot : Option Tree} :
    Reader.optional Reader.word32 slot = some o ↔ TellsOption (fun w : UInt32 => TellsWhole w.toNat) o slot.toList :=
  Json.optional_iff_tellsOption (fun _ _ => Json.word32_eq_some_iff) fun _ => Json.not_tellsWhole_null _

theorem ErrorBody.read_eq_some_iff {body : ErrorBody} : ErrorBody.read t = some body ↔ TellsError body t := by
  unfold ErrorBody.read
  simp only [Option.bind_eq_bind, Option.bind_eq_some_iff]
  constructor
  · rintro ⟨slots, hslots, hread⟩
    split at hread
    · simp only [Option.bind_eq_some_iff] at hread
      obtain ⟨_, hcode, _, herrno, _, herror, _, hmessage, hbody⟩ := hread
      obtain rfl := Option.some.inj hbody
      exact ⟨_, _, _, _, Json.slots_iff_fieldsOf.mp hslots, optional_word16_iff.mp hcode, optional_word32_iff.mp herrno,
        optional_string_iff.mp herror, optional_string_iff.mp hmessage⟩
    · cases hread
  · rintro ⟨_, _, _, _, hfields, hcode, herrno, herror, hmessage⟩
    obtain ⟨code, rfl⟩ := hcode.exists_slot
    obtain ⟨errno, rfl⟩ := herrno.exists_slot
    obtain ⟨error, rfl⟩ := herror.exists_slot
    obtain ⟨message, rfl⟩ := hmessage.exists_slot
    refine ⟨[code, errno, error, message], Json.slots_iff_fieldsOf.mpr hfields, ?_⟩
    simp only [optional_word16_iff.mpr hcode, optional_word32_iff.mpr herrno, optional_string_iff.mpr herror,
      optional_string_iff.mpr hmessage]
    rfl

end AccountSync.Provider
