import AccountSync.Attempt
import AccountSync.Proofs.Url.Origin

/-!
What a configuration that passes its check is good for. The check only asks that the servers have URLs, while a client
also needs the host of the token server. Main statement: `client_of_validated`, that such a configuration always gives an
audience, that it makes a client exactly if the URL of the token server has a host, and that a URL of one of the web's own
schemes always has one.
-/

set_option autoImplicit false
set_option relaxedAutoImplicit false

namespace AccountSync

open Text.LetterCase (lowerAscii)

def SyncError.noHost : SyncError := .config "token_server_url has no host"

private theorem lowerAscii_ne_empty {text : String} (h : text ≠ "") : lowerAscii text ≠ "" := by
  intro hempty
  have hlist : text.toList.map Char.toLower = [] := by
    simpa [lowerAscii] using congrArg String.toList hempty
  exact h (String.toList_eq_nil_iff.mp (List.map_eq_nil_iff.mp hlist))

namespace Config

variable {c : Config} {u : Url}

/-- What the check of a configuration asks for. -/
structure Valid (c : Config) : Prop where
  identityServer : ∃ u, Url.parse c.identityServerUrl = .ok u
  tokenServer : ∃ u, Url.parse c.tokenServerUrl = .ok u
  verifier : ∃ u, Url.parse c.verifierUrl = .ok u
  certificateDuration : c.certificateDuration ≠ 0
  assertionDuration : c.assertionDuration ≠ 0
  maxLoginSteps : c.maxLoginSteps ≠ 0

private theorem checkUrl_eq_ok_iff {name value : String} :
    checkUrl name value = .ok () ↔ ∃ u, Url.parse value = .ok u := by
  unfold checkUrl
  cases Url.parse value with
  | ok u => exact iff_of_true rfl ⟨u, rfl⟩
  | error f => exact iff_of_false nofun (by rintro ⟨_, h⟩; cases h)

private theorem validate_eq_ok_iff : c.validate = .ok () ↔ c.Valid := by
  constructor
  · intro h
    obtain ⟨⟨⟩, hidentity, h⟩ := bind_eq_ok_iff.mp h
    obtain ⟨⟨⟩, htoken, h⟩ := bind_eq_ok_iff.mp h
    obtain ⟨⟨⟩, hverifier, h⟩ := bind_eq_ok_iff.mp h
    obtain ⟨hdurations, h⟩ := unless_eq_ok_iff.mp h
    obtain ⟨hcertificate, hassertion⟩ := not_or.mp hdurations
    have hsteps : c.maxLoginSteps ≠ 0 := by
      intro hzero
      rw [if_pos hzero] at h
      cases h
    exact ⟨checkUrl_eq_ok_iff.mp hidentity, checkUrl_eq_ok_iff.mp htoken, checkUrl_eq_ok_iff.mp hverifier,
      hcertificate, hassertion, hsteps⟩
  · intro h
    refine bind_eq_ok_iff.mpr ⟨(), checkUrl_eq_ok_iff.mpr h.identityServer, ?_⟩
    refine bind_eq_ok_iff.mpr ⟨(), checkUrl_eq_ok_iff.mpr h.tokenServer, ?_⟩
    refine bind_eq_ok_iff.mpr ⟨(), checkUrl_eq_ok_iff.mpr h.verifier, ?_⟩
    refine unless_eq_ok_iff.mpr ⟨not_or.mpr ⟨h.certificateDuration, h.assertionDuration⟩, ?_⟩
    rw [if_neg h.maxLoginSteps]
    rfl

private theorem tokenServer_eq_ok (hu : Url.parse c.tokenServerUrl = .ok u) : c.tokenServer = .ok u := by
  rw [tokenServer, hu]
  rfl

private theorem assertionAudience_eq_ok (hu : Url.parse c.tokenServerUrl = .ok u) :
    c.assertionAudience = .ok (if c.audience = "" then u.origin else c.audience) := by
  unfold assertionAudience
  rw [tokenServer_eq_ok hu]
  by_cases hempty : c.audience = ""
  · rw [if_pos (by simpa using hempty), if_pos hempty]
    rfl
  · rw [if_neg (by simpa using hempty), if_neg hempty]

private theorem tokenServerHost_eq (hu : Url.parse c.tokenServerUrl = .ok u) :
    c.tokenServerHost = match u.host? with
      | some host => .ok (lowerAscii host)
      | none => .error .noHost := by
  unfold tokenServerHost
  rw [tokenServer_eq_ok hu]
  cases hhost : u.host? with
  | some host => simp [bind, Except.bind, hhost, pure, Except.pure]
  | none => simp [bind, Except.bind, hhost]; rfl

private theorem client_eq (h : c.validate = .ok ()) (hu : Url.parse c.tokenServerUrl = .ok u) :
    ∃ audience, c.assertionAudience = .ok audience ∧
      Client.ofConfig c = c.tokenServerHost.map fun host => ⟨c, audience, host⟩ := by
  have haudience := assertionAudience_eq_ok hu
  refine ⟨_, haudience, ?_⟩
  unfold Client.ofConfig
  rw [h, haudience]
  cases c.tokenServerHost with
  | ok host => rfl
  | error e => rfl

/-- For a configuration that passes its check there is always an audience, which is the configured one if one is given.
Whether it makes a client depends on the URL of the token server alone: with a host, which is then not empty, it does, and
without one it is refused for that. A URL of one of the web's own schemes always has a host, and its origin is the
scheme, this host and the port. -/
theorem client_of_validated (h : c.validate = .ok ()) : ∃ u, Url.parse c.tokenServerUrl = .ok u ∧
    (∃ audience, c.assertionAudience = .ok audience ∧ (c.audience ≠ "" → audience = c.audience)) ∧
    (∀ host, u.host? = some host → host ≠ "" ∧ lowerAscii host ≠ "" ∧ c.tokenServerHost = .ok (lowerAscii host) ∧
      ∃ audience, c.assertionAudience = .ok audience ∧ Client.ofConfig c = .ok ⟨c, audience, lowerAscii host⟩) ∧
    (u.host? = none → c.tokenServerHost = .error .noHost ∧ Client.ofConfig c = .error .noHost) ∧
    (u.scheme ∈ Url.webSchemes → ∃ a, u.authority = some a ∧ a.host ≠ "" ∧ u.host? = some a.host ∧
      (c.audience = "" → c.assertionAudience = .ok (u.scheme ++ "://" ++ a.host ++ Url.portText a.port))) := by
  obtain ⟨u, hu⟩ := (validate_eq_ok_iff.mp h).tokenServer
  have haudience := assertionAudience_eq_ok hu
  have hhost := tokenServerHost_eq hu
  obtain ⟨audience, hgiven, hclient⟩ := client_eq h hu
  refine ⟨u, hu, ?_, ?_, ?_, ?_⟩
  · refine ⟨_, haudience, ?_⟩
    intro hne
    exact if_neg hne
  · intro host hsome
    have hne := Url.host?_ne_empty hsome
    rw [hsome] at hhost
    refine ⟨hne, lowerAscii_ne_empty hne, hhost, audience, hgiven, ?_⟩
    rw [hclient, hhost]
    rfl
  · intro hnone
    rw [hnone] at hhost
    refine ⟨hhost, ?_⟩
    rw [hclient, hhost]
    rfl
  · intro hweb
    obtain ⟨a, ha, hne⟩ := Url.authority_of_parse hu hweb
    refine ⟨a, ha, hne, Url.host?_of_authority ha hne, ?_⟩
    intro hempty
    rw [haudience, if_pos hempty, Url.origin_of_web hweb ha]

/-- A configuration whose token server stands under a numeric address with a port of its own. -/
def numeric : Config where
  identityServerUrl := "http://[::1]/v1"
  tokenServerUrl := "http://[2001:DB8::7]:8080/1.0/sync/1.5"
  verifierUrl := "http://[::1]/v2"

private theorem validate_numeric : numeric.validate = .ok () := by
  decide +kernel

/-- It makes a client, whose audience is the origin of the token server. -/
theorem client_of_validated_numeric : numeric.validate = .ok () ∧
    ∃ client, Client.ofConfig numeric = .ok client ∧ client.audience = "http://[2001:db8::7]:8080" ∧
      client.tokenHost = "[2001:db8::7]" := by
  obtain ⟨u, hu, -, hclient, -, hweb⟩ := client_of_validated validate_numeric
  have hparsed : Url.parse numeric.tokenServerUrl =
      .ok ⟨"http", some ⟨"", none, "[2001:db8::7]", some 8080⟩, "/1.0/sync/1.5", none, none⟩ := by decide +kernel
  obtain rfl := Except.ok.inj (hu.symm.trans hparsed)
  obtain ⟨a, ha, -, hhost, horigin⟩ := hweb (by decide)
  obtain ⟨-, -, -, audience, hgiven, hmade⟩ := hclient _ hhost
  obtain rfl := Option.some.inj ha
  have haudience : audience = "http://[2001:db8::7]:8080" := by
    have horigin := Except.ok.inj (hgiven.symm.trans (horigin rfl))
    rw [horigin]
    decide
  refine ⟨validate_numeric, _, hmade, haudience, ?_⟩
  show lowerAscii "[2001:db8::7]" = "[2001:db8::7]"
  decide

def mailed : Config :=
  { numeric with tokenServerUrl := "mailto:ops@example.org" }

/-- The check lets token servers through that have no host. There is no origin to name then, and no client can be made. -/
theorem not_client_of_validated_mailed : mailed.validate = .ok () ∧ mailed.assertionAudience = .ok "null" ∧
    mailed.tokenServerHost = .error .noHost ∧ Client.ofConfig mailed = .error .noHost := by
  have hvalid : mailed.validate = .ok () := by decide +kernel
  have hhost : mailed.tokenServerHost = .error .noHost := by decide +kernel
  obtain ⟨u, hu⟩ := (validate_eq_ok_iff.mp hvalid).tokenServer
  obtain ⟨audience, -, hmade⟩ := client_eq hvalid hu
  refine ⟨hvalid, by decide +kernel, hhost, ?_⟩
  rw [hmade, hhost]
  rfl

end Config

end AccountSync
