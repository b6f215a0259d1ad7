import Rstream.WebTTY.ClientTrust
import Rstream.WebTTY.PayloadCipherCorrectness

/-!
# Required encryption is not dropped

Whenever the user, the control plane or the inventory asks for E2E, a client that
gets a configuration at all gets one that encrypts for a server key. Without any
of these signals the session is plain, whatever the known-server store holds.
-/

namespace Rstream.WebTTY

open Rstream.Core Go List

variable {Pub Priv R Proof Device : Type} {env : ClientEnvironment Pub Priv R}
  {runtimeE2E : Option (RuntimeE2EContext Proof Device)}
  {sources stored kept : List KnownServerSource} {scope : ClientSecurityScope}
  {config : ClientCryptoConfig} {next : E2ERecipient} {serverInfo : Option ServerInfo}
  {label : String} {e2eRequested : Bool}

section Recipients

/-- No two recipients share a key ID with different public keys. -/
def Consistent (recipients : List E2ERecipient) : Prop :=
  ∀ a ∈ recipients, ∀ b ∈ recipients, a.keyID = b.keyID → a.publicKey = b.publicKey

variable {recipients out : List E2ERecipient}

/-- A recipient is added, or the key was there. -/
theorem appendWebTTYE2ERecipient_eq_ok
    (h : appendWebTTYE2ERecipient recipients next label = .ok out) :
    out = recipients ∧ recipients ≠ [] ∨
      out = recipients ++ [next] ∧ ∀ a ∈ recipients, a.keyID ≠ next.keyID := by
  unfold appendWebTTYE2ERecipient at h
  split at h
  · next hnone =>
    cases h
    exact .inr ⟨rfl, fun a ha hkey => by simpa [hkey] using find?_eq_none.mp hnone a ha⟩
  · next existing hsome =>
    split_ifs at h
    cases h
    exact .inl ⟨rfl, ne_nil_of_mem (mem_of_find?_eq_some hsome)⟩

theorem Consistent.append (hconsistent : Consistent recipients)
    (h : appendWebTTYE2ERecipient recipients next label = .ok out) : Consistent out := by
  obtain ⟨rfl, _⟩ | ⟨rfl, hfresh⟩ := appendWebTTYE2ERecipient_eq_ok h
  · exact hconsistent
  · intro a ha b hb hkey
    obtain ha | ha := mem_append.mp ha <;> obtain hb | hb := mem_append.mp hb
    · exact hconsistent a ha b hb hkey
    · cases mem_singleton.mp hb
      exact absurd hkey (hfresh a ha)
    · cases mem_singleton.mp ha
      exact absurd hkey.symm (hfresh b hb)
    · cases mem_singleton.mp ha
      cases mem_singleton.mp hb
      rfl

theorem subset_append
    (h : appendWebTTYE2ERecipient recipients next label = .ok out) : recipients ⊆ out := by
  obtain ⟨rfl, _⟩ | ⟨rfl, _⟩ := appendWebTTYE2ERecipient_eq_ok h
  · exact List.Subset.refl _
  · exact subset_append_left ..

theorem Consistent.appendAll (hconsistent : Consistent recipients)
    (h : appendWebTTYE2EServerKeys recipients sources = .ok out) :
    Consistent out ∧ recipients ⊆ out := by
  induction sources generalizing recipients with
  | nil =>
    cases h
    exact ⟨hconsistent, List.Subset.refl _⟩
  | cons source rest ih =>
    obtain ⟨next, hnext, h⟩ := bind_eq_ok.mp h
    obtain ⟨hout, hsubset⟩ := ih (hconsistent.append hnext) h
    exact ⟨hout, List.Subset.trans (subset_append hnext) hsubset⟩

/-- The first source has its key among the recipients. -/
theorem head_mem_serverKeys {source : KnownServerSource} (hhead : sources.head? = some source)
    (h : appendWebTTYE2EServerKeys [] sources = .ok out) : source.recipient ∈ out := by
  cases sources with
  | nil => cases hhead
  | cons head rest =>
    cases hhead
    obtain ⟨next, hnext, h⟩ := bind_eq_ok.mp h
    cases hnext
    exact (Consistent.appendAll (by simp [Consistent]) h).2 mem_cons_self

end Recipients

section Trust

/-- The server that the control plane resolved has this key. -/
def ResolvedKey (env : ClientEnvironment Pub Priv R) (runtime : RuntimeE2EContext Proof Device)
    (key : E2ERecipient) : Prop :=
  ∃ resolved devices identity, resolveRuntimeServer runtime = .ok (resolved, devices) ∧
    parseKnownServerEndpointIdentity env (resolved.serverEndpointIdentity.getD "") = .ok identity ∧
    key = runtimeServerKey runtime identity

/-- A key of a server: given by the user, stored, or resolved. -/
def ServerKey (env : ClientEnvironment Pub Priv R) (sources : List KnownServerSource)
    (runtimeE2E : Option (RuntimeE2EContext Proof Device)) (key : E2ERecipient) : Prop :=
  (∃ source ∈ sources, source.recipient = key) ∨
    (∃ stored, webTTYDefaultKnownServerSources env = .ok stored ∧
      ∃ source ∈ stored, source.recipient = key) ∨
    ∃ runtime, runtimeE2E = some runtime ∧ ResolvedKey env runtime key

/-- The control plane marks the server as requiring E2E. -/
def ControlPlaneRequires (runtimeE2E : Option (RuntimeE2EContext Proof Device)) : Prop :=
  ∃ runtime resolved devices, runtimeE2E = some runtime ∧
    resolveRuntimeServer runtime = .ok (resolved, devices) ∧ resolved.e2eRequired = true

/-- What the resolution of a server gives. -/
theorem webTTYClientRuntimeE2EServerSources_eq_ok {runtime : RuntimeE2EContext Proof Device}
    {out : RuntimeSources} (h : webTTYClientRuntimeE2EServerSources env runtime = .ok out) :
    ∃ resolved devices, resolveRuntimeServer runtime = .ok (resolved, devices) ∧
      out.e2eRequired = resolved.e2eRequired ∧
      (resolved.e2eRequired = false → out.sources = []) ∧
      (resolved.e2eRequired = true →
        ∃ server rest, out.sources = server :: rest ∧ ResolvedKey env runtime server.recipient) := by
  obtain ⟨⟨resolved, devices⟩, hresolved, h⟩ := bind_eq_ok.mp h
  refine ⟨resolved, devices, hresolved, ?_⟩
  by_cases hrequired : resolved.e2eRequired = false
  · simp only [hrequired, if_true] at h
    cases h
    exact ⟨hrequired.symm, fun _ => rfl, fun h => absurd (hrequired.symm.trans h) (by decide)⟩
  · simp only [hrequired] at h
    rw [Bool.not_eq_false] at hrequired
    obtain ⟨_, _, h⟩ := bind_eq_ok.mp h
    obtain ⟨identity, hidentity, h⟩ := bind_eq_ok.mp h
    obtain ⟨_, _, h⟩ := bind_eq_ok.mp h
    have hkey : ResolvedKey env runtime (runtimeServerKey runtime identity) :=
      ⟨resolved, devices, identity, hresolved, withContext_eq_ok.mp hidentity, rfl⟩
    split_ifs at h
    · cases h
      exact ⟨hrequired.symm, fun h => absurd (hrequired.symm.trans h) (by decide),
        fun _ => ⟨_, _, rfl, hkey⟩⟩
    · obtain ⟨device, _, h⟩ := bind_eq_ok.mp h
      cases h
      exact ⟨hrequired.symm, fun h => absurd (hrequired.symm.trans h) (by decide),
        fun _ => ⟨_, _, rfl, hkey⟩⟩

/-- What is known of the trust that was gathered so far. -/
structure ServerTrust.Gathered (env : ClientEnvironment Pub Priv R)
    (sources : List KnownServerSource) (runtimeE2E : Option (RuntimeE2EContext Proof Device))
    (scope : ClientSecurityScope) (trust : ServerTrust) : Prop where
  clientProof : trust.scope.clientProofRequired = scope.clientProofRequired
  required : scope.e2eRequired = true → trust.scope.e2eRequired = true
  server : ∀ source, trust.effectiveSources.head? = some source →
    ServerKey env sources runtimeE2E source.recipient

variable {trust : ServerTrust}

theorem runtimeTrust_gathered {configured : Bool}
    (h : runtimeTrust env runtimeE2E ⟨scope, sources, configured, none, []⟩ = .ok trust) :
    trust.Gathered env sources runtimeE2E scope ∧
      (configured = true → trust.serverKeysConfigured = true) ∧
      (ControlPlaneRequires runtimeE2E → trust.serverKeysConfigured = true) := by
  have hgiven : ∀ source, sources.head? = some source →
      ServerKey env sources runtimeE2E source.recipient :=
    fun source hsource => .inl ⟨source, mem_of_head? hsource, rfl⟩
  unfold runtimeTrust at h
  split at h
  · cases h
    exact ⟨⟨rfl, id, hgiven⟩, id, fun ⟨_, _, _, h, _⟩ => nomatch h⟩
  · next runtime =>
    obtain ⟨out, hout, h⟩ := bind_eq_ok.mp h
    obtain ⟨resolved, devices, hresolved, hrequired, hnone, hsome⟩ :=
      webTTYClientRuntimeE2EServerSources_eq_ok hout
    have hmarked : scope.e2eRequired = true → (scope.e2eRequired || out.e2eRequired) = true :=
      fun h => by rw [h, Bool.true_or]
    split at h
    · next hempty =>
      obtain ⟨_, _, h⟩ := bind_eq_ok.mp h
      cases h
      refine ⟨⟨rfl, hmarked, hgiven⟩, id, ?_⟩
      rintro ⟨_, resolved', devices', ⟨⟩, hresolved', hrequired'⟩
      cases hresolved.symm.trans hresolved'
      obtain ⟨server, rest, hcons, _⟩ := hsome hrequired'
      rw [hempty] at hcons
      cases hcons
    · next server rest hcons =>
      obtain ⟨clientIdentity, _, h⟩ := bind_eq_ok.mp h
      cases h
      refine ⟨⟨rfl, hmarked, ?_⟩, fun _ => rfl, fun _ => rfl⟩
      rintro source ⟨⟩
      cases hrequired' : resolved.e2eRequired with
      | false =>
        rw [hnone hrequired'] at hcons
        cases hcons
      | true =>
        obtain ⟨server', rest', hcons', hkey⟩ := hsome hrequired'
        cases hcons.symm.trans hcons'
        exact .inr (.inr ⟨runtime, rfl, hkey⟩)

/-- The store, once it is read, holds keys of servers. -/
theorem ServerTrust.Gathered.default (h : trust.Gathered env sources runtimeE2E scope)
    (hstored : webTTYDefaultKnownServerSources env = .ok stored) (hkept : kept ⊆ stored) :
    (trust.default kept).Gathered env sources runtimeE2E scope := by
  unfold ServerTrust.default
  split_ifs
  · exact h
  · refine ⟨h.clientProof, h.required, fun source hsource => .inr (.inl ⟨stored, hstored, source, ?_⟩)⟩
    exact ⟨hkept (mem_of_head? hsource), rfl⟩

theorem ServerTrust.default_configured (kept : List KnownServerSource)
    (h : trust.serverKeysConfigured = true) : (trust.default kept).serverKeysConfigured = true := by
  unfold ServerTrust.default
  split_ifs
  · exact h
  · rfl

theorem webTTYFilterKnownServerSourcesForScope_subset
    (h : webTTYFilterKnownServerSourcesForScope env stored scope = .ok kept) : kept ⊆ stored := by
  unfold webTTYFilterKnownServerSourcesForScope at h
  simp only at h
  split_ifs at h
  · cases h
    exact List.Subset.refl _
  · cases h
    exact filter_subset_self _
  · cases h
    exact filter_subset_self _
  · split at h <;> cases h
    exact List.Subset.trans (filter_subset_self _) (filter_subset_self _)

variable {trust' : ServerTrust}

theorem scopeTrust_gathered (h : trust.Gathered env sources runtimeE2E scope)
    (hscope : scopeTrust env trust = .ok trust') :
    trust'.Gathered env sources runtimeE2E scope ∧
      (trust.serverKeysConfigured = true → trust'.serverKeysConfigured = true) := by
  unfold scopeTrust at hscope
  split_ifs at hscope with hmarked
  · obtain ⟨kept, hkept, hscope⟩ := bind_eq_ok.mp hscope
    cases hscope
    obtain ⟨stored, hstored, hfilter⟩ := bind_eq_ok.mp hkept
    exact ⟨h.default hstored (webTTYFilterKnownServerSourcesForScope_subset hfilter),
      ServerTrust.default_configured kept⟩
  · cases hscope
    exact ⟨h, id⟩

theorem flagTrust_gathered (h : trust.Gathered env sources runtimeE2E scope)
    (hflag : flagTrust env e2eRequested trust = .ok trust') :
    trust'.Gathered env sources runtimeE2E scope ∧
      (trust.serverKeysConfigured = true → trust'.serverKeysConfigured = true) := by
  unfold flagTrust at hflag
  split_ifs at hflag
  · obtain ⟨stored, hstored, hflag⟩ := bind_eq_ok.mp hflag
    cases hflag
    exact ⟨h.default hstored (List.Subset.refl _), ServerTrust.default_configured stored⟩
  · cases hflag
    exact ⟨h, id⟩

end Trust

section Crypto

/-- The session is encrypted for a key of a server. -/
structure Protected (env : ClientEnvironment Pub Priv R) (sources : List KnownServerSource)
    (runtimeE2E : Option (RuntimeE2EContext Proof Device)) (scope : ClientSecurityScope)
    (config : ClientCryptoConfig) : Prop where
  /-- The grant of the session has an envelope for a server key, and its recipients do not share a
  key ID with different keys. -/
  grant : ∃ cipher recipients, config.payloadCrypto = some cipher ∧
    newE2EClientPayloadCrypto env (payloadConfig runtimeE2E recipients) = .ok cipher ∧
    (∃ key ∈ recipients, ServerKey env sources runtimeE2E key ∧
      ∃ envelope ∈ cipher.sessionKeyGrant.keyEnvelopes,
        envelope.recipientKeyID = recipientKeyID env.primitives key) ∧
    Consistent recipients
  /-- A proof of the client goes to an expected signing identity. -/
  identity : scope.clientProofRequired = true → config.expectedServerIdentity.isSome = true

/-- The recipients of the grant: the server keys, and maybe the client. -/
theorem recipients_eq_ok {serverKeys recipients : List E2ERecipient}
    {endpointIdentity : Option LocalIdentity} {clientIdentityName : String}
    (hconsistent : Consistent serverKeys) (h : (match endpointIdentity with
      | some identity =>
        if clientIdentityName ≠ "" then appendWebTTYE2EClientEndpointRecipient serverKeys identity
        else .ok serverKeys
      | none => .ok serverKeys) = .ok recipients) :
    Consistent recipients ∧ serverKeys ⊆ recipients := by
  split at h
  · split_ifs at h
    · exact ⟨hconsistent.append h, subset_append h⟩
    · cases h
      exact ⟨hconsistent, List.Subset.refl _⟩
  · cases h
    exact ⟨hconsistent, List.Subset.refl _⟩

/-- The grant has an envelope for each recipient. -/
theorem Granted.exists_envelope {P : E2EPrimitives Pub Priv R} {profile : Profile}
    {cfg : E2EPayloadCryptoConfig} {cipher : PayloadCipher} (h : Granted P profile cfg cipher)
    {recipient : E2ERecipient} (hmem : recipient ∈ cfg.recipients) :
    ∃ envelope ∈ cipher.sessionKeyGrant.keyEnvelopes,
      envelope.recipientKeyID = recipientKeyID P recipient := by
  obtain ⟨i, hi, rfl⟩ := getElem_of_mem hmem
  have hi' : i < cipher.keyEnvelopes.length := h.envelopes.length_eq ▸ hi
  exact ⟨cipher.keyEnvelopes[i], getElem_mem hi',
    ((forall₂_iff_get.mp h.envelopes).2 i hi hi').keyID⟩

theorem trustedCrypto_protected {trust : ServerTrust}
    (hgathered : trust.Gathered env sources runtimeE2E scope)
    (h : trustedCrypto env runtimeE2E trust = .ok config) :
    Protected env sources runtimeE2E scope config := by
  obtain ⟨serverKeys, hkeys, h⟩ := bind_eq_ok.mp h
  obtain ⟨_, hnone, h⟩ := bind_eq_ok.mp h
  obtain ⟨expected, _, h⟩ := bind_eq_ok.mp h
  obtain ⟨_, hproof, h⟩ := bind_eq_ok.mp h
  obtain ⟨clientIdentityName, _, h⟩ := bind_eq_ok.mp h
  obtain ⟨endpointIdentity, _, h⟩ := bind_eq_ok.mp h
  obtain ⟨recipients, hrecipients, h⟩ := bind_eq_ok.mp h
  obtain ⟨cipher, hcipher, h⟩ := bind_eq_ok.mp h
  cases h
  replace hcipher := withContext_eq_ok.mp hcipher
  obtain ⟨hserverKeys, _⟩ := Consistent.appendAll (by simp [Consistent]) hkeys
  obtain ⟨hconsistent, hsubset⟩ := recipients_eq_ok hserverKeys hrecipients
  refine ⟨⟨cipher, recipients, rfl, hcipher, ?_, hconsistent⟩, fun hclient => ?_⟩
  · cases hhead : trust.effectiveSources.head? with
    | none =>
      rw [head?_eq_none_iff.mp hhead] at hkeys
      cases hkeys
      exact absurd rfl (failIf_eq_ok.mp hnone)
    | some source =>
      have hmem := hsubset (head_mem_serverKeys hhead hkeys)
      refine ⟨source.recipient, hmem, hgathered.server source hhead, ?_⟩
      obtain ⟨_, _, hcipher⟩ := bind_eq_ok.mp hcipher
      exact (newE2EClientPayloadCipher_granted hcipher).exists_envelope hmem
  · have hsafe := failIf_eq_ok.mp hproof
    rw [hgathered.clientProof, hclient] at hsafe
    simpa [Option.isSome_iff_ne_none] using hsafe

/-- Something asks for E2E. -/
def Asked (e2eRequested serverKeysConfigured : Bool) (scope : ClientSecurityScope)
    (runtimeE2E : Option (RuntimeE2EContext Proof Device)) : Prop :=
  e2eRequested = true ∨ serverKeysConfigured = true ∨ scope.e2eRequired = true ∨
    ControlPlaneRequires runtimeE2E

/-- When something asks for E2E, the sources are put to use. -/
theorem Asked.trusted {serverKeysConfigured : Bool}
    (h : webTTYClientCryptoFromSources env e2eRequested sources serverKeysConfigured runtimeE2E
      scope = .ok config) (hasked : Asked e2eRequested serverKeysConfigured scope runtimeE2E) :
    ∃ trust : ServerTrust, trust.Gathered env sources runtimeE2E scope ∧
      trustedCrypto env runtimeE2E trust = .ok config := by
  obtain ⟨trust₁, hruntime, h⟩ := bind_eq_ok.mp h
  obtain ⟨trust₂, hscope, h⟩ := bind_eq_ok.mp h
  obtain ⟨trust₃, hflag, h⟩ := bind_eq_ok.mp h
  obtain ⟨_, hunknown, h⟩ := bind_eq_ok.mp h
  obtain ⟨hgathered₁, hgiven, hresolved⟩ := runtimeTrust_gathered hruntime
  obtain ⟨hgathered₂, hkept₂⟩ := scopeTrust_gathered hgathered₁ hscope
  obtain ⟨hgathered₃, hkept₃⟩ := flagTrust_gathered hgathered₂ hflag
  split_ifs at h with hplain
  · exfalso
    have hunset : ¬ trust₁.serverKeysConfigured = true := by
      intro hset
      have := hkept₃ (hkept₂ hset)
      rw [hplain.2] at this
      cases this
    obtain hasked | hasked | hasked | hasked := hasked
    · rw [hasked] at hplain
      cases hplain.1
    · exact hunset (hgiven hasked)
    · exact failIf_eq_ok.mp hunknown ⟨hplain.2, hgathered₃.required hasked⟩
    · exact hunset (hresolved hasked)
  · exact ⟨trust₃, hgathered₃, h⟩

/-- E2E that is asked for is not dropped. -/
theorem webTTYClientCrypto_protected {e2eRequested serverKeysConfigured : Bool}
    {config : ClientCryptoConfig}
    (h : webTTYClientCryptoFromSources env e2eRequested sources serverKeysConfigured runtimeE2E
      scope = .ok config) (hasked : Asked e2eRequested serverKeysConfigured scope runtimeE2E) :
    Protected env sources runtimeE2E scope config := by
  obtain ⟨trust, hgathered, htrusted⟩ := hasked.trusted h
  exact trustedCrypto_protected hgathered htrusted

/-- The inventory has no mark of E2E for the server. -/
def Unmarked (env : ClientEnvironment Pub Priv R) (serverInfo : Option ServerInfo) : Prop :=
  ∀ info, serverInfo = some info → trimSpace (info.hostKeyID.getD "") = "" ∧
    (∀ value, info.e2e = some value → env.equalFold (trimSpace value) "required" = false) ∧
    ∀ value, info.clientProof = some value → env.equalFold (trimSpace value) "required" = false

/-- The control plane is not asked, or does not require E2E. -/
def ControlPlaneReleases (runtimeE2E : Option (RuntimeE2EContext Proof Device)) : Prop :=
  ∀ runtime, runtimeE2E = some runtime → ∃ resolved devices,
    resolveRuntimeServer runtime = .ok (resolved, devices) ∧ resolved.e2eRequired = false

theorem webTTYClientSecurityScopeFromServerInfo_e2eRequired {target : String} :
    (webTTYClientSecurityScopeFromServerInfo env target serverInfo).e2eRequired = false ↔
      Unmarked env serverInfo := by
  cases serverInfo with
  | none => simp [webTTYClientSecurityScopeFromServerInfo, Unmarked]
  | some info =>
    obtain ⟨_, hostKeyID, e2e, clientProof⟩ := info
    cases e2e <;> cases clientProof <;>
      simp [webTTYClientSecurityScopeFromServerInfo, Unmarked, and_assoc, and_comm]

/-- A server without a mark has no host key either. -/
theorem webTTYClientSecurityScopeFromServerInfo_hostKeyID {target : String}
    (h : Unmarked env serverInfo) :
    (webTTYClientSecurityScopeFromServerInfo env target serverInfo).hostKeyID = "" := by
  cases serverInfo with
  | none => rfl
  | some info => exact (h info rfl).1

/-- A control plane that does not require E2E changes nothing. -/
theorem runtimeTrust_released (h : ControlPlaneReleases runtimeE2E) (trust : ServerTrust) :
    runtimeTrust env runtimeE2E trust = .ok trust := by
  cases runtimeE2E with
  | none => rfl
  | some runtime =>
    obtain ⟨resolved, devices, hresolved, hreleased⟩ := h runtime rfl
    have hsources : webTTYClientRuntimeE2EServerSources env runtime = .ok ⟨[], none, [], false⟩ :=
      bind_ok hresolved (if_pos hreleased)
    refine bind_ok hsources <| bind_ok (failIf_ok nofun) ?_
    simp only [Bool.or_false]
    rfl

theorem Protected.payloadCrypto_ne_none
    (h : Protected env sources runtimeE2E scope config) : config.payloadCrypto ≠ none := by
  obtain ⟨cipher, _, hcipher, _⟩ := h.grant
  rw [hcipher]
  exact Option.some_ne_none cipher

/-- Without a key source of the user, a session is plain exactly if nothing asks for E2E; the
known-server store does not. -/
theorem webTTYClientCrypto_plain_iff (env : ClientEnvironment Pub Priv R) (e2eRequested : Bool)
    (runtimeE2E : Option (RuntimeE2EContext Proof Device)) (target : String)
    (serverInfo : Option ServerInfo) :
    (∃ config, webTTYClientCryptoFromSources env e2eRequested [] false runtimeE2E
        (webTTYClientSecurityScopeFromServerInfo env target serverInfo) = .ok config ∧
        config.payloadCrypto = none) ↔
      e2eRequested = false ∧ Unmarked env serverInfo ∧ ControlPlaneReleases runtimeE2E := by
  constructor
  · rintro ⟨config, hconfig, hplain⟩
    have hasked : ¬ Asked e2eRequested false
        (webTTYClientSecurityScopeFromServerInfo env target serverInfo) runtimeE2E := by
      intro hasked
      obtain ⟨trust, hgathered, htrusted⟩ := hasked.trusted hconfig
      exact (trustedCrypto_protected hgathered htrusted).payloadCrypto_ne_none hplain
    simp only [Asked, not_or, Bool.not_eq_true] at hasked
    obtain ⟨hflag, _, hscope, hcontrol⟩ := hasked
    refine ⟨hflag, webTTYClientSecurityScopeFromServerInfo_e2eRequired.mp hscope, ?_⟩
    rintro runtime rfl
    obtain ⟨trust, htrust, _⟩ := bind_eq_ok.mp hconfig
    obtain ⟨out, hout, _⟩ := bind_eq_ok.mp htrust
    obtain ⟨resolved, devices, hresolved, _⟩ := webTTYClientRuntimeE2EServerSources_eq_ok hout
    refine ⟨resolved, devices, hresolved, ?_⟩
    by_contra hrequired
    exact hcontrol ⟨runtime, resolved, devices, rfl, hresolved, Bool.not_eq_false _ ▸ hrequired⟩
  · rintro ⟨rfl, hunmarked, hreleased⟩
    have hscope : (webTTYClientSecurityScopeFromServerInfo env target serverInfo).e2eRequired =
        false := webTTYClientSecurityScopeFromServerInfo_e2eRequired.mpr hunmarked
    have hhost : (webTTYClientSecurityScopeFromServerInfo env target serverInfo).hostKeyID = "" :=
      webTTYClientSecurityScopeFromServerInfo_hostKeyID hunmarked
    have hmark : ¬ (false = false ∧
        ((webTTYClientSecurityScopeFromServerInfo env target serverInfo).hostKeyID ≠ "" ∨
          (webTTYClientSecurityScopeFromServerInfo env target serverInfo).e2eRequired = true)) := by
      simp [hscope, hhost]
    refine ⟨.plain, bind_ok (runtimeTrust_released hreleased _) <| bind_ok (if_neg hmark) <|
      bind_ok (if_neg nofun) <| bind_ok (failIf_ok ?_) rfl, rfl⟩
    simp [hscope]

end Crypto

namespace TrustSample

/-- A pinned server. -/
def entry : KnownServerKeyEntry :=
  ⟨"dev-shell", rawURLEncode (replicate 16 7), rawURLEncode (replicate 32 4), "", "", ""⟩

/-- A client whose store has the pinned server. -/
def client : ClientEnvironment Bytes Bytes Unit where
  primitives := PayloadSample.primitives
  profile := .standard
  draws := { PayloadSample.draws with payloadKey := .ok ⟨replicate 32 1, rfl⟩ }
  requireFIPSWebTTYRuntime := .ok ()
  webTTYSigningKeyID := id
  parseWebTTYSigningPublicKey _ := .ok ()
  fold c := c
  defaultKnownServerKeysPath := .ok "known_servers.json"
  readKnownServerKeysFile _ := .ok (some [entry])
  clientEndpointIdentityByName _ := .error (newError "no identity")

/-- What the inventory says of the server, with the given mark. -/
def info (e2e : Option String) : ServerInfo := ⟨"dev-shell", none, e2e, none⟩

/-- The control plane is not asked. -/
def runtime : Option (RuntimeE2EContext Unit Unit) := none

/-- The mark of the inventory leads to the pinned key. -/
theorem webTTYClientCrypto_protected_sample :
    ∃ config, webTTYClientCryptoFromSources client false [] false runtime
        (webTTYClientSecurityScopeFromServerInfo client "dev-shell" (some (info (some "required")))) =
          .ok config ∧
      Protected client [] runtime
        (webTTYClientSecurityScopeFromServerInfo client "dev-shell" (some (info (some "required"))))
        config := by
  have hok : (webTTYClientCryptoFromSources client false [] false runtime
      (webTTYClientSecurityScopeFromServerInfo client "dev-shell"
        (some (info (some "required"))))).toBool = true := by
    decide +kernel
  cases h : webTTYClientCryptoFromSources client false [] false runtime
      (webTTYClientSecurityScopeFromServerInfo client "dev-shell" (some (info (some "required")))) with
  | error err =>
    rw [h] at hok
    cases hok
  | ok config => exact ⟨config, rfl, webTTYClientCrypto_protected h (.inr (.inr (.inl rfl)))⟩

/-- Without the mark the pinned server is reached in plain. -/
theorem pinnedServer_plain :
    client.readKnownServerKeysFile "known_servers.json" = .ok (some [entry]) ∧
      entry.name = "dev-shell" ∧
      ∃ config, webTTYClientCryptoFromSources client false [] false runtime
          (webTTYClientSecurityScopeFromServerInfo client "dev-shell" (some (info none))) = .ok config ∧
        config.payloadCrypto = none :=
  ⟨rfl, rfl, .plain, rfl, rfl⟩

end TrustSample

end Rstream.WebTTY
