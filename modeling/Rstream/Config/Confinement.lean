import Rstream.Config.Resolve

/-!
# Confinement of stored credentials

What `Resolve` returns as a token or a client identity was given explicitly, or is stored
with the selected context or with the environment of the selected API URL. Stored
credentials are not combined with an override of the engine they were not stored for.
-/

namespace Rstream.Config

open Go

variable {S TransportConfig Dialer Identity Trust : Type}
  {deps : ResolveDeps S TransportConfig Dialer Identity Trust}
  {input : ResolveInput S TransportConfig} {ctx : Option (Context S TransportConfig)}
  {env : Option (Environment S TransportConfig)} {engineOverride apiURL name token : String}

variable {auth : Option (Auth S)}

section Sources

/-- The credentials are stored with the context, or with an environment that belongs to it. -/
def StoredAuth (ctx : Option (Context S TransportConfig))
    (env : Option (Environment S TransportConfig)) (auth : Auth S) : Prop :=
  (∃ c, ctx = some c ∧ c.auth = some auth) ∨
    ∃ e, env = some e ∧ environmentApplies ctx e = true ∧ e.auth = some auth

theorem selectedAuth_stored {auth : Auth S} (h : selectedAuth ctx env = some auth) :
    StoredAuth ctx env auth := by
  have henv : selectedAuth.fromEnvironment ctx env = some auth → StoredAuth ctx env auth := by
    intro h
    cases env with
    | none => cases h
    | some e =>
      simp only [selectedAuth.fromEnvironment] at h
      split_ifs at h with happlies
      exact .inr ⟨e, rfl, happlies, h⟩
  unfold selectedAuth at h
  split at h
  · next auth' hctx =>
    split_ifs at h
    · cases h
      obtain ⟨c, rfl, hauth⟩ := Option.bind_eq_some_iff.mp hctx
      exact .inl ⟨c, rfl, hauth⟩
    · exact henv h
  · exact henv h

/-- A token comes from somewhere. -/
theorem tokenFromAuth_ne_none {found : Bool}
    (h : tokenFromAuth deps auth = .ok (token, found)) (htoken : token ≠ "") : auth.isSome := by
  cases auth with
  | some auth => rfl
  | none =>
    cases h
    exact absurd rfl htoken

/-- The token that `resolveToken` finds is stored. -/
theorem resolveToken_stored (h : resolveToken deps ctx env = .ok token) (htoken : token ≠ "") :
    ∃ auth found, StoredAuth ctx env auth ∧ tokenFromAuth deps (some auth) = .ok (token, found) := by
  unfold resolveToken at h
  obtain ⟨⟨own, ownFound⟩, hown, h⟩ := bind_eq_ok.mp h
  simp only at h
  split_ifs at h with hfound
  · cases h
    cases ctx with
    | none =>
      cases hown
      exact absurd rfl htoken
    | some c =>
      obtain ⟨auth, hauth⟩ := Option.isSome_iff_exists.mp (tokenFromAuth_ne_none hown htoken)
      exact ⟨auth, ownFound, .inl ⟨c, rfl, hauth⟩, hauth ▸ hown⟩
  · obtain ⟨⟨shared, sharedFound⟩, hshared, h⟩ := bind_eq_ok.mp h
    simp only at h
    split_ifs at h
    · cases h
      cases env with
      | none =>
        cases hshared
        exact absurd rfl htoken
      | some e =>
        simp only at hshared
        split_ifs at hshared with happlies
        · obtain ⟨auth, hauth⟩ := Option.isSome_iff_exists.mp (tokenFromAuth_ne_none hshared htoken)
          exact ⟨auth, sharedFound, .inr ⟨e, rfl, happlies, hauth⟩, hauth ▸ hshared⟩
        · cases hshared
          exact absurd rfl htoken
    · cases h
      exact absurd rfl htoken

/-- A client identity is loaded only from settings for one. -/
theorem mtlsConfigFromAuth_some {identity : Identity}
    (h : mtlsConfigFromAuth deps auth = .ok (some identity)) : hasMTLS auth = true := by
  cases hmtls : auth.bind (·.mtls) with
  | none =>
    rw [mtlsConfigFromAuth, hmtls] at h
    cases h
  | some mtls =>
    simp only [mtlsConfigFromAuth, hmtls] at h
    by_cases hnone : (!hasMTLSAlias mtls && mtls.storage.isNone) = true
    · rw [if_pos hnone] at h
      cases h
    · simpa [hasMTLS, hmtls, Option.isSome_iff_ne_none, Option.isNone_iff_eq_none,
        imp_iff_not_or] using hnone

theorem confineToken_eq_ok {stored : String}
    (h : confineToken ctx engineOverride stored = .ok token) :
    token = stored ∧ (token ≠ "" → engineOverrideUsesStoredToken engineOverride ctx = false) := by
  obtain ⟨_, hrefuse, h⟩ := bind_eq_ok.mp h
  cases h
  refine ⟨rfl, fun hne => Bool.eq_false_iff.mpr fun huses => ?_⟩
  exact failIf_eq_ok.mp hrefuse ⟨hne, huses⟩

/-- An override of the engine, up to white space, leaves stored credentials out unless it is
blank or the engine of the context. -/
theorem engineOverrideUsesStoredToken_eq_true (hblank : trimSpace engineOverride ≠ "")
    (hdiffers : ∀ c, ctx = some c → trimSpace c.engine ≠ trimSpace engineOverride) :
    engineOverrideUsesStoredToken engineOverride ctx = true := by
  unfold engineOverrideUsesStoredToken
  simp only [if_neg hblank]
  cases ctx with
  | none => rfl
  | some c =>
    simp only
    split_ifs
    · rfl
    · exact bne_iff_ne.mpr (hdiffers c rfl)

end Sources

variable {c : Credentials Identity}

section Authentication

/-- Where the credentials of a call come from, and that there is only one of them. -/
structure Sourced (deps : ResolveDeps S TransportConfig Dialer Identity Trust)
    (input : ResolveInput S TransportConfig) (ctx : Option (Context S TransportConfig))
    (env : Option (Environment S TransportConfig)) (engineOverride token : String)
    (mtls : Option Identity) : Prop where
  tokenSource : token ≠ "" → token = input.explicitToken ∨
    input.explicitToken = "" ∧ engineOverrideUsesStoredToken engineOverride ctx = false ∧
      ∃ auth found, StoredAuth ctx env auth ∧ tokenFromAuth deps (some auth) = .ok (token, found)
  mtlsSource : ∀ identity, mtls = some identity →
    input.explicitMTLS = true ∧
      mtlsConfigFromAuth deps (some input.explicitAuth) = .ok (some identity) ∨
    input.explicitMTLS = false ∧ engineOverrideUsesStoredToken engineOverride ctx = false ∧
      ∃ auth, StoredAuth ctx env auth ∧ mtlsConfigFromAuth deps (some auth) = .ok (some identity)
  exclusive : token = "" ∨ mtls = none

theorem resolveTokenOnly_sourced (h : resolveTokenOnly deps input ctx env engineOverride = .ok c) :
    Sourced deps input ctx env engineOverride c.token c.mtls := by
  unfold resolveTokenOnly at h
  split_ifs at h with hresolve
  · obtain ⟨stored, hstored, h⟩ := bind_eq_ok.mp h
    obtain ⟨token, hconfine, h⟩ := bind_eq_ok.mp h
    cases h
    obtain ⟨rfl, hengine⟩ := confineToken_eq_ok hconfine
    have hnone : input.explicitToken = "" := by
      rw [Bool.and_eq_true, beq_iff_eq] at hresolve
      exact hresolve.1
    exact ⟨fun hne => .inr ⟨hnone, hengine hne, resolveToken_stored hstored hne⟩, nofun, .inr rfl⟩
  · cases h
    exact ⟨fun _ => .inl rfl, nofun, .inr rfl⟩

/-- The token beside the credentials `auth`: the explicit one, or the one stored there. -/
theorem resolveAuthToken_eq_ok
    (h : resolveAuthToken deps input auth ctx engineOverride = .ok token) :
    token = input.explicitToken ∨
      input.explicitToken = "" ∧ hasMTLS auth = false ∧
        (token ≠ "" → engineOverrideUsesStoredToken engineOverride ctx = false) ∧
        ∃ found, tokenFromAuth deps auth = .ok (token, found) := by
  unfold resolveAuthToken at h
  split_ifs at h with hresolve
  · obtain ⟨⟨stored, found⟩, hstored, hconfine⟩ := bind_eq_ok.mp h
    obtain ⟨rfl, hengine⟩ := confineToken_eq_ok hconfine
    simp only [Bool.and_eq_true, beq_iff_eq, Bool.not_eq_true'] at hresolve
    exact .inr ⟨hresolve.1.1, hresolve.2, hengine, found, hstored⟩
  · cases h
    exact .inl rfl

theorem ResolveInput.auth_eq_some {auth : Auth S} (h : input.auth ctx env = some auth) :
    input.explicitMTLS = true ∧ auth = input.explicitAuth ∨
      input.explicitMTLS = false ∧ StoredAuth ctx env auth := by
  unfold ResolveInput.auth at h
  split_ifs at h with hexplicit
  · cases h
    exact .inl ⟨hexplicit, rfl⟩
  · exact .inr ⟨Bool.eq_false_iff.mpr hexplicit, selectedAuth_stored h⟩

theorem resolveAuthentication_sourced
    (h : resolveAuthentication deps input ctx env engineOverride = .ok c) :
    Sourced deps input ctx env engineOverride c.token c.mtls := by
  unfold resolveAuthentication at h
  split_ifs at h with honly
  · exact resolveTokenOnly_sourced h
  obtain ⟨_, hboth, h⟩ := bind_eq_ok.mp h
  obtain ⟨_, hengine, h⟩ := bind_eq_ok.mp h
  obtain ⟨token, htoken, h⟩ := bind_eq_ok.mp h
  obtain ⟨mtls, hmtls, h⟩ := bind_eq_ok.mp h
  obtain ⟨_, _, h⟩ := bind_eq_ok.mp h
  cases h
  replace hboth := failIf_eq_ok.mp hboth
  replace hengine := failIf_eq_ok.mp hengine
  replace htoken := resolveAuthToken_eq_ok htoken
  refine ⟨fun hne => ?_, ?_, ?_⟩
  · obtain hexplicit | ⟨hnone, hplain, huses, found, hfrom⟩ := htoken
    · exact .inl hexplicit
    · obtain ⟨auth, hauth⟩ := Option.isSome_iff_exists.mp (tokenFromAuth_ne_none hfrom hne)
      rw [hauth] at hfrom
      obtain ⟨_, rfl⟩ | ⟨_, hstored⟩ := ResolveInput.auth_eq_some hauth
      · cases hfrom
        exact absurd rfl hne
      · exact .inr ⟨hnone, huses hne, auth, found, hstored, hfrom⟩
  · rintro identity rfl
    have hhas := mtlsConfigFromAuth_some hmtls
    cases hauth : input.auth ctx env with
    | none =>
      rw [hauth] at hhas
      cases hhas
    | some auth =>
      rw [hauth] at hmtls
      obtain ⟨hexplicit, rfl⟩ | ⟨hexplicit, hstored⟩ := ResolveInput.auth_eq_some hauth
      · exact .inl ⟨hexplicit, hmtls⟩
      · have huses : engineOverrideUsesStoredToken engineOverride ctx = false :=
          Bool.eq_false_iff.mpr fun huses => hengine ⟨hhas, hexplicit, huses⟩
        exact .inr ⟨hexplicit, huses, auth, hstored, hmtls⟩
  · cases mtls with
    | none => exact .inr rfl
    | some identity =>
      have hhas := mtlsConfigFromAuth_some hmtls
      obtain hexplicit | ⟨_, hplain, _⟩ := htoken
      · exact .inl (Classical.byContradiction fun hne => hboth ⟨hhas, .inl (hexplicit ▸ hne)⟩)
      · rw [hhas] at hplain
        cases hplain

end Authentication

variable {e : Environment S TransportConfig}

section Selection

variable {cfg : ConfigFile S TransportConfig} {c : Context S TransportConfig}

theorem ConfigFile.mem_of_contextMatches (h : c ∈ cfg.contextMatches name) :
    c ∈ cfg.contexts ∧ c.name = name := by
  obtain ⟨hmem, hname⟩ := List.mem_filter.mp h
  exact ⟨hmem, beq_iff_eq.mp hname⟩

theorem ConfigFile.findContextByName_some (h : cfg.findContextByName name = .ok (some c)) :
    c ∈ cfg.contexts ∧ c.name = name := by
  refine mem_of_contextMatches ?_
  unfold ConfigFile.findContextByName at h
  split at h <;> cases h
  next hmatches => exact hmatches ▸ List.mem_singleton_self _

theorem ConfigFile.findContextByNameAndAPIURL_some
    (h : cfg.findContextByNameAndAPIURL name apiURL = .ok (some c)) :
    c ∈ cfg.contexts ∧ c.name = name := by
  refine mem_of_contextMatches ?_
  unfold ConfigFile.findContextByNameAndAPIURL at h
  simp only at h
  split at h
  · cases h
  split at h <;> cases h
  next hmatches => exact (List.mem_filter.mp (hmatches ▸ List.mem_singleton_self c)).1

theorem ConfigFile.findContextUnlinked_some
    (h : cfg.findContextUnlinked name = .ok (some c)) : c ∈ cfg.contexts ∧ c.name = name := by
  refine mem_of_contextMatches ?_
  unfold ConfigFile.findContextUnlinked at h
  split at h
  · cases h
  split at h <;> cases h
  next hmatches => exact (List.mem_filter.mp (hmatches ▸ List.mem_singleton_self c)).1

theorem findContext_some (h : findContext cfg name apiURL = .ok (some c)) :
    c ∈ cfg.contexts ∧ c.name = name := by
  unfold findContext at h
  split_ifs at h
  · obtain ⟨found, hfound, h⟩ := bind_eq_ok.mp h
    cases found with
    | none => exact ConfigFile.findContextUnlinked_some h
    | some c' =>
      cases h
      exact ConfigFile.findContextByNameAndAPIURL_some hfound
  · exact ConfigFile.findContextByName_some h

/-- A context is selected exactly when one is named, and it is one of that name. -/
def Selected (input : ResolveInput S TransportConfig) (ctx : Option (Context S TransportConfig)) :
    Prop :=
  input.contextName = "" ∧ ctx = none ∨
    ∃ c ∈ input.config.contexts, c.name = input.contextName ∧ ctx = some c

theorem selectContext_selected (h : selectContext input = .ok (ctx, apiURL)) :
    Selected input ctx := by
  unfold selectContext at h
  by_cases hname : input.contextName = ""
  · rw [if_pos hname] at h
    cases h
    exact .inl ⟨hname, rfl⟩
  rw [if_neg hname] at h
  obtain ⟨found, hfound, h⟩ := bind_eq_ok.mp h
  cases found with
  | none =>
    simp only at h
    split_ifs at h
  | some c =>
    obtain ⟨_, _, h⟩ := bind_eq_ok.mp h
    cases h
    obtain ⟨hmem, hc⟩ := findContext_some hfound
    exact .inr ⟨c, hmem, hc, rfl⟩

theorem ConfigFile.findEnvironment_some (h : cfg.findEnvironment apiURL = some e) :
    e ∈ cfg.environments ∧ normalizeAPIURL e.apiURL = normalizeAPIURL apiURL :=
  ⟨List.mem_of_find?_eq_some h, beq_iff_eq.mp (List.find?_some h :)⟩

theorem selectEnvironment_some (h : selectEnvironment cfg ctx apiURL = some e) :
    e ∈ cfg.environments ∧ normalizeAPIURL e.apiURL = normalizeAPIURL apiURL := by
  unfold selectEnvironment at h
  split at h
  · split_ifs at h
    exact ConfigFile.findEnvironment_some h
  · exact ConfigFile.findEnvironment_some h

end Selection

variable {r : Resolved S TransportConfig Dialer Identity Trust}

section Confinement

namespace Resolved

variable (r : Resolved S TransportConfig Dialer Identity Trust)

/-- The client identity of the result. -/
def identity : Option Identity := r.tlsClientConfig.bind (·.identity)

/-- The credentials are stored in the selected context, or in the entry for the selected API URL
while no context is selected or the context is linked to that URL. -/
def Stored (input : ResolveInput S TransportConfig) (auth : Auth S) : Prop :=
  (∃ c ∈ input.config.contexts, r.context = some c ∧ c.auth = some auth) ∨
    ∃ e ∈ input.config.environments, normalizeAPIURL e.apiURL = normalizeAPIURL r.apiURL ∧
      (∀ c, r.context = some c → normalizeAPIURL c.apiURL = normalizeAPIURL r.apiURL) ∧
      e.auth = some auth

/-- Confinement of the credentials that `Resolve` returns. -/
structure Confined (deps : ResolveDeps S TransportConfig Dialer Identity Trust)
    (input : ResolveInput S TransportConfig) : Prop where
  /-- The context is the selected one. -/
  selected : Selected input r.context
  /-- A token is explicit or stored. -/
  token : r.token ≠ "" → r.token = input.explicitToken ∨
    ∃ auth found, r.Stored input auth ∧ tokenFromAuth deps (some auth) = .ok (r.token, found)
  /-- A client identity is explicit or stored. -/
  mtls : ∀ identity, r.identity = some identity →
    input.explicitMTLS = true ∧
      mtlsConfigFromAuth deps (some input.explicitAuth) = .ok (some identity) ∨
    ∃ auth, r.Stored input auth ∧ mtlsConfigFromAuth deps (some auth) = .ok (some identity)
  /-- With another engine than that of the context, up to white space, only explicit credentials
  are used. -/
  override : trimSpace input.engineOverride ≠ "" →
    (∀ c, r.context = some c → trimSpace c.engine ≠ trimSpace input.engineOverride) →
      (r.token ≠ "" → r.token = input.explicitToken) ∧
        ∀ identity, r.identity = some identity → input.explicitMTLS = true ∧
          mtlsConfigFromAuth deps (some input.explicitAuth) = .ok (some identity)
  /-- There is one kind of credentials. -/
  exclusive : r.token = "" ∨ r.identity = none

end Resolved

theorem mergeTLSClientConfig_identity (mtls : Option Identity) (trust : Option Trust) :
    (mergeTLSClientConfig mtls trust).bind (·.identity) = mtls := by
  cases mtls <;> cases trust <;> rfl

/-- What `Resolve` returns was selected and authenticated by its two parts. -/
theorem resolve_eq_ok (h : resolve deps input = .ok r) :
    Selected input r.context ∧
      r.environment = selectEnvironment input.config r.context r.apiURL ∧
      Sourced deps input r.context r.environment input.engineOverride r.token r.identity := by
  obtain ⟨⟨ctx, apiURL⟩, hselect, h⟩ := bind_eq_ok.mp h
  obtain ⟨_, _, h⟩ := bind_eq_ok.mp h
  obtain ⟨_, _, h⟩ := bind_eq_ok.mp h
  obtain ⟨_, _, h⟩ := bind_eq_ok.mp h
  obtain ⟨_, _, h⟩ := bind_eq_ok.mp h
  obtain ⟨credentials, hauth, h⟩ := bind_eq_ok.mp h
  obtain ⟨_, _, h⟩ := bind_eq_ok.mp h
  obtain ⟨_, _, h⟩ := bind_eq_ok.mp h
  obtain ⟨_, _, h⟩ := bind_eq_ok.mp h
  obtain ⟨_, _, h⟩ := bind_eq_ok.mp h
  obtain ⟨_, _, h⟩ := bind_eq_ok.mp h
  obtain ⟨_, _, h⟩ := bind_eq_ok.mp h
  obtain ⟨_, _, h⟩ := bind_eq_ok.mp h
  cases h
  refine ⟨selectContext_selected hselect, rfl, ?_⟩
  rw [Resolved.identity, mergeTLSClientConfig_identity]
  exact resolveAuthentication_sourced hauth

/-- Credentials of the selected environment are stored for the selected API URL. -/
theorem StoredAuth.resolved {auth : Auth S} (hselected : Selected input r.context)
    (henv : r.environment = selectEnvironment input.config r.context r.apiURL)
    (h : StoredAuth r.context r.environment auth) : r.Stored input auth := by
  obtain ⟨c, hc, hauth⟩ | ⟨e, he, happlies, hauth⟩ := h
  · obtain ⟨_, hnone⟩ | ⟨c', hmem, _, hc'⟩ := hselected
    · rw [hnone] at hc
      cases hc
    · obtain rfl : c' = c := Option.some.inj (hc'.symm.trans hc)
      exact .inl ⟨c', hmem, hc, hauth⟩
  · obtain ⟨hmem, hurl⟩ := selectEnvironment_some (henv.symm.trans he)
    refine .inr ⟨e, hmem, hurl, fun c hc => ?_, hauth⟩
    rw [hc] at happlies
    exact (beq_iff_eq.mp happlies).trans hurl

theorem resolve_confined {r : Resolved S TransportConfig Dialer Identity Trust}
    (h : resolve deps input = .ok r) : r.Confined deps input := by
  obtain ⟨hselected, henv, hsourced⟩ := resolve_eq_ok h
  refine ⟨hselected, fun hne => ?_, fun identity hidentity => ?_, fun hblank hdiffers => ?_,
    hsourced.exclusive⟩
  · obtain hexplicit | ⟨_, _, auth, found, hstored, hfrom⟩ := hsourced.tokenSource hne
    · exact .inl hexplicit
    · exact .inr ⟨auth, found, hstored.resolved hselected henv, hfrom⟩
  · obtain hexplicit | ⟨_, _, auth, hstored, hfrom⟩ := hsourced.mtlsSource identity hidentity
    · exact .inl hexplicit
    · exact .inr ⟨auth, hstored.resolved hselected henv, hfrom⟩
  · have huses := engineOverrideUsesStoredToken_eq_true hblank hdiffers
    refine ⟨fun hne => ?_, fun identity hidentity => ?_⟩
    · obtain hexplicit | ⟨_, hunused, _⟩ := hsourced.tokenSource hne
      · exact hexplicit
      · rw [huses] at hunused
        cases hunused
    · obtain hexplicit | ⟨_, hunused, _⟩ := hsourced.mtlsSource identity hidentity
      · exact hexplicit
      · rw [huses] at hunused
        cases hunused

/-- Packages that load nothing and accept everything. -/
def sampleDeps : ResolveDeps Unit Unit Unit Unit Unit where
  tokenFromKeychainStorage _ := .ok ("", false)
  loadMTLSStorageConfig _ := .ok ()
  x509KeyPair _ _ := .ok ()
  loadX509KeyPair _ _ := .ok ()
  isTokenExpired _ := .ok false
  normalizeRegion region := .ok region
  resolveControlPlaneHeaders _ _ := .ok []
  credentialID _ _ := .ok ""
  mergeTransport _ own := own
  overrideTransport _ _ config := .ok config
  flattenTransport _ := .ok ()
  engineTLSConfig _ := .ok none
  autoTransport := ()

/-- The default context `dev` stores a token for its engine; `flagEngine` overrides the engine. -/
def sampleInput (flagEngine : String) : ResolveInput Unit Unit where
  config := {
    defaults := some "dev"
    environments := []
    contexts := [{
      name := "dev"
      apiURL := ""
      engine := "engine.example:443"
      projectEndpoint := ""
      region := ""
      auth := some ⟨some ⟨some ⟨"inline", "", "secret", "", ""⟩⟩, none⟩
      transport := none }] }
  flagAPIURL := ""
  flagContext := ""
  flagEngine := flagEngine
  flagToken := ""
  flagMTLSCert := ""
  flagMTLSKey := ""
  flagRegion := ""
  envAPIURL := ""
  envContext := ""
  envEngine := ""
  envToken := ""
  envMTLSCert := ""
  envMTLSKey := ""
  envRegion := ""
  flagTunnelTransport := ""
  envTunnelTransport := ""
  envUseQUIC := none
  envControlPlaneHeaders := ""
  ignoreDefaultContext := false
  requireToken := false
  requireEngine := false
  resolveToken := true
  tokenOnly := false

/-- The stored token is returned for the engine of the context. -/
theorem resolve_confined_sample :
    ∃ r, resolve sampleDeps (sampleInput "") = .ok r ∧ r.token = "secret" ∧
      r.Confined sampleDeps (sampleInput "") :=
  ⟨_, rfl, rfl, resolve_confined rfl⟩

/-- The stored token is returned also for an override that is spelled with a space at its end. -/
theorem resolve_override_spelling :
    ∃ r, resolve sampleDeps (sampleInput "engine.example:443 ") = .ok r ∧
      (sampleInput "engine.example:443 ").engineOverride ≠ "" ∧
      (∀ c, r.context = some c → c.engine ≠ (sampleInput "engine.example:443 ").engineOverride) ∧
      r.token = "secret" ∧ (sampleInput "engine.example:443 ").explicitToken = "" := by
  refine ⟨_, rfl, by decide, ?_, rfl, rfl⟩
  rintro c ⟨⟩
  decide

end Confinement

end Rstream.Config
