import Rstream.Mtlsexec.Provider

/-!
# Containment of the helper

Whatever the helper does, the certificates that the provider returns are the pinned one
and the signatures are valid under it. The invariant says what each call may know where
it stands: an identity is the enrolled one, a signature in the making has the algorithm
and the digest that were asked for, and the values in the two channels are those that
the calls between a send and a receive have put there.
-/

namespace Rstream.Mtlsexec

open Go Function Option

section Invariant

variable (cfg : Config)

/-- The helper is run for the load, or for a signature of the enrolled identity. -/
def Task.Sound : Task → Prop
  | .identity _ => True
  | .sign signing _ =>
    Enrolled cfg.lib cfg.certificateSHA256 signing.id ∧ signing.Prepared cfg.lib.toPrimitives

/-- What holds where a call stands. -/
def Phase.Sound : Phase → Prop
  | .gateWait task | .gateHeld task | .running task .. => task.Sound cfg
  | .unloading _ (.ok id) | .loaded _ id | .checking id _ =>
    Enrolled cfg.lib cfg.certificateSHA256 id
  | _ => True

/-- A certificate is the pinned one, and a signature is valid under it for the digest and the
algorithm that were asked for. -/
def Output.Contained : Output → Prop
  | .certificate id => Enrolled cfg.lib cfg.certificateSHA256 id
  | .signature signing sig =>
    Enrolled cfg.lib cfg.certificateSHA256 signing.id ∧
      Verifies cfg.lib.toPrimitives signing.id.leaf.publicKey signing.asked.opts
        (signing.asked.digest cfg.lib.toPrimitives) sig
  | .leaf cert => cfg.lib.sum sha256 cert.raw = cfg.certificateSHA256

/-- The invariant of a provider. -/
structure Provider.Sound (s : Provider) : Prop where
  gate : s.gate.HeldBy fun i => (s.calls i).phase.holdsGate = true
  gateCapacity : s.gate.capacity = cfg.maxConcurrency
  loading : s.loading.HeldBy fun i => (s.calls i).phase.holdsLoading = true
  loadingCapacity : s.loading.capacity = 1
  identity : ∀ id, s.identity = some id → Enrolled cfg.lib cfg.certificateSHA256 id
  calls : ∀ i, (s.calls i).phase.Sound cfg
  outputs : ∀ o ∈ s.outputs, o.Contained cfg

/-- A channel operation that agrees with who holds a value before and after it. -/
def SemOp.Fits : SemOp → (before after : Bool) → Prop
  | .keep, before, after => after = before
  | .acquire, before, after => before = false ∧ after = true
  | .release, before, after => before = true ∧ after = false

/-- What an effect of a call in a phase keeps. -/
structure Effect.Allowed (phase : Phase) (e : Effect) : Prop where
  gate : e.gate.Fits phase.holdsGate e.call.phase.holdsGate
  loading : e.loading.Fits phase.holdsLoading e.call.phase.holdsLoading
  identity : ∀ id, e.identity = some id → Enrolled cfg.lib cfg.certificateSHA256 id
  sound : e.call.phase.Sound cfg
  outputs : ∀ o ∈ e.outputs, o.Contained cfg

end Invariant

section Steps

variable {cfg : Config} {s s' : Provider} {c : Call} {e : Effect} {phase : Phase}

/-- A call goes on, stores nothing and returns nothing. -/
theorem move_allowed {c' : Call} {gate loading : SemOp}
    (hgate : gate.Fits phase.holdsGate c'.phase.holdsGate)
    (hloading : loading.Fits phase.holdsLoading c'.phase.holdsLoading)
    (hsound : c'.phase.Sound cfg) : Effect.Allowed cfg phase ⟨c', gate, loading, none, []⟩ where
  gate := hgate
  loading := hloading
  identity _ h := by cases h
  sound := hsound
  outputs _ h := by cases h

theorem goTo_allowed {phase' : Phase} (hgate : phase'.holdsGate = phase.holdsGate)
    (hloading : phase'.holdsLoading = phase.holdsLoading) (hsound : phase'.Sound cfg) :
    (c.goTo phase').Allowed cfg phase :=
  move_allowed hgate hloading hsound

theorem fails_allowed {err : Error} (hgate : phase.holdsGate = false)
    (hloading : phase.holdsLoading = false) : (c.fails err).Allowed cfg phase :=
  goTo_allowed hgate.symm hloading.symm trivial

theorem returns_allowed {output : Output} (hgate : phase.holdsGate = false)
    (hloading : phase.holdsLoading = false) (houtput : output.Contained cfg) :
    (c.returns output).Allowed cfg phase where
  gate := hgate.symm
  loading := hloading.symm
  identity _ h := by cases h
  sound := trivial
  outputs o ho := by
    rw [List.mem_singleton.mp ho]
    exact houtput

theorem getClientCertificate_allowed (request : Option CertificateRequestInfo)
    (hgate : phase.holdsGate = false) (hloading : phase.holdsLoading = false) :
    (c.getClientCertificate request).Allowed cfg phase := by
  unfold Call.getClientCertificate
  split
  · exact fails_allowed hgate hloading
  · split_ifs
    · exact fails_allowed hgate hloading
    · exact fails_allowed hgate hloading
    · exact goTo_allowed hgate.symm hloading.symm trivial

theorem beginSign_allowed {id : Identity} (q : SignRequest) (check : Option Checking)
    (hid : Enrolled cfg.lib cfg.certificateSHA256 id) (hgate : phase.holdsGate = false)
    (hloading : phase.holdsLoading = false) : (c.beginSign cfg id q check).Allowed cfg phase := by
  unfold Call.beginSign
  cases hprepare : prepareSign cfg.lib.toPrimitives id q with
  | error err => exact fails_allowed hgate hloading
  | ok signing =>
    obtain ⟨rfl, _, hprepared⟩ := prepareSign_eq_ok hprepare
    exact goTo_allowed hgate.symm hloading.symm ⟨hid, hprepared⟩

/-- The end of a run leaves `loading` as it is, and a signature it returns is valid. -/
theorem runEnds_allowed {task : Task} (result : Except Error Response) (htask : task.Sound cfg) :
    (c.runEnds cfg task result).Allowed cfg (.gateWait task) := by
  cases task with
  | identity goal => exact goTo_allowed rfl rfl trivial
  | sign signing check =>
    obtain ⟨hid, hprepared⟩ := htask
    simp only [Call.runEnds]
    cases hsigned : result.bind (finishSign cfg.lib.toPrimitives signing) with
    | error err => exact fails_allowed rfl rfl
    | ok signature =>
      obtain ⟨response, _, hfinish⟩ := bind_eq_ok.mp hsigned
      have hcontained : (Output.signature signing signature).Contained cfg :=
        ⟨hid, finishSign_verifies hprepared hfinish⟩
      cases check with
      | none => exact returns_allowed rfl rfl hcontained
      | some check =>
        refine ⟨rfl, rfl, fun _ h => (by cases h), hid, fun o ho => ?_⟩
        rw [List.mem_singleton.mp ho]
        exact hcontained

/-- When the run had begun, its end also gives the value in `gate` back. -/
theorem Effect.Allowed.releaseGate {task : Task} (h : e.Allowed cfg (.gateWait task))
    (hkeep : e.gate = .keep) (hgate : phase.holdsGate = true)
    (hloading : phase.holdsLoading = (Phase.gateWait task).holdsLoading) :
    Effect.Allowed cfg phase { e with gate := .release } where
  gate := by
    have hfits := h.gate
    rw [hkeep] at hfits
    exact ⟨hgate, hfits⟩
  loading := by
    rw [hloading]
    exact h.loading
  identity := h.identity
  sound := h.sound
  outputs := h.outputs

/-- `run` itself does not touch `gate` before its deferred receive. -/
theorem runEnds_gate (task : Task) (result : Except Error Response) :
    (c.runEnds cfg task result).gate = .keep := by
  unfold Call.runEnds
  split
  · rfl
  · split
    · rfl
    · split <;> rfl

theorem look_allowed {cached : Option Identity} (h : c.look cached = some e)
    (hcached : ∀ id, cached = some id → Enrolled cfg.lib cfg.certificateSHA256 id) :
    e.Allowed cfg c.phase := by
  unfold Call.look at h
  split at h
  next goal id hphase =>
    cases h
    rw [hphase]
    exact goTo_allowed rfl rfl (hcached id rfl)
  next goal hphase =>
    cases h
    rw [hphase]
    exact goTo_allowed rfl rfl trivial
  next goal id hphase =>
    cases h
    rw [hphase]
    exact goTo_allowed rfl rfl (hcached id rfl)
  next goal hphase =>
    cases h
    rw [hphase]
    exact goTo_allowed rfl rfl trivial
  next => cases h

theorem acquireLoading_allowed (h : c.acquireLoading = some e) : e.Allowed cfg c.phase := by
  unfold Call.acquireLoading at h
  split at h
  next goal hphase =>
    cases h
    rw [hphase]
    exact move_allowed rfl ⟨rfl, rfl⟩ trivial
  next => cases h

section

variable (hsound : c.phase.Sound cfg)
include hsound

theorem acquireGate_allowed (h : c.acquireGate = some e) : e.Allowed cfg c.phase := by
  unfold Call.acquireGate at h
  split at h
  next task hphase =>
    cases h
    rw [hphase] at hsound ⊢
    exact move_allowed ⟨rfl, rfl⟩ (by cases task <;> rfl) hsound
  next => cases h

theorem ctxDone_allowed (h : c.ctxDone cfg = some e) : e.Allowed cfg c.phase := by
  unfold Call.ctxDone at h
  split at h
  next goal err hphase _ =>
    cases h
    rw [hphase]
    exact fails_allowed rfl rfl
  next task err hphase _ =>
    cases h
    rw [hphase] at hsound ⊢
    exact runEnds_allowed _ hsound
  next => cases h

theorem start_allowed {host : Host} (h : c.start cfg host = some e) : e.Allowed cfg c.phase := by
  unfold Call.start at h
  split at h
  next task hphase =>
    rw [hphase] at hsound ⊢
    split at h
    · cases h
      exact (runEnds_allowed _ hsound).releaseGate (runEnds_gate ..) rfl (by cases task <;> rfl)
    · cases h
      exact goTo_allowed rfl (by cases task <;> rfl) hsound
  next => cases h

theorem printStdout_allowed {data : Bytes}
    (h : c.printStdout data = some e) : e.Allowed cfg c.phase := by
  unfold Call.printStdout at h
  split at h
  next task launch stdout stderr hphase =>
    rw [hphase] at hsound ⊢
    split_ifs at h
    cases h
    exact goTo_allowed rfl (by cases task <;> rfl) hsound
  next => cases h

theorem printStderr_allowed {data : Bytes}
    (h : c.printStderr data = some e) : e.Allowed cfg c.phase := by
  unfold Call.printStderr at h
  split at h
  next task launch stdout stderr hphase =>
    rw [hphase] at hsound ⊢
    split_ifs at h
    cases h
    exact goTo_allowed rfl (by cases task <;> rfl) hsound
  next => cases h

theorem finish_allowed {result : RunResult}
    (h : c.finish cfg result = some e) : e.Allowed cfg c.phase := by
  unfold Call.finish at h
  split at h
  next task launch stdout stderr hphase =>
    cases h
    rw [hphase] at hsound ⊢
    exact (runEnds_allowed _ hsound).releaseGate (runEnds_gate ..) rfl (by cases task <;> rfl)
  next => cases h

end

theorem store_allowed {now : Int} (h : c.store cfg now = some e) : e.Allowed cfg c.phase := by
  unfold Call.store at h
  split at h
  next goal result hphase =>
    rw [hphase]
    split at h
    · cases h
      exact goTo_allowed rfl rfl trivial
    next id hparse =>
      cases h
      obtain ⟨response, _, hparse⟩ := bind_eq_ok.mp hparse
      have hid := parseIdentity_enrolled hparse
      refine ⟨rfl, rfl, fun id' hid' => ?_, hid, fun _ h => by cases h⟩
      cases hid'
      exact hid
  next => cases h

section

variable (hsound : c.phase.Sound cfg)
include hsound

theorem releaseLoading_allowed (h : c.releaseLoading = some e) : e.Allowed cfg c.phase := by
  unfold Call.releaseLoading at h
  split at h
  next goal err hphase =>
    cases h
    rw [hphase]
    exact move_allowed rfl ⟨rfl, rfl⟩ trivial
  next goal id hphase =>
    cases h
    rw [hphase] at hsound ⊢
    exact move_allowed rfl ⟨rfl, rfl⟩ hsound
  next => cases h

theorem present_allowed {now : Int} (h : c.present cfg now = some e) : e.Allowed cfg c.phase := by
  unfold Call.present at h
  split at h
  next request id hphase =>
    rw [hphase] at hsound ⊢
    split at h
    · cases h
      exact fails_allowed rfl rfl
    · split_ifs at h
      · cases h
        exact returns_allowed rfl rfl hsound
      · cases h
        exact fails_allowed rfl rfl
  next => cases h

theorem challenge_allowed {result : Except String Bytes}
    (h : c.challenge result = some e) : e.Allowed cfg c.phase := by
  unfold Call.challenge at h
  split at h
  next hphase =>
    cases h
    rw [hphase]
    exact fails_allowed rfl rfl
  next hphase =>
    cases h
    rw [hphase] at hsound ⊢
    exact goTo_allowed rfl rfl hsound
  next => cases h

theorem nextCheck_allowed (h : c.nextCheck cfg = some e) : e.Allowed cfg c.phase := by
  unfold Call.nextCheck at h
  split at h
  next id challenge a rest hphase =>
    rw [hphase] at hsound ⊢
    split_ifs at h
    · cases h
      exact beginSign_allowed _ _ hsound rfl rfl
    · cases h
      exact goTo_allowed rfl rfl hsound
  next id challenge hphase =>
    rw [hphase] at hsound ⊢
    split at h
    next cert hcert =>
      cases h
      obtain ⟨fields, _, rfl⟩ := map_eq_some_iff.mp hcert
      exact returns_allowed rfl rfl hsound.pinned
    next =>
      cases h
      exact fails_allowed rfl rfl
  next => cases h

end

theorem begin_idle {parent : Option ContextError} {c' : Call} (h : c.begin parent = some c') :
    c.phase = .idle ∧ c'.phase = .idle := by
  unfold Call.begin at h
  split at h
  next hphase =>
    cases h
    exact ⟨hphase, rfl⟩
  next => cases h

/-- Every action of a call keeps what its effect on the others has to keep. -/
theorem act_allowed (hs : s.Sound cfg) {i : Nat} {action : Action}
    (h : s.act cfg (s.calls i) action = some e) : e.Allowed cfg (s.calls i).phase := by
  have hsound := hs.calls i
  cases action with
  | getClientCertificate request parent =>
    obtain ⟨c, hbegin, rfl⟩ := map_eq_some_iff.mp h
    rw [(begin_idle hbegin).1]
    exact getClientCertificate_allowed request rfl rfl
  | check parent =>
    obtain ⟨c, hbegin, rfl⟩ := map_eq_some_iff.mp h
    rw [(begin_idle hbegin).1]
    exact goTo_allowed rfl rfl trivial
  | sign output q parent =>
    obtain ⟨c, hbegin, h⟩ := bind_eq_some_iff.mp h
    obtain ⟨id, hsigner, rfl⟩ := map_eq_some_iff.mp h
    rw [(begin_idle hbegin).1]
    refine beginSign_allowed q none ?_ rfl rfl
    unfold Provider.signer at hsigner
    split at hsigner
    next houtput =>
      cases hsigner
      exact hs.outputs _ (List.mem_of_getElem? houtput)
    next => cases hsigner
  | cancel | expire =>
    cases h
    exact goTo_allowed rfl rfl hsound
  | look => exact look_allowed h hs.identity
  | acquireLoading => exact acquireLoading_allowed h
  | acquireGate => exact acquireGate_allowed hsound h
  | ctxDone => exact ctxDone_allowed hsound h
  | start host => exact start_allowed hsound h
  | printStdout data => exact printStdout_allowed hsound h
  | printStderr data => exact printStderr_allowed hsound h
  | finish result => exact finish_allowed hsound h
  | store now => exact store_allowed h
  | releaseLoading => exact releaseLoading_allowed hsound h
  | present now => exact present_allowed hsound h
  | challenge result => exact challenge_allowed hsound h
  | nextCheck => exact nextCheck_allowed hsound h

/-- The values in a channel stay those of its holders. -/
theorem SemOp.Fits.heldBy {holds : Phase → Bool} {op : SemOp} {sem sem' : Semaphore}
    {calls : Nat → Call} {i : Nat} (hfits : op.Fits (holds (calls i).phase) (holds c.phase))
    (h : sem.HeldBy fun j => holds (calls j).phase = true) (happly : op.apply sem = some sem') :
    sem'.HeldBy fun j => holds (update calls i c j).phase = true := by
  have hother : ∀ j, j ≠ i → (update calls i c j).phase = (calls j).phase := by
    intro j hj
    rw [update_of_ne hj]
  have hself : (update calls i c i).phase = c.phase := by rw [update_self]
  cases op with
  | keep =>
    cases happly
    refine h.congr fun j => ?_
    by_cases hj : j = i
    · rw [hj, hself, show holds c.phase = holds (calls i).phase from hfits]
    · rw [hother j hj]
  | acquire =>
    obtain ⟨hbefore, hafter⟩ := hfits
    refine h.acquire happly (i := i) (by simp [hbefore]) fun j => ?_
    by_cases hj : j = i
    · simp [hj, hafter]
    · simp [hj]
  | release =>
    obtain ⟨hbefore, hafter⟩ := hfits
    refine h.release happly (i := i) hbefore fun j => ?_
    by_cases hj : j = i
    · simp [hj, hafter]
    · simp [hj]

theorem SemOp.apply_capacity {op : SemOp} {sem sem' : Semaphore} (h : op.apply sem = some sem') :
    sem'.capacity = sem.capacity := by
  cases op with
  | keep =>
    cases h
    rfl
  | acquire =>
    simp only [SemOp.apply, Semaphore.acquire] at h
    split_ifs at h
    cases h
    rfl
  | release =>
    simp only [SemOp.apply, Semaphore.release] at h
    split_ifs at h
    cases h
    rfl

theorem Provider.Sound.apply (hs : s.Sound cfg) {i : Nat} (he : e.Allowed cfg (s.calls i).phase)
    (h : s.apply i e = some s') : s'.Sound cfg := by
  obtain ⟨gate, hgate, h⟩ := bind_eq_some_iff.mp h
  obtain ⟨loading, hloading, rfl⟩ := map_eq_some_iff.mp h
  refine ⟨he.gate.heldBy hs.gate hgate, (SemOp.apply_capacity hgate).trans hs.gateCapacity,
    he.loading.heldBy hs.loading hloading, (SemOp.apply_capacity hloading).trans hs.loadingCapacity,
    fun id hid => ?_, fun j => ?_, fun o ho => ?_⟩
  · rcases or_eq_some_iff.mp hid with hstored | ⟨_, hcached⟩
    · exact he.identity id hstored
    · exact hs.identity id hcached
  · simp only
    by_cases hj : j = i
    · rw [hj, update_self]
      exact he.sound
    · rw [update_of_ne hj]
      exact hs.calls j
  · exact (List.mem_append.mp ho).elim (hs.outputs o) (he.outputs o)

theorem Provider.Sound.step (hs : s.Sound cfg) {event : Nat × Action}
    (h : s.step cfg event = some s') : s'.Sound cfg := by
  obtain ⟨e, hact, happly⟩ := bind_eq_some_iff.mp h
  exact hs.apply (act_allowed hs hact) happly

theorem Provider.new_sound : (new cfg).Sound cfg where
  gate := .make nofun
  gateCapacity := rfl
  loading := .make nofun
  loadingCapacity := rfl
  identity _ h := by cases h
  calls _ := trivial
  outputs _ h := by cases h

theorem Provider.run_sound {events : List (Nat × Action)} (h : run cfg events = some s) :
    s.Sound cfg := by
  have hfold : ∀ {s₀ : Provider}, s₀.Sound cfg → events.foldlM (step cfg) s₀ = some s →
      s.Sound cfg := by
    clear h
    induction events with
    | nil =>
      intro s₀ h₀ hrun
      cases hrun
      exact h₀
    | cons event events ih =>
      intro s₀ h₀ hrun
      rw [List.foldlM_cons] at hrun
      obtain ⟨s₁, hstep, hrest⟩ := bind_eq_some_iff.mp hrun
      exact ih (h₀.step hstep) hrest
  exact hfold new_sound h

end Steps

section Containment

/-- What a provider never gives up, whatever its helper does. -/
structure Provider.Contains (cfg : Config) (s : Provider) : Prop where
  /-- A returned chain starts with the certificate of the pinned fingerprint. -/
  chain : ∀ id, .certificate id ∈ s.outputs →
    ∃ der, id.chain.head? = some der ∧ cfg.lib.sum sha256 der = cfg.certificateSHA256
  /-- So does a certificate that `Check` returns. -/
  leaf : ∀ cert, .leaf cert ∈ s.outputs → cfg.lib.sum sha256 cert.raw = cfg.certificateSHA256
  /-- A returned signature is valid under the key of the pinned certificate for the digest and the
  algorithm that were asked for. -/
  signature : ∀ signing signature, .signature signing signature ∈ s.outputs →
    cfg.lib.sum sha256 signing.id.leaf.raw = cfg.certificateSHA256 ∧
      Verifies cfg.lib.toPrimitives signing.id.leaf.publicKey signing.asked.opts
        (signing.asked.digest cfg.lib.toPrimitives) signature
  /-- No more helper processes run at once than the options allow. -/
  processes : {i | (s.calls i).phase.isRunning = true}.encard ≤ cfg.maxConcurrency
  /-- At most one load of the identity is in flight. -/
  loads : ∀ i j, (s.calls i).phase.holdsLoading = true → (s.calls j).phase.holdsLoading = true →
    i = j

/-- The helper is contained in every run. -/
theorem Provider.run_contains {cfg : Config} {events : List (Nat × Action)} {s : Provider}
    (h : run cfg events = some s) : s.Contains cfg := by
  have hs := run_sound h
  refine ⟨fun id hid => ?_, fun cert hcert => hs.outputs _ hcert, fun signing signature hsig => ?_,
    ?_, fun i j hi hj => ?_⟩
  · have henrolled : Enrolled cfg.lib cfg.certificateSHA256 id := hs.outputs _ hid
    exact ⟨_, henrolled.leaf, henrolled.pinned⟩
  · obtain ⟨henrolled, hverifies⟩ : (Output.signature signing signature).Contained cfg :=
      hs.outputs _ hsig
    exact ⟨henrolled.pinned, hverifies⟩
  · rw [← hs.gateCapacity]
    refine hs.gate.encard_le fun j hj => ?_
    cases hphase : (s.calls j).phase <;> rw [hphase] at hj <;> first | rfl | cases hj
  · have hone := hs.loading.encard_le fun _ => id
    rw [hs.loadingCapacity, Nat.cast_one, Set.encard_le_one_iff] at hone
    exact hone i j hi hj

end Containment

namespace ProviderSample

/-- A library with one certificate, whose key signs a digest by putting a byte before it. -/
def lib : Library where
  sum _ data := data
  verifyASN1 _ _ _ _ := false
  verifyPSS _ _ _ _ _ _ := false
  verifyPKCS1v15 _ _ _ _ _ := false
  verifyEd25519 _ digest signature := signature == 7 :: digest
  pemDecode _ := some (⟨"CERTIFICATE", [], [1, 2]⟩, "")
  parseFields _ := some ⟨.ed25519 (List.replicate 32 0), 0, 100, 1, [2], []⟩
  supportsCertificate _ _ := true

def cfg : Config := ⟨lib, false, [], [1, 2], 1⟩

/-- An executable file that others cannot write. -/
def host : Host := ⟨some ⟨true, 0o755⟩, fun _ => none⟩

/-- What the helper prints for the identity. -/
def identityText : String :=
  "\x7b\"version\":1,\"certificateChain\":\"-----BEGIN CERTIFICATE-----\"," ++
    "\"capabilities\":[\x7b\"algorithm\":\"ed25519\",\"inputs\":[\"message\"]\x7d]\x7d"

/-- What the helper prints for the signature of the bytes 3 and 4. -/
def signatureText : String := "\x7b\"version\":1,\"signature\":\"BwME\"\x7d"

/-- A handshake loads the identity and signs two bytes. -/
def events : List (Nat × Action) :=
  [(0, .getClientCertificate (some ⟨0x0304, true, [], [0x0807]⟩) none), (0, .look),
    (0, .acquireLoading), (0, .look), (0, .acquireGate), (0, .start host),
    (0, .printStdout (utf8 identityText)), (0, .finish .ok), (0, .store 50), (0, .releaseLoading),
    (0, .present 50), (1, .sign 0 ⟨[3, 4], .hash 0, false⟩ none), (1, .acquireGate),
    (1, .start host), (1, .printStdout (utf8 signatureText)), (1, .finish .ok)]

/-- The handshake gets its certificate and its signature, and the helper is contained. -/
theorem run_contains_sample :
    ∃ s, Provider.run cfg events = some s ∧ s.outputs.length = 2 ∧ s.Contains cfg := by
  have hlength : (Provider.run cfg events).map (·.outputs.length) = some 2 := by decide +kernel
  obtain ⟨s, hrun, houtputs⟩ := map_eq_some_iff.mp hlength
  exact ⟨s, hrun, houtputs, Provider.run_contains hrun⟩

end ProviderSample

end Rstream.Mtlsexec
