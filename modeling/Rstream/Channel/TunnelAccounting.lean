import Rstream.Channel.PendingOpens

/-!
# Accounting for opened tunnels

A tunnel the engine reports as opened belongs to the caller of its request, or the
channel ends and the engine closes it. The report finds its request pending and the
result stays in the channel of the request until the caller takes it. The one thing
that loses a tunnel is an answer that finds nobody waiting or carries an ID the
channel refuses.
-/

namespace Rstream.Channel

open Rstream.Core Function List ControlProg Control

namespace ControlPoint

/-- A call of `CreateTunnel` whose request has not gone over the wire. -/
@[simp, grind =]
def Unsent : ControlPoint → Prop
  | validating | registering | refusing _ | locking | sending => True
  | givingUp _ failed => failed = false
  | ended again => again = true
  | _ => False

/-- A call of `CreateTunnel` that can still return a tunnel. -/
@[simp, grind =]
def Undecided : ControlPoint → Prop
  | validating | registering | locking | sending | writing | awaiting | cancelling | taking => True
  | ended again => again = true
  | _ => False

/-- A call of `CreateTunnel` whose request is not pending. -/
@[simp, grind =]
def Gone : ControlPoint → Prop
  | validating | registering | refusing _ | erroring _ | cleaning _ _ | failing _ => True
  | ended again => again = true
  | _ => False

end ControlPoint

/-- The channel is closed or a call is about to close it. -/
def Control.Ending (s : Control) : Prop := s.closed = true ∨ ∃ w, s.closers w = true

/-- A tunnel is with the caller of its request, or on the way to it. -/
def Control.Held (s : Control) (n : Nat) (tunnel : OpenedTunnel) : Prop :=
  s.outcome n = some (.ok tunnel) ∨
    s.outcome n = none ∧ (s.respCh n).buffer = some (.ok tunnel)

/-- A tunnel is reported only to a request that waits for it, unless the channel ends. -/
def Answered (s s' : Control) : Prop :=
  ∀ n props, s'.reports = s.reports ++ [(n, props)] → s'.Ending ∨ s.Deliverable n props

/-- Every reported tunnel is accounted for. -/
structure Accounts (at₁ : ControlThread → ControlPoint) (s : Control) : Prop where
  lifecycle : s.lifecycleCtx = true
  pending : ∀ n ∈ s.pendingTunnels, s.outcome n = none
  closing : s.closing = true → s.Ending
  reports : ∀ n props, (n, props) ∈ s.reports →
    s.Ending ∨ s.sent n = true ∧ ∃ tunnel, props.id = some tunnel.tunnelID ∧ s.Held n tunnel
  unsent : ∀ n, (at₁ (.create n)).Unsent → s.sent n = false
  undecided : ∀ n, (at₁ (.create n)).Undecided → s.outcome n = none
  gone : ∀ n, (at₁ (.create n)).Gone → n ∉ s.pendingTunnels

variable {at₁ : ControlThread → ControlPoint} {s s' : Control} {t : ControlThread}
  {p : ControlPoint}

theorem Control.ending_setCloser (w : Closer) : (s.setCloser w true).Ending :=
  .inr ⟨w, update_self ..⟩

/-- Handling a message leaves the reports, the outcomes and the marks alone. -/
theorem Handles.frame {msg : Except String ServerMessage} {s₁ : Control}
    (h : Handles msg s s₁) :
    s₁.lifecycleCtx = s.lifecycleCtx ∧ s₁.sent = s.sent ∧ s₁.outcome = s.outcome ∧
      s₁.reports = s.reports ∧ (s₁.Ending ↔ s.Ending) := by
  cases h <;> exact ⟨rfl, rfl, rfl, rfl, Iff.rfl⟩

namespace Accounts

/-- A caller that goes on knows no more than before. -/
theorem goto (h : Accounts at₁ s) (hp : ∀ n, t = .create n → (p.Unsent → (at₁ t).Unsent) ∧
    (p.Undecided → (at₁ t).Undecided) ∧ (p.Gone → (at₁ t).Gone)) :
    Accounts (update at₁ t p) s := by
  refine { h with unsent := ?_, undecided := ?_, gone := ?_ } <;>
    simp only [update_apply] <;> grind -linarith [cases Accounts]

theorem pass (h : Accounts at₁ s) (hpass : ControlPass s t (at₁ t) p) :
    Accounts (update at₁ t p) s := by
  refine h.goto ?_
  generalize hq : at₁ t = q at hpass
  cases hpass <;> grind

/-- A pending request has no result yet, so no tunnel was reported to it. -/
theorem ending_of_pending {n : Nat} {props : OpenedProperties} (h : Accounts at₁ s)
    (hrequests : Requests at₁ s) (hn : n ∈ s.pendingTunnels) (hreport : (n, props) ∈ s.reports) :
    s.Ending := by
  have hmake := hrequests.untouched n (.inl hn)
  have hnone := h.pending n hn
  have hreports := h.reports n props hreport
  grind [Held, Go.Chan.make]

section Messages

variable {msg : Except String ServerMessage} {s₁ : Control}

theorem handles (h : Accounts at₁ s) (hrequests : Requests at₁ s) (hhandles : Handles msg s s₁) :
    Accounts at₁ s₁ := by
  have hpending : ∀ n props, n ∈ s.pendingTunnels → (n, props) ∈ s.reports → s.Ending :=
    fun n props => h.ending_of_pending hrequests
  clear hrequests
  cases hhandles <;> constructor <;> simp -failIfUnchanged only [respond, deletePending, Ending,
    Held, update_apply] <;> grind -linarith [cases Accounts, Ending, Held]

theorem report (h : Accounts at₁ s) (hreport : ∀ n props,
      msg.toOption.bind reported = some (n, props) → s.Ending ∨ s.sent n = true ∧
        ∃ tunnel, props.id = some tunnel.tunnelID ∧ s.Held n tunnel) :
    Accounts at₁ (s.report msg) := by
  refine { h with reports := fun n props hn => ?_ }
  rcases mem_append.mp hn with hn | hn
  · exact h.reports n props hn
  · exact hreport n props (Option.mem_toList.mp hn)

/-- A round that goes on has put the reported tunnel into the channel of its request. -/
theorem go (h : Accounts at₁ s) (hrequests : Requests at₁ s) (hhandles : Handles msg s s₁)
    (htakes : Takes msg s s₁) (hallow : Answered s (s₁.report msg)) :
    Accounts at₁ (s₁.report msg) := by
  obtain ⟨hlifecycle, hsent, houtcome, hreports, hending⟩ := hhandles.frame
  refine (h.handles hrequests hhandles).report fun n props hreported => ?_
  obtain hends | hdeliver := hallow n props (by simp [Control.report, hreported, hreports])
  · exact .inl hends
  · by_cases hclosing : s.closing = true
    · exact .inl (hending.mpr (h.closing hclosing))
    · obtain ⟨tunnel, hid, hresp⟩ := htakes n props hreported hdeliver
        (Bool.eq_false_iff.mpr hclosing) h.lifecycle
      have hmake := hrequests.untouched n (.inl hdeliver.1)
      refine .inr ⟨by rw [hsent]; exact hdeliver.2.1, tunnel, hid, .inr ⟨?_, ?_⟩⟩
      · rw [houtcome]
        exact h.pending n hdeliver.1
      · rw [hresp, hmake, Go.Chan.make_send]

end Messages

/-- What a caller knows of its request. -/
theorem own (h : Accounts at₁ s) (n : Nat) (ht : t = .create n) :
    ((at₁ t).Unsent → s.sent n = false) ∧ ((at₁ t).Undecided → s.outcome n = none) ∧
      ((at₁ t).Gone → n ∉ s.pendingTunnels) := by
  subst ht
  exact ⟨h.unsent n, h.undecided n, h.gone n⟩

theorem step (h : Accounts at₁ s) (hrequests : Requests at₁ s) (hshutdown : Shutdown at₁ s)
    (hmove : ControlMove s t (at₁ t) p s') (hallow : Answered s s') :
    Accounts (update at₁ t p) s' := by
  have hpending : ∀ n props, n ∈ s.pendingTunnels → (n, props) ∈ s.reports → s.Ending :=
    fun n props => h.ending_of_pending hrequests
  have hmake : ∀ n, n ∈ s.pendingTunnels → s.respCh n = .make := fun n hn =>
    hrequests.untouched n (.inl hn)
  have hseen := hshutdown.seen t
  have hown := h.own (t := t)
  clear hshutdown
  generalize hq : at₁ t = q at hmove hseen hown
  cases hmove with
  | pass hpass => exact h.pass (hq ▸ hpass)
  | go _ hhandles htakes => exact goto (h.go hrequests hhandles htakes hallow) nofun
  | stop _ hhandles =>
    refine goto (report ?_ fun _ _ _ => .inl (ending_setCloser .read)) nofun
    exact { h.handles hrequests hhandles with
      closing := fun _ => ending_setCloser .read
      reports := fun _ _ _ => .inl (ending_setCloser .read) }
  | writeFail n =>
    have hending := ending_setCloser (s := s) (.create n)
    exact goto { h with
      closing := fun _ => hending
      reports := fun _ _ _ => .inl hending } (by grind)
  | beginClose k =>
    have hending := ending_setCloser (s := s) (.close k)
    exact goto { h with closing := fun _ => hending, reports := fun _ _ _ => .inl hending } nofun
  | unmarkCreate | unmarkClose | unmarkRead | closeRespCh =>
    have hclosed := hseen trivial
    exact goto { h with
      closing := fun _ => .inl hclosed
      reports := fun _ _ _ => .inl (.inl hclosed) } (by grind)
  | detach =>
    exact goto { h with
      pending := nofun
      closing := fun _ => .inl rfl
      reports := fun _ _ _ => .inl (.inl rfl)
      gone := nofun } (by grind)
  | failAgain | cleaned => exact goto { h with } (by grind)
  | release | attach | detachChannel | sendDone | closeDone | closeClosed =>
    exact goto { h with } nofun
  | _ =>
    have hsent := hown _ rfl
    clear hallow hown hrequests
    constructor <;> simp -failIfUnchanged only [Control.finish, Control.giveUp, deletePending,
      Ending, Held, update_apply] <;>
      grind -linarith [cases Accounts, Ending, Held, Go.Chan.make]

end Accounts

theorem accounts_connected (datagramProvider : Bool) :
    Accounts ControlPoint.entry (.connected datagramProvider) where
  lifecycle := rfl
  pending := nofun
  closing := nofun
  reports := nofun
  unsent _ _ := rfl
  undecided _ _ := rfl
  gone _ _ := not_mem_nil

theorem accounts_of_run {datagramProvider : Bool} (h : controlPoints.Run
      (fun _ _ s _ s' => Answered s s') ControlPoint.entry (.connected datagramProvider) at₁ s) :
    (Requests at₁ s ∧ Shutdown at₁ s) ∧ Accounts at₁ s := by
  refine h.invariant ⟨⟨requests_connected _, shutdown_connected _⟩, accounts_connected _⟩ ?_
  rintro at₁ s t p s' ⟨⟨hrequests, hshutdown⟩, h⟩ hmove hallow
  exact ⟨⟨hrequests.step hshutdown hmove, hshutdown.step hmove⟩,
    h.step hrequests hshutdown hmove hallow⟩

/-- A reported tunnel is accounted for: its caller has it, or still waits and finds it in the
channel of its request, or a `CloseTunnelReq` was sent for it, or the channel is closed, or a call
that has not returned is about to close it. -/
def Control.Accounted (s : Control) (n : Nat) (props : OpenedProperties) : Prop :=
  (∃ tunnel, props.id = some tunnel.tunnelID ∧ s.Held n tunnel) ∨
    (∃ tunnelID ∈ s.closeTunnelReqs, props.id = some tunnelID) ∨
    s.closed = true ∨ ∃ w, s.closers w = true

theorem answered_of_same {s : Control} (h : s'.reports = s.reports) : Answered s s' := by
  intro n props hreport
  rw [h] at hreport
  exact absurd hreport (by simp)

/-- The answer of an engine that has opened a byte stream tunnel. -/
def openedProps : OpenedProperties := ⟨some "tun-1", false, false⟩

/-- A message with that answer to the first request. -/
def openedRead : ControlProg.ReadResult :=
  ⟨.ok (.openTunnelRsp (some ⟨0, some (.inr openedProps)⟩)), none⟩

theorem trimSpace_tunnelID : Go.trimSpace "tun-1" ≠ "" := by decide

/-- **No orphan tunnels.** In every run in which each reported tunnel answers a request that still
waits, with an ID of its own, or the channel is ending, every reported tunnel is accounted for. -/
theorem openedTunnel_accounted {datagramProvider : Bool} {config : Config ControlThread Control}
    (h : controlSystem.Reach Answered (.connected datagramProvider) config) {n : Nat}
    {props : OpenedProperties} (hreport : (n, props) ∈ config.state.reports) :
    config.state.Accounted n props := by
  obtain ⟨at₁, _, hrun⟩ := Points.describes_of_reach (P := controlPoints) h
  rcases (accounts_of_run hrun).2.reports n props hreport with hending | ⟨_, hheld⟩
  · exact .inr (.inr hending)
  · exact .inl hheld

/-- The caller gets the tunnel of its request. -/
theorem openedTunnel_accounted_sample :
    ∃ config, controlSystem.Reach Answered (.connected false) config ∧
      config.state.outcome 0 = some (.ok ⟨"tun-1", .bytestream⟩) ∧
      (0, openedProps) ∈ config.state.reports ∧ config.state.Accounted 0 openedProps := by
  obtain ⟨config, hrequested, hstate, hpool⟩ := requested Answered fun _ _ => answered_of_same
  obtain ⟨state, pool⟩ := config
  cases hstate
  cases hpool
  have hread := hrequested.act .read openedRead rfl rfl (answered_of_same rfl)
  have hanswered := hread.act .read () rfl rfl (by
    intro n props hreport
    change [(0, openedProps)] = [(n, props)] at hreport
    cases singleton_inj.mp hreport
    exact .inr ⟨by decide, rfl, "tun-1", rfl, trimSpace_tunnelID, not_mem_nil⟩)
  have hreturned := hanswered.act (.create 0) false rfl rfl (answered_of_same rfl)
  have hreport : (0, openedProps) ∈ [(0, openedProps)] := mem_singleton_self _
  exact ⟨_, hreturned, rfl, hreport, openedTunnel_accounted hreturned hreport⟩

/-- The context of the caller ends while the request is pending. The answer that arrives later
finds no request and is dropped, and the channel stays open. -/
theorem cancelled_tunnel_orphaned :
    ∃ config, controlSystem.Reach (fun _ _ => True) (.connected false) config ∧
      config.pool (.create 0) = .done false ∧
      config.state.outcome 0 = some (.error "context canceled") ∧
      (0, openedProps) ∈ config.state.reports ∧ ¬ config.state.Accounted 0 openedProps := by
  obtain ⟨config, hrequested, hstate, hpool⟩ := requested (fun _ _ => True) fun _ _ _ =>
    trivial
  obtain ⟨state, pool⟩ := config
  cases hstate
  cases hpool
  have hdone := hrequested.act (.create 0) true rfl rfl trivial
  have hcancelled := hdone.act (.create 0) () rfl rfl trivial
  have hread := hcancelled.act .read openedRead rfl rfl trivial
  have hdropped := hread.act .read () rfl rfl trivial
  refine ⟨_, hdropped, rfl, rfl, mem_singleton_self _, ?_⟩
  rintro (⟨tunnel, _, hheld | ⟨hheld, _⟩⟩ | ⟨_, hmem, _⟩ | hclosed | ⟨w, hw⟩)
  · cases hheld
  · cases hheld
  · cases hmem
  · cases hclosed
  · cases hw

end Rstream.Channel
