import Rstream.Channel.ControlPoints

/-!
# Pending requests and shutdown

The callers of `CreateTunnel`, the read loop and the shutdown share the table of pending
requests and the channels of the requests. The channel of a request is untouched as long
as the request is pending or left to the cleanup, and whoever takes the request out of
the table is the only one to use its channel. The first error starts the one cleanup,
which closes the channels it took over and then reports the error.
-/

namespace Rstream.Channel

open Rstream.Core Function List ControlProg Control

namespace ControlPoint

/-- A call of `CreateTunnel` that has not registered its request. -/
@[simp, grind =]
def Fresh : ControlPoint → Prop
  | validating | registering => True
  | ended again => again = true
  | _ => False

/-- A thread that stands here has seen the channel closed. -/
@[simp, grind =]
def Shut : ControlPoint → Prop
  | cleaning _ _ | failing _ | unmarking | closingDone | closingClosed => True
  | _ => False

@[simp, grind =]
theorem after_create (n : Nat) (err : Option String) :
    after (.create n) err = failing (err.getD "") := rfl

@[simp, grind =]
theorem after_finish (err : Option String) : after .finish err = ended false := rfl

@[grind! .]
theorem after_ne (t : ControlThread) (err : Option String) :
    (∀ err' rest, after t err ≠ cleaning err' rest) ∧ after t err ≠ finishing ∧
      after t err ≠ closingDone ∧ after t err ≠ closingClosed := by
  cases t <;> exact ⟨nofun, nofun, nofun, nofun⟩

@[grind! .]
theorem entry_ne (t : ControlThread) :
    ¬ (entry t).Shut ∧ ∀ err' rest, entry t ≠ cleaning err' rest := by
  cases t <;> exact ⟨id, nofun⟩

end ControlPoint

/-- The tunnel was reported as the answer to the request. -/
def Control.Answers (s : Control) (n : Nat) (tunnel : OpenedTunnel) : Prop :=
  ∃ props, (n, props) ∈ s.reports ∧ props.id = some tunnel.tunnelID

/-- The request is pending, or the cleanup still has to close its channel. -/
@[grind =]
def Control.Owes (s : Control) (n : Nat) : Prop := n ∈ s.pendingTunnels ∨ n ∈ s.cleaning

/-- Every registry of the channel is empty. -/
def Control.Emptied (s : Control) : Prop :=
  s.pendingTunnels = [] ∧ s.tunnels = [] ∧ s.datagramTunnels = [] ∧ s.datagramChannels = [] ∧
    s.proxyTransports = []

/-- How far `controlChannelCleanup.finish` has come. -/
inductive Finished (err : Option String) : ControlPoint → Go.Chan (Option String) →
    Go.Chan Unit → Prop
  | waiting : Finished err .finishing .make .make
  | sent : Finished err .closingDone ⟨some err, false, [.sent err]⟩ .make
  | done : Finished err .closingClosed ⟨some err, true, [.sent err, .closed]⟩ .make
  | closed : Finished err (.ended false) ⟨some err, true, [.sent err, .closed]⟩
      ⟨none, true, [.closed]⟩

/-- The requests, their channels and their callers. -/
structure Requests (at₁ : ControlThread → ControlPoint) (s : Control) : Prop where
  fresh : ∀ n, (at₁ (.create n)).Fresh → ¬ s.Owes n
  used : ∀ n, (s.respCh n).Used
  untouched : ∀ n, s.Owes n → s.respCh n = .make
  waits : ∀ n, s.waits n = true → s.Owes n ∨
    (∃ result, (s.respCh n).buffer = some result) ∨ (s.respCh n).closed = true
  buffered : ∀ n tunnel, (s.respCh n).buffer = some (.ok tunnel) → s.Answers n tunnel
  returned : ∀ n tunnel, s.outcome n = some (.ok tunnel) → s.Answers n tunnel
  pending : s.pendingTunnels.Nodup
  cleaning : s.cleaning.Nodup

/-- The shutdown runs once, for the first error. -/
structure Shutdown (at₁ : ControlThread → ControlPoint) (s : Control) : Prop where
  running : s.closed = false → s.failures = [] ∧ s.shutdowns = 0 ∧ s.cleaner = none ∧
    s.finishing = none
  shut : s.closed = true → s.shutdowns = 1 ∧ s.failures.head? = some s.err
  emptied : s.closed = true → s.Emptied
  cleaned : s.cleaner = none → s.cleaning = []
  finishing : ∀ err, s.finishing = some err → err = s.err
  waiting : s.finishing = none → at₁ .finish = .finishing
  finished : Finished s.err (at₁ .finish) s.doneCh s.closedCh
  seen : ∀ t, (at₁ t).Shut → s.closed = true
  cleans : ∀ t err rest, at₁ t = .cleaning err rest →
    s.err = err ∧ s.cleaner = some t ∧ s.cleaning = rest

variable {at₁ : ControlThread → ControlPoint} {s s' : Control} {t : ControlThread}
  {p : ControlPoint}

namespace Shutdown

/-- `closedCh` is closed at the end of the shutdown. -/
theorem closed_of_closedCh (h : Shutdown at₁ s) (hclosed : s.closedCh.closed = true) :
    s.closed = true := by
  grind -linarith [cases Shutdown, cases Finished, Go.Chan.make]

/-- Threads other than `finish` and the cleanup move freely. -/
theorem goto (h : Shutdown at₁ s) (ht : t ≠ .finish) (hp : p.Shut → s.closed = true)
    (hcleaning : ∀ err rest, p ≠ .cleaning err rest) : Shutdown (update at₁ t p) s := by
  constructor <;> simp -failIfUnchanged only [update_apply] <;> grind -linarith [cases Shutdown]

theorem pass (h : Shutdown at₁ s) (hpass : ControlPass s t (at₁ t) p) :
    Shutdown (update at₁ t p) s := by
  have hclosedCh := h.closed_of_closedCh
  have hfinished := h.finished
  generalize hq : at₁ t = q at hpass
  cases hpass with
  | again =>
    refine h.goto ?_ (fun hp => absurd hp (ControlPoint.entry_ne t).1) (ControlPoint.entry_ne t).2
    rintro rfl
    rw [hq] at hfinished
    cases hfinished
  | closed k hclosed => exact h.goto nofun (fun _ => hclosedCh hclosed) nofun
  | _ => exact h.goto nofun nofun nofun

/-- A channel with a pending request is open. -/
theorem open_of_pending {n : Nat} (h : Shutdown at₁ s) (hn : n ∈ s.pendingTunnels) :
    s.closed = false := by
  refine Bool.eq_false_iff.mpr fun hclosed => ?_
  rw [(h.emptied hclosed).1] at hn
  cases hn

theorem deletePending (h : Shutdown at₁ s) (n : Nat) : Shutdown at₁ (s.deletePending n) := by
  refine { h with emptied := fun hclosed => ?_ }
  obtain ⟨hpending, hrest⟩ := h.emptied hclosed
  exact ⟨by simp [Control.deletePending, hpending], hrest⟩

theorem handles {s₁ : Control} {msg : Except String ServerMessage} (h : Shutdown at₁ s)
    (hhandles : Handles msg s s₁) : Shutdown at₁ s₁ := by
  cases hhandles with
  | same => exact h
  | tables _ _ _ _ hopen => exact { h with emptied := fun hs => absurd (hopen.symm.trans hs) nofun }
  | answer _ _ hn =>
    exact { h with emptied := fun hs => absurd ((h.open_of_pending hn).symm.trans hs) nofun }

theorem step (h : Shutdown at₁ s) (hmove : ControlMove s t (at₁ t) p s') :
    Shutdown (update at₁ t p) s' := by
  have hseen := h.seen t
  have hfinished := h.finished
  generalize hq : at₁ t = q at hmove hseen
  cases hmove with
  | pass hpass => exact h.pass (hq ▸ hpass)
  | giveUp n | giveUpFailed n | cancel n =>
    exact goto { h.deletePending n with } nofun nofun nofun
  | go _ hhandles | stop _ hhandles => exact goto { h.handles hhandles with } nofun nofun nofun
  | fail => exact goto { h with } nofun hseen nofun
  | register _ hopen =>
    exact goto { h with emptied := fun hs => absurd (hopen.symm.trans hs) nofun } nofun nofun nofun
  | failAgain | detach | closeRespCh | cleaned | attach | detachChannel | sendDone | closeDone
  | closeClosed =>
    constructor <;> simp -failIfUnchanged only [Control.closeRespCh, unregisterDatagramChannel,
      update_apply] <;> grind -linarith [cases Shutdown, cases Finished, Emptied, Finished,
        Go.Chan.send, Go.Chan.close, Go.Chan.make]
  | _ => exact goto { h with } nofun nofun nofun

end Shutdown

namespace Requests

/-- A caller that goes on has registered its request, or had not before. -/
theorem goto (h : Requests at₁ s) (hp : ∀ n, t = .create n → p.Fresh → (at₁ t).Fresh) :
    Requests (update at₁ t p) s := by
  refine { h with fresh := fun n hn => h.fresh n ?_ }
  rw [update_apply] at hn
  split at hn
  · next heq => exact heq ▸ hp n heq.symm hn
  · exact hn

theorem pass (h : Requests at₁ s) (hpass : ControlPass s t (at₁ t) p) :
    Requests (update at₁ t p) s := by
  refine h.goto ?_
  generalize hq : at₁ t = q at hpass
  cases hpass <;> grind

theorem handles {s₁ : Control} {msg : Except String ServerMessage} (h : Requests at₁ s)
    (hshutdown : Shutdown at₁ s) (hhandles : Handles msg s s₁) : Requests at₁ (s₁.report msg) := by
  have hrunning := hshutdown.running
  have hcleaned := hshutdown.cleaned
  have hpending := @hshutdown.open_of_pending
  clear hshutdown
  cases hhandles <;> constructor <;> simp -failIfUnchanged only [respond, deletePending, report,
    Answers, update_apply] <;>
    grind -linarith [cases Requests, cases Go.Chan.Used, Go.Chan.Used, Answers, Go.Chan.make_send]

theorem step (h : Requests at₁ s) (hshutdown : Shutdown at₁ s)
    (hmove : ControlMove s t (at₁ t) p s') : Requests (update at₁ t p) s' := by
  have hopen := hshutdown.running
  have hcleaned := hshutdown.cleaned
  have hpending := @hshutdown.open_of_pending
  have hcleans := hshutdown.cleans
  have hfresh := h.fresh
  generalize hq : at₁ t = q at hmove
  cases hmove with
  | pass hpass => exact h.pass (hq ▸ hpass)
  | register | refuse | giveUp | giveUpFailed | take | takeClosed | cancel | fail | detach
  | closeRespCh =>
    clear hshutdown
    constructor <;> simp -failIfUnchanged only [Control.finish, Control.giveUp,
      deletePending, Control.closeRespCh, Answers, update_apply] <;>
      grind -linarith [cases Requests, cases Go.Chan.Used, Go.Chan.Used, Answers, Go.Chan.make,
        Go.Chan.close]
  | go _ hhandles | stop _ hhandles => exact goto { h.handles hshutdown hhandles with } (by simp)
  | _ => exact goto { h with } (by grind)

end Requests

theorem shutdown_connected (datagramProvider : Bool) :
    Shutdown ControlPoint.entry (.connected datagramProvider) where
  running _ := ⟨rfl, rfl, rfl, rfl⟩
  shut := nofun
  emptied := nofun
  cleaned _ := rfl
  finishing := nofun
  waiting _ := rfl
  finished := .waiting
  seen t ht := absurd ht (ControlPoint.entry_ne t).1
  cleans t err rest ht := absurd ht ((ControlPoint.entry_ne t).2 err rest)

theorem requests_connected (datagramProvider : Bool) :
    Requests ControlPoint.entry (.connected datagramProvider) where
  fresh _ _ h := h.elim not_mem_nil not_mem_nil
  used _ := .fresh
  untouched _ _ := rfl
  waits := nofun
  buffered := nofun
  returned := nofun
  pending := nodup_nil
  cleaning := nodup_nil

/-- In every run the requests and the shutdown are in order. -/
theorem opens_of_run {datagramProvider : Bool} {may}
    (h : controlPoints.Run may ControlPoint.entry (.connected datagramProvider) at₁ s) :
    Requests at₁ s ∧ Shutdown at₁ s := by
  refine h.invariant ⟨requests_connected _, shutdown_connected _⟩ fun h hmove _ => ?_
  exact ⟨h.1.step h.2 hmove, h.2.step hmove⟩

/-- What holds of the pending requests and of the shutdown at every point of a run. -/
structure Control.Orderly (s : Control) : Prop where
  /-- The channel of a request gets one value or is closed once; nothing blocks or panics. -/
  once : ∀ n, (s.respCh n).history = [] ∨ (∃ result, (s.respCh n).history = [.sent result]) ∨
    (s.respCh n).history = [.closed]
  /-- A caller that waits for a request that is gone finds a result or a closed channel, unless
  the cleanup is about to close its channel. -/
  answered : ∀ n, s.waits n = true → n ∉ s.pendingTunnels → n ∉ s.cleaning →
    (∃ result, s.respCh n = ⟨some result, false, [.sent result]⟩) ∨
      s.respCh n = ⟨none, true, [.closed]⟩
  /-- Only a running cleanup has channels left to close. -/
  cleaned : s.cleaner = none → s.cleaning = []
  /-- A tunnel is returned to the caller whose request it answers. -/
  returned : ∀ n tunnel, s.outcome n = some (.ok tunnel) →
    ∃ props, (n, props) ∈ s.reports ∧ props.id = some tunnel.tunnelID
  /-- No error, or the first one: it started the only cleanup, and every registry is empty. -/
  shutdown : s.closed = false ∧ s.failures = [] ∧ s.shutdowns = 0 ∨
    s.closed = true ∧ s.failures.head? = some s.err ∧ s.shutdowns = 1 ∧ s.Emptied
  /-- The error is the only value sent on `doneCh`, which is closed after it. -/
  done : s.doneCh.history <+: [.sent s.err, .closed]
  /-- It has been sent when `closedCh` is closed. -/
  delivered : s.closedCh.closed = true → s.doneCh.history = [.sent s.err, .closed]

theorem Finished.history {err : Option String} {doneCh : Go.Chan (Option String)}
    {closedCh : Go.Chan Unit} (h : Finished err p doneCh closedCh) :
    doneCh.history <+: [.sent err, .closed] ∧
      (closedCh.closed = true → doneCh.history = [.sent err, .closed]) := by
  cases h with
  | waiting => exact ⟨ nil_prefix, nofun⟩
  | sent => exact ⟨⟨[.closed], rfl⟩, nofun⟩
  | done => exact ⟨prefix_rfl, nofun⟩
  | closed => exact ⟨prefix_rfl, fun _ => rfl⟩

theorem Requests.orderly (h : Requests at₁ s) (hshutdown : Shutdown at₁ s) : s.Orderly where
  once n := (h.used n).history
  answered n hwaits hpending hcleaning := by
    rcases h.waits n hwaits with howes | ⟨result, hbuffer⟩ | hclosed
    · exact absurd howes (not_or.mpr ⟨hpending, hcleaning⟩)
    · exact .inl ⟨result, (h.used n).take hbuffer⟩
    · exact .inr ((h.used n).of_closed hclosed)
  cleaned := hshutdown.cleaned
  returned := h.returned
  shutdown := by
    cases hclosed : s.closed with
    | false =>
      obtain ⟨hfailures, hshutdowns, _⟩ := hshutdown.running hclosed
      exact .inl ⟨rfl, hfailures, hshutdowns⟩
    | true =>
      obtain ⟨hshutdowns, hfirst⟩ := hshutdown.shut hclosed
      exact .inr ⟨rfl, hfirst, hshutdowns, hshutdown.emptied hclosed⟩
  done := hshutdown.finished.history.1
  delivered := hshutdown.finished.history.2

/-- The first request is on its way. -/
theorem requested (allow : Control → Control → Prop)
    (hallow : ∀ s s' : Control, s'.reports = s.reports → allow s s') :
    ∃ config, controlSystem.Reach allow (.connected false) config ∧
      config.state = { connected false with
        pendingTunnels := [0]
        respCh := update (fun _ => .make) 0 .make
        sent := update (fun _ => false) 0 true
        waits := update (fun _ => false) 0 true } ∧
      config.pool = update controlSystem.body (.create 0)
        (awaitOpenTunnelResult 0 >>= fun _ => pure false) := by
  have hstart : controlSystem.Reach allow (.connected false) _ := .start
  have hvalid := hstart.act (.create 0) (none : Option String) rfl rfl (hallow _ _ rfl)
  have hregistered := hvalid.act (.create 0) (none : Option String) rfl rfl (hallow _ _ rfl)
  have hlocked := hregistered.act (.create 0) (none : Option String) rfl rfl (hallow _ _ rfl)
  have hsent := hlocked.act (.create 0) () rfl rfl (hallow _ _ rfl)
  have hwritten := hsent.act (.create 0) (none : Option String) rfl rfl (hallow _ _ rfl)
  refine ⟨_, hwritten, rfl, ?_⟩
  simp only [update_idem]
  rfl

/-- **Pending requests.** In every run the channel of each request is used once, a caller whose
request is gone has its answer, tunnels go to the callers that asked for them, and the shutdown
runs once, for the first error. -/
theorem pendingOpens_orderly {datagramProvider : Bool} {config : Config ControlThread Control}
    (h : controlSystem.Reach (fun _ _ => True) (.connected datagramProvider) config) :
    config.state.Orderly := by
  obtain ⟨at₁, _, hrun⟩ := Points.describes_of_reach (P := controlPoints) h
  obtain ⟨hrequests, hshutdown⟩ := opens_of_run hrun
  exact hrequests.orderly hshutdown

/-- The connection fails while a request is pending: its caller finds the channel closed, and the
error is reported. -/
theorem pendingOpens_orderly_sample :
    ∃ config, controlSystem.Reach (fun _ _ => True) (.connected false) config ∧
      config.state.outcome 0 = some (.error "control channel closed unexpectedly") ∧
      config.state.doneCh.history = [.sent (some "failed to read message: EOF"), .closed] ∧
      config.state.closedCh.closed = true ∧ config.state.Orderly := by
  obtain ⟨config, hrequested, hstate, hpool⟩ := requested (fun _ _ => True) fun _ _ _ => trivial
  obtain ⟨state, pool⟩ := config
  cases hstate
  cases hpool
  have hread := hrequested.act .read (⟨.error "EOF", none⟩ : ControlProg.ReadResult) rfl rfl trivial
  have hstopped := hread.act .read () rfl rfl trivial
  have hdetached := hstopped.act .read () rfl rfl trivial
  have hclosed := hdetached.act .read () rfl rfl trivial
  have hstarted := hclosed.act .read () rfl rfl trivial
  have hended := hstarted.act .read () rfl rfl trivial
  have hreturned := hended.act (.create 0) false rfl rfl trivial
  have hsent := hreturned.act .finish () rfl rfl trivial
  have hdone := hsent.act .finish () rfl rfl trivial
  have hfinished := hdone.act .finish () rfl rfl trivial
  exact ⟨_, hfinished, rfl, rfl, rfl, pendingOpens_orderly hfinished⟩

end Rstream.Channel
