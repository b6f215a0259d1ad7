import Mathlib.Data.List.Nodup

/-!
# The race of QUIC and TLS

`selectTransport` of an `AutoTransport` gives QUIC a head start and keeps the first
transport that connects. The results that it does not wait for are left to a cleanup
goroutine. Every receive and send and every call of a foreign function is one action.
-/

namespace Rstream.Transport

section State

/-- `TunnelTransportMode`, once `auto` is decided. -/
inductive TunnelTransportMode
  | quic
  | tls
  deriving DecidableEq, Repr

/-- What a `Dial` of a transport returns: a connection or an error. -/
abbrev DialResult := Except String Unit

/-- An attempt of a selection. -/
inductive AutoAttempt
  | idle
  | running
  /-- `Dial` has returned, and the result is not sent yet. -/
  | dialed (result : DialResult)
  /-- The result is in the channel. -/
  | sent (result : DialResult)
  /-- The selection received the result. -/
  | received (result : DialResult)
  /-- The cleanup received the result. -/
  | late (result : DialResult)
  /-- The cleanup closed the connection, if there was one. -/
  | discarded (result : DialResult)

/-- How a selection ends. -/
inductive AutoOutcome
  | won (mode : TunnelTransportMode)
  | cancelled (err : String)
  | failed
  deriving DecidableEq, Repr

/-- The goroutine of `cleanupAutoTransportResultsAsync`. -/
inductive AutoCleanup
  /-- There is none. -/
  | absent
  /-- It waits for so many results. -/
  | waiting (count : Nat)
  /-- It received a result and closes the connection. -/
  | closingConn (mode : TunnelTransportMode) (count : Nat)
  /-- It closes the transport, if it has to. -/
  | closingTransport (mode : TunnelTransportMode) (count : Nat)
  /-- It closed its channel. -/
  | finished
  deriving DecidableEq, Repr

/-- A call of `selectTransport` with its attempts and its cleanup. -/
structure AutoRace where
  /-- The call of `Dial` that selects. -/
  owner : Nat
  /-- `selectionGeneration`. -/
  generation : Nat
  tlsStarted : Bool
  /-- The timer has not been received from. -/
  timer : Bool
  completed : Nat
  quicErr : String
  tlsErr : String
  results : List (TunnelTransportMode × DialResult)
  attempts : TunnelTransportMode → AutoAttempt
  outcome : Option AutoOutcome
  cleanup : AutoCleanup
  /-- The cleanup has closed the QUIC transport. -/
  transportClosed : Bool

end State

section Steps

namespace AutoAttempt

/-- Nobody received the result. -/
def outstanding : AutoAttempt → Bool
  | running | dialed _ | sent _ => true
  | _ => false

/-- The attempt got a connection. -/
def obtained : AutoAttempt → Bool
  | dialed (.ok _) | sent (.ok _) | received (.ok _) | late (.ok _) | discarded (.ok _) => true
  | _ => false

end AutoAttempt

/-- Nothing is left to clean up. -/
def AutoCleanup.settled : AutoCleanup → Bool
  | absent | finished => true
  | _ => false

def cleanupAutoTransportResultsAsync (count : Nat) : AutoCleanup :=
  if count = 0 then .absent else .waiting count

namespace AutoRace

/-- The beginning of `selectTransport`. -/
def begin (owner generation : Nat) : AutoRace where
  owner
  generation
  tlsStarted := false
  timer := true
  completed := 0
  quicErr := ""
  tlsErr := ""
  results := []
  attempts
    | .quic => .running
    | .tls => .idle
  outcome := none
  cleanup := .absent
  transportClosed := false

variable (r : AutoRace)

def set (mode : TunnelTransportMode) (attempt : AutoAttempt) : AutoRace :=
  { r with attempts := Function.update r.attempts mode attempt }

@[simp, grind =] theorem set_attempts (mode mode' : TunnelTransportMode) (attempt : AutoAttempt) :
    (r.set mode attempt).attempts mode' = if mode' = mode then attempt else r.attempts mode' :=
  Function.update_apply ..

/-- The number of attempts. -/
def started : Nat := if r.tlsStarted then 2 else 1

/-- The condition of the loop. -/
def continues : Bool := r.completed < r.started || !r.tlsStarted

def winner : Option TunnelTransportMode :=
  match r.outcome with
  | some (.won mode) => some mode
  | _ => none

def startTLS : AutoRace :=
  if r.tlsStarted then r else { r.set .tls .running with tlsStarted := true }

/-- `selectTransport` returns. -/
def finish (outcome : AutoOutcome) : AutoRace :=
  { r with outcome := some outcome,
           cleanup := cleanupAutoTransportResultsAsync (r.started - r.completed) }

/-- The loop sees that its context ended. -/
def cancel (err : String) : Option AutoRace :=
  if r.outcome = none ∧ r.continues then some (r.finish (.cancelled err)) else none

/-- The loop receives from the timer. -/
def fireTimer : Option AutoRace :=
  if r.outcome = none ∧ r.continues ∧ r.timer then some { r with timer := false }.startTLS else none

/-- The loop after it received a result. -/
def received (mode : TunnelTransportMode) : DialResult → AutoRace
  | .ok _ => r.finish (.won mode)
  | .error err =>
    match mode with
    | .quic => { r with quicErr := err }.startTLS
    | .tls => { r with tlsErr := err }

/-- The loop receives a result. -/
def receive : Option AutoRace :=
  if r.outcome = none ∧ r.continues then
    match r.results with
    | [] => none
    | (mode, result) :: rest =>
      some (({ r with results := rest, completed := r.completed + 1 }.set mode
        (.received result)).received mode result)
  else none

/-- The loop ends without a transport. -/
def exit : Option AutoRace :=
  if r.outcome = none ∧ r.continues = false then some { r with outcome := some .failed } else none

/-- `transport.Dial` of an attempt returns. -/
def dial (mode : TunnelTransportMode) (result : DialResult) : Option AutoRace :=
  match r.attempts mode with
  | .running => some (r.set mode (.dialed result))
  | _ => none

/-- An attempt sends its result; the channel has room for both. -/
def send (mode : TunnelTransportMode) : Option AutoRace :=
  match r.attempts mode with
  | .dialed result =>
    some { r.set mode (.sent result) with results := r.results ++ [(mode, result)] }
  | _ => none

/-- The cleanup receives a result. -/
def cleanupReceive : Option AutoRace :=
  match r.cleanup, r.results with
  | .waiting (count + 1), (mode, result) :: rest =>
    some { r.set mode (.late result) with results := rest, cleanup := .closingConn mode count }
  | _, _ => none

/-- The cleanup has closed the connection of a result. -/
def cleanupConn : Option AutoRace :=
  match r.cleanup with
  | .closingConn mode count =>
    match r.attempts mode with
    | .late result =>
      some { r.set mode (.discarded result) with cleanup := .closingTransport mode count }
    | _ => none
  | _ => none

/-- The cleanup closes the transport of a result. -/
def closesTransport (mode : TunnelTransportMode) : Bool :=
  r.winner ≠ some mode && mode = .quic

/-- The cleanup goes on to the next result. -/
def cleanupTransport : Option AutoRace :=
  match r.cleanup with
  | .closingTransport mode count =>
    some { r with cleanup := .waiting count,
                  transportClosed := r.transportClosed || r.closesTransport mode }
  | _ => none

/-- The cleanup closes its channel. -/
def cleanupFinish : Option AutoRace :=
  match r.cleanup with
  | .waiting 0 => some { r with cleanup := .finished }
  | _ => none

end AutoRace

/-- One action of a race. -/
inductive RaceAction
  | cancel (err : String)
  | fireTimer
  | receive
  | exit
  | dial (mode : TunnelTransportMode) (result : DialResult)
  | send (mode : TunnelTransportMode)
  | cleanupReceive
  | cleanupConn
  | cleanupTransport
  | cleanupFinish

/-- The race after an action; nothing if it is not possible. -/
def AutoRace.act (r : AutoRace) : RaceAction → Option AutoRace
  | .cancel err => r.cancel err
  | .fireTimer => r.fireTimer
  | .receive => r.receive
  | .exit => r.exit
  | .dial mode result => r.dial mode result
  | .send mode => r.send mode
  | .cleanupReceive => r.cleanupReceive
  | .cleanupConn => r.cleanupConn
  | .cleanupTransport => r.cleanupTransport
  | .cleanupFinish => r.cleanupFinish

end Steps

section Books

/-- The number of attempts of a kind. -/
def countAttempts (p : AutoAttempt → Bool) (attempts : TunnelTransportMode → AutoAttempt) : Nat :=
  (p (attempts .quic)).toNat + (p (attempts .tls)).toNat

theorem countAttempts_update (p : AutoAttempt → Bool)
    (attempts : TunnelTransportMode → AutoAttempt) (mode : TunnelTransportMode) (a : AutoAttempt) :
    countAttempts p (Function.update attempts mode a) + (p (attempts mode)).toNat =
      countAttempts p attempts + (p a).toNat := by
  cases mode <;> simp [countAttempts] <;> omega

theorem countAttempts_eq_zero {p : AutoAttempt → Bool}
    {attempts : TunnelTransportMode → AutoAttempt} :
    countAttempts p attempts = 0 ↔ ∀ mode, p (attempts mode) = false := by
  constructor
  · intro h mode
    cases mode <;> simp [countAttempts] at h
    · exact h.1
    · exact h.2
  · intro h
    simp [countAttempts, h]

namespace AutoAttempt

def isReceived : AutoAttempt → Bool
  | received _ => true
  | _ => false

def isLate : AutoAttempt → Bool
  | late _ => true
  | _ => false

/-- The cleanup received the result. -/
def cleaned : AutoAttempt → Bool
  | late _ | discarded _ => true
  | _ => false

theorem isLate_of_cleaned {a : AutoAttempt} (h : a.cleaned = false) : a.isLate = false := by
  cases a <;> first | rfl | cases h

end AutoAttempt

namespace AutoRace

def outstanding (r : AutoRace) : Nat := countAttempts AutoAttempt.outstanding r.attempts

/-- What the cleanup has to account for. -/
def Accounted (r : AutoRace) : AutoCleanup → Prop
  | .absent => (∀ mode, (r.attempts mode).cleaned = false) ∧ (r.outcome ≠ none → r.outstanding = 0)
  | .waiting count => r.outcome ≠ none ∧ r.outstanding = count ∧
    ∀ mode, (r.attempts mode).isLate = false
  | .closingConn mode count => r.outcome ≠ none ∧ r.outstanding = count ∧
    ∀ mode', (r.attempts mode').isLate = true → mode' = mode
  | .closingTransport _ count => r.outcome ≠ none ∧ r.outstanding = count ∧
    ∀ mode, (r.attempts mode).isLate = false
  | .finished => r.outcome ≠ none ∧ r.outstanding = 0 ∧ ∀ mode, (r.attempts mode).isLate = false

/-- The attempts, the channel and the counters of a race agree. -/
structure Ledger (r : AutoRace) : Prop where
  quic : r.attempts .quic ≠ .idle
  tls : r.attempts .tls = .idle ↔ r.tlsStarted = false
  results : (r.results.map (·.1)).Nodup
  sent : ∀ mode result, (mode, result) ∈ r.results ↔ r.attempts mode = .sent result
  completed : r.completed = countAttempts AutoAttempt.isReceived r.attempts

/-- The books of a race. -/
structure Books (r : AutoRace) : Prop extends Ledger r where
  won : ∀ mode, r.outcome = some (.won mode) ↔ r.attempts mode = .received (.ok ())
  accounted : r.Accounted r.cleanup
  transport : ∀ result, r.attempts .quic = .discarded result →
    r.transportClosed = true ∨ ∃ count, r.cleanup = .closingTransport .quic count

theorem begin_books (owner generation : Nat) : (begin owner generation).Books where
  quic := nofun
  tls := by simp [begin]
  results := .nil
  sent mode result := by cases mode <;> simp [begin]
  completed := rfl
  won mode := by cases mode <;> simp [begin]
  accounted := ⟨fun mode => by cases mode <;> rfl, fun h => absurd rfl h⟩
  transport := nofun

variable {r r' : AutoRace}

theorem outstanding_set (r : AutoRace) (mode : TunnelTransportMode) (a : AutoAttempt) :
    (r.set mode a).outstanding + (r.attempts mode).outstanding.toNat =
      r.outstanding + a.outstanding.toNat :=
  countAttempts_update ..

/-- While the loop runs, the results that it has not received are those to wait for. -/
theorem Ledger.outstanding_eq (h : r.Ledger) (hclean : ∀ mode, (r.attempts mode).cleaned = false) :
    r.outstanding = r.started - r.completed := by
  have hquic := h.quic
  have htls := h.tls
  have hcleanQuic := hclean .quic
  have hcleanTls := hclean .tls
  rw [h.completed]
  unfold outstanding countAttempts started
  cases hq : r.attempts .quic <;> cases ht : r.attempts .tls <;> cases hs : r.tlsStarted <;>
    simp_all [AutoAttempt.outstanding, AutoAttempt.isReceived, AutoAttempt.cleaned]

theorem Accounted.congr {c : AutoCleanup} (h : r.Accounted c) (houtcome : r'.outcome = r.outcome)
    (houtstanding : r'.outstanding = r.outstanding)
    (hlate : ∀ mode, (r'.attempts mode).isLate = (r.attempts mode).isLate)
    (hcleaned : ∀ mode, (r'.attempts mode).cleaned = (r.attempts mode).cleaned) :
    r'.Accounted c := by
  cases c <;> simpa only [Accounted, houtcome, houtstanding, hlate, hcleaned] using h

theorem Ledger.congr (h : r.Ledger) (hattempts : r'.attempts = r.attempts)
    (htls : r'.tlsStarted = r.tlsStarted) (hresults : r'.results = r.results)
    (hcompleted : r'.completed = r.completed) : r'.Ledger where
  quic := hattempts ▸ h.quic
  tls := by rw [hattempts, htls]; exact h.tls
  results := hresults ▸ h.results
  sent := by rw [hattempts, hresults]; exact h.sent
  completed := by rw [hattempts, hcompleted]; exact h.completed

variable {action : RaceAction}

/-- What an action does, where it is possible. -/
inductive Acts (r : AutoRace) : RaceAction → AutoRace → Prop
  | cancel {err : String} (houtcome : r.outcome = none) :
      Acts r (.cancel err) (r.finish (.cancelled err))
  | fireTimer (houtcome : r.outcome = none) : Acts r .fireTimer { r with timer := false }.startTLS
  | receive (houtcome : r.outcome = none) {mode result rest}
      (hresults : r.results = (mode, result) :: rest) :
      Acts r .receive (({ r with results := rest, completed := r.completed + 1 }.set mode
        (.received result)).received mode result)
  | exit (houtcome : r.outcome = none) (hexit : r.continues = false) :
      Acts r .exit { r with outcome := some .failed }
  | dial {mode result} (hrunning : r.attempts mode = .running) :
      Acts r (.dial mode result) (r.set mode (.dialed result))
  | send {mode result} (hdialed : r.attempts mode = .dialed result) :
      Acts r (.send mode) { r.set mode (.sent result) with results := r.results ++ [(mode, result)] }
  | cleanupReceive {count} (hcleanup : r.cleanup = .waiting (count + 1)) {mode result rest}
      (hresults : r.results = (mode, result) :: rest) :
      Acts r .cleanupReceive
        { r.set mode (.late result) with results := rest, cleanup := .closingConn mode count }
  | cleanupConn {mode count} (hcleanup : r.cleanup = .closingConn mode count) {result}
      (hlate : r.attempts mode = .late result) :
      Acts r .cleanupConn
        { r.set mode (.discarded result) with cleanup := .closingTransport mode count }
  | cleanupTransport {mode count} (hcleanup : r.cleanup = .closingTransport mode count) :
      Acts r .cleanupTransport { r with
        cleanup := .waiting count
        transportClosed := r.transportClosed || r.closesTransport mode }
  | cleanupFinish (hcleanup : r.cleanup = .waiting 0) :
      Acts r .cleanupFinish { r with cleanup := .finished }

theorem act_acts (h : r.act action = some r') : r.Acts action r' := by
  cases action <;> simp only [act, cancel, fireTimer, receive, exit, dial, send, cleanupReceive,
    cleanupConn, cleanupTransport, cleanupFinish] at h
  all_goals
    repeat' split at h
    all_goals cases h
  · exact .cancel (And.left ‹_›)
  · exact .fireTimer (And.left ‹_›)
  · exact .receive (And.left ‹_›) ‹_›
  · exact .exit (And.left ‹_›) (And.right ‹_›)
  · exact .dial ‹_›
  · exact .send ‹_›
  · exact .cleanupReceive ‹_› ‹_›
  · exact .cleanupConn ‹_› ‹_›
  · exact .cleanupTransport ‹_›
  · exact .cleanupFinish ‹_›

variable {mode : TunnelTransportMode} {a : AutoAttempt} {result : DialResult} {count : Nat}
  {rest results : List (TunnelTransportMode × DialResult)} {cleanup : AutoCleanup}

/-- An attempt that exists goes on. -/
theorem Ledger.set (h : r.Ledger) (hbefore : r.attempts mode ≠ .idle)
    (hreceived : (r.attempts mode).isReceived = false) (hidle : a ≠ .idle)
    (hresults : (results.map (·.1)).Nodup)
    (hsent : ∀ mode' result, (mode', result) ∈ results ↔ (r.set mode a).attempts mode' = .sent result) :
    ({ r.set mode a with
      results
      completed := r.completed + a.isReceived.toNat } : AutoRace).Ledger := by
  refine ⟨?_, ?_, hresults, hsent, ?_⟩
  · have hquic := h.quic
    grind
  · refine Iff.trans ?_ h.tls
    grind
  · have hcompleted := countAttempts_update AutoAttempt.isReceived r.attempts mode a
    rw [hreceived] at hcompleted
    rw [h.completed]
    exact hcompleted.symm

/-- An attempt whose result nobody received goes on. -/
theorem Books.moved (h : r.Books) (hbefore : (r.attempts mode).outstanding = true)
    (hafter : a.outstanding = true) (hresults : (results.map (·.1)).Nodup)
    (hsent : ∀ mode' result, (mode', result) ∈ results ↔ (r.set mode a).attempts mode' = .sent result) :
    ({ r.set mode a with results } : AutoRace).Books := by
  have hidle : a ≠ .idle := by rintro rfl; cases hafter
  have hreceived : a.isReceived = false ∧ a.isLate = false ∧ a.cleaned = false ∧
      (∀ result, a ≠ .received result) ∧ ∀ result, a ≠ .discarded result := by
    cases a <;> simp_all [AutoAttempt.outstanding, AutoAttempt.isReceived, AutoAttempt.isLate,
      AutoAttempt.cleaned]
  have hreceived' : (r.attempts mode).isReceived = false ∧ (r.attempts mode).isLate = false ∧
      (r.attempts mode).cleaned = false ∧ (∀ result, r.attempts mode ≠ .received result) ∧
      r.attempts mode ≠ .idle := by
    cases hmode : r.attempts mode <;> simp_all [AutoAttempt.outstanding, AutoAttempt.isReceived,
      AutoAttempt.isLate, AutoAttempt.cleaned]
  have hcount := outstanding_set r mode a
  have hledger := h.toLedger.set hreceived'.2.2.2.2 hreceived'.1 hidle hresults hsent
  rw [hreceived.1] at hledger
  refine ⟨hledger, fun mode' => ?_, ?_, fun result hdiscarded => ?_⟩
  · refine (h.won mode').trans ?_
    grind
  · refine h.accounted.congr rfl ?_ ?_ ?_
    · change (r.set mode a).outstanding = _
      rw [hbefore, hafter] at hcount
      omega
    · grind
    · grind
  · refine h.transport result ?_
    grind

theorem Books.dial (h : r.Books) (hrunning : r.attempts mode = .running) (result : DialResult) :
    (r.set mode (.dialed result)).Books := by
  refine h.moved (by rw [hrunning]; rfl) rfl h.results fun mode' result' => ?_
  have hsent := h.sent mode' result'
  grind

theorem Books.send (h : r.Books) (hdialed : r.attempts mode = .dialed result) :
    Books { r.set mode (.sent result) with results := r.results ++ [(mode, result)] } := by
  have hnew : mode ∉ r.results.map (·.1) := by
    intro hmem
    obtain ⟨⟨mode', result'⟩, hmem', rfl⟩ := List.mem_map.mp hmem
    rw [(h.sent _ _).mp hmem'] at hdialed
    cases hdialed
  refine h.moved (by rw [hdialed]; rfl) rfl ?_ fun mode' result' => ?_
  · rw [List.map_append]
    exact List.Nodup.append h.results (List.nodup_singleton _) (by simpa using hnew)
  · have hsent := h.sent mode' result'
    grind

theorem Books.accounts (h : r.Books) (hcleanup : r.cleanup = cleanup) : r.Accounted cleanup :=
  hcleanup ▸ h.accounted

/-- While the selection goes on, there is no cleanup. -/
theorem Books.racing (h : r.Books) (houtcome : r.outcome = none) :
    r.cleanup = .absent ∧ ∀ mode, (r.attempts mode).cleaned = false := by
  cases hcleanup : r.cleanup with
  | absent => exact ⟨rfl, (h.accounts hcleanup).1⟩
  | _ => exact absurd houtcome (h.accounts hcleanup).1

theorem Books.startTLS (h : r.Books) (houtcome : r.outcome = none) : r.startTLS.Books := by
  unfold AutoRace.startTLS
  split_ifs with hstarted
  · exact h
  · obtain ⟨hcleanup, hclean⟩ := h.racing houtcome
    have hidle : r.attempts .tls = .idle := h.tls.mpr (by simpa using hstarted)
    have hcompleted := countAttempts_update AutoAttempt.isReceived r.attempts .tls .running
    rw [hidle] at hcompleted
    refine ⟨⟨?_, ?_, h.results, fun mode result => ?_, h.completed.trans hcompleted.symm⟩,
      fun mode => ?_, ?_, fun result hdiscarded => ?_⟩
    · exact h.quic
    · simp
    · refine (h.sent mode result).trans ?_
      grind
    · refine (h.won mode).trans ?_
      grind
    · change Accounted _ r.cleanup
      rw [hcleanup]
      refine ⟨fun mode => ?_, fun hne => absurd houtcome hne⟩
      have := hclean mode
      grind [AutoAttempt.cleaned]
    · exact h.transport result hdiscarded

/-- The selection ends, and the cleanup waits for what is outstanding. -/
theorem Ledger.finish (h : r.Ledger) (hclean : ∀ mode, (r.attempts mode).cleaned = false)
    {outcome : AutoOutcome} (hwon : ∀ mode, some outcome = some (.won mode) ↔
      r.attempts mode = .received (.ok ())) : (r.finish outcome).Books := by
  refine ⟨h.congr rfl rfl rfl rfl, hwon, ?_, fun result hdiscarded => ?_⟩
  · have hcount := h.outstanding_eq hclean
    unfold AutoRace.finish cleanupAutoTransportResultsAsync
    split_ifs with hzero
    · exact ⟨hclean, fun _ => hcount.trans hzero⟩
    · exact ⟨nofun, hcount, fun mode => AutoAttempt.isLate_of_cleaned (hclean mode)⟩
  · have hquic := hclean .quic
    change r.attempts .quic = _ at hdiscarded
    rw [hdiscarded] at hquic
    cases hquic

theorem Books.cancel (h : r.Books) (houtcome : r.outcome = none) (err : String) :
    (r.finish (.cancelled err)).Books := by
  refine h.toLedger.finish (h.racing houtcome).2 fun mode => ?_
  rw [← h.won mode, houtcome]
  simp

theorem Books.fireTimer (h : r.Books) (houtcome : r.outcome = none) :
    { r with timer := false }.startTLS.Books := by
  have htimer : ({ r with timer := false } : AutoRace).Books :=
    ⟨h.toLedger.congr rfl rfl rfl rfl, h.won, h.accounted.congr rfl rfl
      (fun _ => rfl) fun _ => rfl, h.transport⟩
  exact htimer.startTLS houtcome

/-- The first result of the channel is taken out of it. -/
theorem Ledger.take (h : r.Ledger) (hresults : r.results = (mode, result) :: rest)
    (hidle : a ≠ .idle) (hnot : ∀ result, a ≠ .sent result) : ({ r.set mode a with
      results := rest
      completed := r.completed + a.isReceived.toNat } : AutoRace).Ledger := by
  have hsent : r.attempts mode = .sent result := (h.sent mode result).mp (hresults ▸ .head _)
  have hnodup := h.results
  rw [hresults, List.map_cons, List.nodup_cons] at hnodup
  refine h.set (by rw [hsent]; nofun) (by rw [hsent]; rfl) hidle hnodup.2 fun mode' result' => ?_
  have hmem := h.sent mode' result'
  rw [hresults, List.mem_cons] at hmem
  by_cases hmode : mode' = mode
  · subst hmode
    rw [set_attempts, if_pos rfl]
    exact iff_of_false (fun hin => hnodup.1 (List.mem_map.mpr ⟨_, hin, rfl⟩)) (hnot result')
  · rw [set_attempts, if_neg hmode, ← hmem, or_iff_right fun heq => hmode (Prod.mk.inj heq).1]

section

variable (h : r.Books)
include h

theorem Books.receive (houtcome : r.outcome = none)
    (hresults : r.results = (mode, result) :: rest) :
    (({ r with results := rest, completed := r.completed + 1 }.set mode
      (.received result)).received mode result).Books := by
  obtain ⟨hcleanup, hclean⟩ := h.racing houtcome
  have hledger := h.toLedger.take hresults (a := .received result) nofun nofun
  have hclean' : ∀ mode', ((r.set mode (.received result)).attempts mode').cleaned = false := by
    intro mode'
    have := hclean mode'
    grind [AutoAttempt.cleaned]
  have hlost : ∀ mode', r.attempts mode' ≠ .received (.ok ()) := by
    intro mode' hmode'
    rw [← h.won, houtcome] at hmode'
    cases hmode'
  cases result with
  | ok _ =>
    refine Ledger.finish hledger hclean' fun mode' => ?_
    have := hlost mode'
    grind
  | error err =>
    have hbooks : ∀ quicErr tlsErr, ({ r.set mode (.received (.error err)) with
        results := rest, completed := r.completed + 1, quicErr, tlsErr } : AutoRace).Books := by
      intro quicErr tlsErr
      refine ⟨hledger.congr rfl rfl rfl rfl, fun mode' => ?_, ?_, fun result hdiscarded => ?_⟩
      · change r.outcome = _ ↔ _
        have := hlost mode'
        rw [houtcome]
        grind
      · change Accounted _ r.cleanup
        rw [hcleanup]
        exact ⟨hclean', fun hne => absurd houtcome hne⟩
      · have hquic := hclean' .quic
        rw [show (r.set mode (.received (.error err))).attempts .quic = _ from hdiscarded] at hquic
        cases hquic
    cases mode with
    | quic => exact (hbooks err r.tlsErr).startTLS houtcome
    | tls => exact hbooks r.quicErr err

theorem Books.exit (houtcome : r.outcome = none) (hexit : r.continues = false) :
    Books { r with outcome := some .failed } := by
  obtain ⟨hcleanup, hclean⟩ := h.racing houtcome
  refine ⟨h.toLedger.congr rfl rfl rfl rfl, fun mode => ?_, ?_, h.transport⟩
  · rw [← h.won mode, houtcome]
    simp
  · change Accounted _ r.cleanup
    rw [hcleanup]
    refine ⟨hclean, fun _ => ?_⟩
    have hcount := h.outstanding_eq hclean
    simp only [continues, Bool.or_eq_false_iff, decide_eq_false_iff_not] at hexit
    exact hcount.trans (by omega)

omit h in
theorem winner_eq_some : r.winner = some mode ↔ r.outcome = some (.won mode) := by
  unfold winner
  split
  · next houtcome => rw [houtcome]; simp
  · next hnot => exact iff_of_false nofun (hnot mode)

/-- Outside the closing of the transport its note is up to date. -/
theorem Books.closed (hcleanup : ∀ count, r.cleanup ≠ .closingTransport .quic count)
    (hdiscarded : r.attempts .quic = .discarded result) : r.transportClosed = true :=
  (h.transport result hdiscarded).resolve_right fun ⟨count, hcount⟩ => hcleanup count hcount

theorem Books.cleanupReceive (hcleanup : r.cleanup = .waiting (count + 1))
    (hresults : r.results = (mode, result) :: rest) :
    Books { r.set mode (.late result) with results := rest, cleanup := .closingConn mode count } := by
  obtain ⟨houtcome, hcount, hlate⟩ := h.accounts hcleanup
  have hsent : r.attempts mode = .sent result := (h.sent mode result).mp (hresults ▸ .head _)
  have hledger := h.toLedger.take hresults (a := .late result) nofun nofun
  refine ⟨hledger.congr rfl rfl rfl rfl, fun mode' => ?_,
    ⟨houtcome, ?_, fun mode' hlate' => ?_⟩, fun result' hdiscarded => ?_⟩
  · refine (h.won mode').trans ?_
    grind
  · have hset := outstanding_set r mode (.late result)
    rw [hsent] at hset
    change (r.set mode (.late result)).outstanding = _
    simp only [AutoAttempt.outstanding, Bool.toNat_true, Bool.toNat_false] at hset
    omega
  · have := hlate mode'
    grind
  · have hquic : r.attempts .quic = .discarded result' := by grind
    exact .inl (h.closed (by rw [hcleanup]; nofun) hquic : r.transportClosed = true)

theorem Books.cleanupConn (hcleanup : r.cleanup = .closingConn mode count)
    (hlate : r.attempts mode = .late result) :
    Books { r.set mode (.discarded result) with cleanup := .closingTransport mode count } := by
  obtain ⟨houtcome, hcount, honly⟩ := h.accounts hcleanup
  have hledger := h.toLedger.set (a := .discarded result) (by rw [hlate]; nofun)
    (by rw [hlate]; rfl) nofun h.results fun mode' result' => by
      have := h.sent mode' result'
      grind
  refine ⟨hledger.congr rfl rfl rfl rfl, fun mode' => ?_, ⟨houtcome, ?_, fun mode' => ?_⟩,
    fun result' hdiscarded => ?_⟩
  · refine (h.won mode').trans ?_
    grind
  · have hset := outstanding_set r mode (.discarded result)
    rw [hlate] at hset
    exact hset.trans hcount
  · have hmode' := honly mode'
    rw [show _ = _ from set_attempts r mode mode' (.discarded result)]
    split_ifs with hmode
    · rfl
    · exact Bool.eq_false_iff.mpr fun htrue => hmode (hmode' htrue)
  · by_cases hmode : mode = .quic
    · exact .inr ⟨count, by rw [hmode]⟩
    · have hquic : r.attempts .quic = .discarded result' := by grind
      exact .inl (h.closed (by rw [hcleanup]; nofun) hquic : r.transportClosed = true)

theorem Books.cleanupTransport (hcleanup : r.cleanup = .closingTransport mode count) :
    Books { r with
      cleanup := .waiting count
      transportClosed := r.transportClosed || r.closesTransport mode } := by
  refine ⟨h.toLedger.congr rfl rfl rfl rfl, h.won, h.accounts hcleanup, fun result hdiscarded =>
    .inl (Bool.or_eq_true_iff.mpr ?_)⟩
  refine (h.transport result hdiscarded).imp_right fun ⟨count', hclosing⟩ => ?_
  cases hcleanup.symm.trans hclosing
  -- The winner's result was received by the selection, not by the cleanup.
  have hlost : r.winner ≠ some .quic := fun hwinner => by
    cases hdiscarded.symm.trans ((h.won .quic).mp (winner_eq_some.mp hwinner))
  simp [closesTransport, hlost]

theorem Books.cleanupFinish (hcleanup : r.cleanup = .waiting 0) :
    Books { r with cleanup := .finished } :=
  ⟨h.toLedger.congr rfl rfl rfl rfl, h.won, h.accounts hcleanup,
    fun _ hdiscarded => .inl (h.closed (by rw [hcleanup]; nofun) hdiscarded)⟩

theorem Books.act (hstep : r.act action = some r') : r'.Books := by
  cases act_acts hstep with
  | cancel houtcome => exact h.cancel houtcome _
  | fireTimer houtcome => exact h.fireTimer houtcome
  | receive houtcome hresults => exact h.receive houtcome hresults
  | exit houtcome hexit => exact h.exit houtcome hexit
  | dial hrunning => exact h.dial hrunning _
  | send hdialed => exact h.send hdialed
  | cleanupReceive hcleanup hresults => exact h.cleanupReceive hcleanup hresults
  | cleanupConn hcleanup hlate => exact h.cleanupConn hcleanup hlate
  | cleanupTransport hcleanup => exact h.cleanupTransport hcleanup
  | cleanupFinish hcleanup => exact h.cleanupFinish hcleanup

end

/-- What no action changes: the call that selects, and how the selection ended. -/
structure Advances (r r' : AutoRace) : Prop where
  owner : r'.owner = r.owner
  generation : r'.generation = r.generation
  outcome : r.outcome ≠ none → r'.outcome = r.outcome
  settled : r.outcome ≠ none → r.cleanup.settled = true → r'.cleanup = r.cleanup

theorem startTLS_frame (r : AutoRace) : r.startTLS.owner = r.owner ∧
    r.startTLS.generation = r.generation := by
  unfold AutoRace.startTLS
  split_ifs <;> exact ⟨rfl, rfl⟩

theorem received_frame (r : AutoRace) (mode : TunnelTransportMode) (result : DialResult) :
    (r.received mode result).owner = r.owner ∧ (r.received mode result).generation = r.generation := by
  cases result with
  | ok _ => exact ⟨rfl, rfl⟩
  | error err =>
    cases mode with
    | quic => exact startTLS_frame _
    | tls => exact ⟨rfl, rfl⟩

theorem act_advances (hstep : r.act action = some r') : r.Advances r' := by
  have hbusy : ∀ {cleanup}, r.cleanup = cleanup → cleanup.settled = false →
      ¬ r.cleanup.settled = true := fun h hbusy => by simp [h, hbusy]
  cases act_acts hstep with
  | cancel houtcome | exit houtcome _ =>
    exact ⟨rfl, rfl, fun h => absurd houtcome h, fun h => absurd houtcome h⟩
  | fireTimer houtcome =>
    obtain ⟨howner, hgeneration⟩ := startTLS_frame { r with timer := false }
    exact ⟨howner, hgeneration, fun h => absurd houtcome h, fun h => absurd houtcome h⟩
  | receive houtcome _ =>
    obtain ⟨howner, hgeneration⟩ := received_frame _ _ _
    exact ⟨howner, hgeneration, fun h => absurd houtcome h, fun h => absurd houtcome h⟩
  | dial | send => exact ⟨rfl, rfl, fun _ => rfl, fun _ _ => rfl⟩
  | cleanupReceive hcleanup _ | cleanupConn hcleanup _ | cleanupTransport hcleanup
  | cleanupFinish hcleanup =>
    exact ⟨rfl, rfl, fun _ => rfl, fun _ hsettled => absurd hsettled (hbusy hcleanup rfl)⟩

/-- What an action can do to an attempt that matters for its connection. -/
inductive AttemptStep (action : RaceAction) (mode : TunnelTransportMode) (cleanup : AutoCleanup) :
    AutoAttempt → AutoAttempt → Prop
  | keep (a : AutoAttempt) : AttemptStep action mode cleanup a a
  | start (a : AutoAttempt) : AttemptStep action mode cleanup a .running
  | dial (result : DialResult) (h : action = .dial mode result) :
      AttemptStep action mode cleanup .running (.dialed result)
  | send (result : DialResult) : AttemptStep action mode cleanup (.dialed result) (.sent result)
  | receive (result : DialResult) : AttemptStep action mode cleanup (.sent result) (.received result)
  | late (result : DialResult) : AttemptStep action mode cleanup (.sent result) (.late result)
  | discard (result : DialResult) (h : action = .cleanupConn) {count : Nat}
      (hcleanup : cleanup = .closingConn mode count) :
      AttemptStep action mode cleanup (.late result) (.discarded result)

theorem set_attemptStep (hstep : AttemptStep action mode r.cleanup (r.attempts mode) a)
    (mode' : TunnelTransportMode) :
    AttemptStep action mode' r.cleanup (r.attempts mode') ((r.set mode a).attempts mode') := by
  rw [set_attempts]
  split_ifs with heq
  · exact heq ▸ hstep
  · exact .keep _

theorem startTLS_attemptStep (r : AutoRace) (cleanup : AutoCleanup)
    (hstep : AttemptStep action mode cleanup a (r.attempts mode)) :
    AttemptStep action mode cleanup a (r.startTLS.attempts mode) := by
  unfold AutoRace.startTLS
  split_ifs
  · exact hstep
  · rw [show _ = _ from set_attempts r .tls mode .running]
    split_ifs
    · exact .start a
    · exact hstep

theorem act_attemptStep (h : r.Books) (hstep : r.act action = some r') (mode : TunnelTransportMode) :
    AttemptStep action mode r.cleanup (r.attempts mode) (r'.attempts mode) := by
  have hfirst : ∀ {mode result rest}, r.results = (mode, result) :: rest →
      r.attempts mode = .sent result :=
    fun hresults => (h.sent _ _).mp (hresults ▸ .head _)
  cases act_acts hstep with
  | cancel | exit | cleanupTransport | cleanupFinish => exact .keep _
  | fireTimer => exact startTLS_attemptStep _ _ (.keep _)
  | @receive _ mode' result rest hresults =>
    have hreceived : AttemptStep .receive mode' r.cleanup (r.attempts mode') (.received result) := by
      rw [hfirst hresults]
      exact .receive result
    have hset := set_attemptStep hreceived mode
    cases result with
    | ok _ => exact hset
    | error err =>
      cases mode' with
      | quic => exact startTLS_attemptStep _ _ hset
      | tls => exact hset
  | dial hrunning => exact set_attemptStep (hrunning ▸ .dial _ rfl) mode
  | send hdialed => exact set_attemptStep (hdialed ▸ .send _) mode
  | cleanupReceive _ hresults => exact set_attemptStep (hfirst hresults ▸ .late _) mode
  | cleanupConn hcleanup hlate => exact set_attemptStep (hlate ▸ .discard _ rfl hcleanup) mode

theorem AttemptStep.obtained {a' : AutoAttempt}
    (h : AttemptStep action mode cleanup a a') (hobtained : a'.obtained = true) :
    a.obtained = true ∨ action = .dial mode (.ok ()) := by
  cases h with
  | keep => exact .inl hobtained
  | start => cases hobtained
  | dial result haction =>
    cases result with
    | ok _ => exact .inr haction
    | error err => cases hobtained
  | send result | receive result | late result | discard result =>
    cases result <;> exact .inl hobtained

theorem AttemptStep.discarded {a' : AutoAttempt}
    (h : AttemptStep action mode cleanup a a') (hdiscarded : a' = .discarded (.ok ())) :
    a = .discarded (.ok ()) ∨
      (action = .cleanupConn ∧ (∃ count, cleanup = .closingConn mode count) ∧
        a.obtained = true) := by
  cases h with
  | keep => exact .inl hdiscarded
  | discard result haction hcleanup =>
    cases hdiscarded
    exact .inr ⟨haction, ⟨_, hcleanup⟩, rfl⟩
  | _ => cases hdiscarded

theorem running_of_dial (h : r.act (.dial mode result) = some r') : r.attempts mode = .running := by
  cases act_acts h with
  | dial hrunning => exact hrunning

/-- When the selection has ended and nothing is left to clean up, every attempt was received. -/
theorem Books.over (h : r.Books) (houtcome : r.outcome ≠ none) (hsettled : r.cleanup.settled = true)
    (mode : TunnelTransportMode) : r.attempts mode = .idle ∨
      ∃ result, r.attempts mode = .received result ∨ r.attempts mode = .discarded result := by
  have haccounted : r.outstanding = 0 ∧ ∀ mode, (r.attempts mode).isLate = false := by
    cases hcleanup : r.cleanup <;> rw [hcleanup] at hsettled <;> try cases hsettled
    · obtain ⟨hclean, hzero⟩ := h.accounts hcleanup
      exact ⟨hzero houtcome, fun mode => AutoAttempt.isLate_of_cleaned (hclean mode)⟩
    · exact (h.accounts hcleanup).2
  have houtstanding := countAttempts_eq_zero.mp haccounted.1 mode
  have hlate := haccounted.2 mode
  cases hmode : r.attempts mode with
  | idle => exact .inl rfl
  | received result => exact .inr ⟨result, .inl rfl⟩
  | discarded result => exact .inr ⟨result, .inr rfl⟩
  | running | dialed | sent => rw [hmode] at houtstanding; cases houtstanding
  | late result => rw [hmode] at hlate; cases hlate

/-- The cleanup waits only for results that are in the channel or still to come. -/
theorem Books.not_stuck (h : r.Books) (hcleanup : r.cleanup = .waiting (count + 1)) :
    r.results ≠ [] ∨ ∃ mode, r.attempts mode = .running ∨
      ∃ result, r.attempts mode = .dialed result := by
  have hcount := (h.accounts hcleanup).2.1
  have hsome : ¬ ∀ mode, (r.attempts mode).outstanding = false := fun hnone => by
    cases (countAttempts_eq_zero.mpr hnone).symm.trans hcount
  obtain ⟨mode, hmode⟩ := not_forall.mp hsome
  cases hattempt : r.attempts mode with
  | running => exact .inr ⟨mode, .inl hattempt⟩
  | dialed result => exact .inr ⟨mode, .inr ⟨result, hattempt⟩⟩
  | sent result => exact .inl (List.ne_nil_of_mem ((h.sent mode result).mpr hattempt))
  | _ => rw [hattempt] at hmode; cases hmode rfl

end AutoRace

end Books

end Rstream.Transport
