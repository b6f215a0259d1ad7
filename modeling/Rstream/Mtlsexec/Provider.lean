import Rstream.Go.Semaphore
import Rstream.Mtlsexec.Protocol

/-!
# External signer provider

Calls of `GetClientCertificate`, `Check`, `Sign` and `SignMessage` run at the same time
on one provider. They share the cached identity and two channels used as semaphores:
`loading` for the one load of the identity, and `gate` for the helper processes. What
the helper prints, when it ends and with which status is not restricted, and contexts
may end at any time.
-/

namespace Rstream.Mtlsexec

open Go

section State

/-- The provider's options, the system it runs on, and the libraries it uses. -/
structure Config where
  lib : Library
  windows : Bool
  passEnv : List String
  certificateSHA256 : Bytes
  maxConcurrency : Nat

/-- The context of a call: its own error, and the error of the context it comes from. -/
structure Ctx where
  err : Option ContextError
  parent : Option ContextError

namespace Ctx

/-- `context.WithTimeout`. -/
def withTimeout (c : Ctx) : Ctx := { c with err := c.parent }

/-- The context ends, unless it has ended. -/
def fail (c : Ctx) (err : ContextError) : Ctx := { c with err := c.err.or (some err) }

/-- The context it comes from ends. -/
def failParent (c : Ctx) (err : ContextError) : Ctx :=
  { c.fail err with parent := c.parent.or (some err) }

end Ctx

/-- What `loadIdentity` was called for. -/
inductive Goal
  | certificate (request : CertificateRequestInfo)
  | check

/-- The algorithms that `Check` has not tried, and its challenge. -/
structure Checking where
  challenge : Bytes
  rest : List Algorithm

/-- What the helper is run for. -/
inductive Task
  | identity (goal : Goal)
  /-- A signature, for a caller or for `Check`. -/
  | sign (signing : Signing) (check : Option Checking)

/-- The request of a task. -/
def Task.request : Task → Request
  | .identity _ => ⟨.identity, "", "", [], none⟩
  | .sign signing _ => signing.request

/-- What the methods of the provider and its signers return. -/
inductive Output
  | certificate (id : Identity)
  | signature (signing : Signing) (signature : Bytes)
  | leaf (cert : Certificate)

/-- Where a call stands. -/
inductive Phase
  | idle
  /-- In `loadIdentity`, before it looks at the cache. -/
  | entering (goal : Goal)
  /-- Waiting for `loading`. -/
  | loadWait (goal : Goal)
  /-- Before it looks at the cache again. -/
  | loadHeld (goal : Goal)
  /-- In `run`, waiting for `gate`. -/
  | gateWait (task : Task)
  /-- Before the helper is started. -/
  | gateHeld (task : Task)
  /-- The helper runs. -/
  | running (task : Task) (launch : Launch) (stdout stderr : LimitedOutput)
  /-- The helper has answered a request for the identity. -/
  | storing (goal : Goal) (result : Except Error Response)
  /-- Before `loading` is given back. -/
  | unloading (goal : Goal) (result : Except Error Identity)
  /-- `loadIdentity` has returned. -/
  | loaded (goal : Goal) (id : Identity)
  /-- At the head of the loop of `Check`. -/
  | checking (id : Identity) (check : Checking)
  | returned (result : Except Error Output)

namespace Phase

/-- The call has put a value into `gate`. -/
def holdsGate : Phase → Bool
  | .gateHeld _ | .running .. => true
  | _ => false

/-- The call has put a value into `loading`. -/
def holdsLoading : Phase → Bool
  | .loadHeld _ | .gateWait (.identity _) | .gateHeld (.identity _)
  | .running (.identity _) .. | .storing .. | .unloading .. => true
  | _ => false

/-- A helper process of the call runs. -/
def isRunning : Phase → Bool
  | .running .. => true
  | _ => false

end Phase

/-- A call: where it stands, and its context. -/
structure Call where
  phase : Phase
  ctx : Ctx

/-- `Provider`, with its calls and everything they have returned. -/
structure Provider where
  gate : Semaphore
  loading : Semaphore
  identity : Option Identity
  calls : Nat → Call
  outputs : List Output

end State

section Actions

/-- What an action does to a channel. -/
inductive SemOp
  | keep
  | acquire
  | release

def SemOp.apply : SemOp → Semaphore → Option Semaphore
  | .keep, sem => some sem
  | .acquire, sem => sem.acquire
  | .release, sem => sem.release

/-- What an action of a call does: the call afterwards, the channel operations, the identity it
stores, and what is returned. -/
structure Effect where
  call : Call
  gate : SemOp
  loading : SemOp
  identity : Option Identity
  outputs : List Output

/-- One action of one call, with what it sees of its surroundings. -/
inductive Action
  | getClientCertificate (request : Option CertificateRequestInfo) (parent : Option ContextError)
  | check (parent : Option ContextError)
  /-- `Sign` or `SignMessage` of the signer of a certificate that was returned. -/
  | sign (output : Nat) (q : SignRequest) (parent : Option ContextError)
  /-- The context of the caller ends. -/
  | cancel (err : ContextError)
  /-- The timeout of the context is over. -/
  | expire
  /-- `cachedIdentity`. -/
  | look
  | acquireLoading
  | acquireGate
  /-- The other case of a `select` with a channel: the context has ended. -/
  | ctxDone
  | start (host : Host)
  | printStdout (data : Bytes)
  | printStderr (data : Bytes)
  /-- The helper has ended. -/
  | finish (result : RunResult)
  | store (now : Int)
  | releaseLoading
  /-- The end of `GetClientCertificate`. -/
  | present (now : Int)
  /-- `rand.Read` in `Check`. -/
  | challenge (result : Except String Bytes)
  | nextCheck

namespace Call

variable (cfg : Config) (c : Call)

/-- Go on without an effect on the rest. -/
def goTo (phase : Phase) : Effect := ⟨{ c with phase }, .keep, .keep, none, []⟩

/-- Return an error. -/
def fails (err : Error) : Effect := c.goTo (.returned (.error err))

/-- Return a value. -/
def returns (output : Output) : Effect :=
  { c.goTo (.returned (.ok output)) with outputs := [output] }

/-- `GetClientCertificate` up to `loadIdentity`. -/
def getClientCertificate (request : Option CertificateRequestInfo) : Effect :=
  match request with
  | none => c.fails (newError "external mTLS signer requires TLS 1.2 or later")
  | some r =>
    if r.version < 0x0303 then c.fails (newError "external mTLS signer requires TLS 1.2 or later")
    else if r.hasContext = false then
      c.fails (newError "external mTLS signer requires a handshake context")
    else c.goTo (.entering (.certificate r))

/-- `sign` up to `run`. -/
def beginSign (id : Identity) (q : SignRequest) (check : Option Checking) : Effect :=
  match prepareSign cfg.lib.toPrimitives id q with
  | .error err => c.fails err
  | .ok signing => { c with ctx := c.ctx.withTimeout }.goTo (.gateWait (.sign signing check))

/-- A look at the cache. -/
def look (cached : Option Identity) : Option Effect :=
  match c.phase, cached with
  | .entering goal, some id => some (c.goTo (.loaded goal id))
  | .entering goal, none => some ({ c with ctx := c.ctx.withTimeout }.goTo (.loadWait goal))
  | .loadHeld goal, some id => some (c.goTo (.unloading goal (.ok id)))
  | .loadHeld goal, none => some (c.goTo (.gateWait (.identity goal)))
  | _, _ => none

def acquireLoading : Option Effect :=
  match c.phase with
  | .loadWait goal => some { c.goTo (.loadHeld goal) with loading := .acquire }
  | _ => none

def acquireGate : Option Effect :=
  match c.phase with
  | .gateWait task => some { c.goTo (.gateHeld task) with gate := .acquire }
  | _ => none

/-- The end of a run of the helper. -/
def runEnds (task : Task) (result : Except Error Response) : Effect :=
  match task with
  | .identity goal => c.goTo (.storing goal result)
  | .sign signing check =>
    match result.bind (finishSign cfg.lib.toPrimitives signing) with
    | .error err => c.fails err
    | .ok signature =>
      match check with
      | none => c.returns (.signature signing signature)
      | some check =>
        { c.goTo (.checking signing.id check) with outputs := [.signature signing signature] }

/-- The context ends during a `select`. -/
def ctxDone : Option Effect :=
  match c.phase, c.ctx.err with
  | .loadWait _, some err =>
    some (c.fails (.wrap "external mTLS identity: " (.leaf (.context err)) ""))
  | .gateWait task, some err =>
    some (c.runEnds cfg task (.error (contextFailure task.request.operation err)))
  | _, _ => none

/-- The part of `run` before the helper is started. -/
def start (host : Host) : Option Effect :=
  match c.phase with
  | .gateHeld task =>
    match prepareRun cfg.windows cfg.passEnv (hex cfg.certificateSHA256) task.request c.ctx.err
        host with
    | .error err => some { c.runEnds cfg task (.error err) with gate := .release }
    | .ok launch =>
      some (c.goTo (.running task launch ⟨[], 0, maxResponseBytes, false, false⟩
        ⟨[], 0, 4096, false, true⟩))
  | _ => none

/-- The context after a write to a limited output. -/
def afterWrite (w : LimitedOutput) : Call :=
  if w.exceeded then { c with ctx := c.ctx.fail .canceled } else c

/-- The helper prints; nobody reads an output after its limit. -/
def printStdout (data : Bytes) : Option Effect :=
  match c.phase with
  | .running task launch stdout stderr =>
    if stdout.exceeded then none
    else some ((c.afterWrite (stdout.write data)).goTo
      (.running task launch (stdout.write data) stderr))
  | _ => none

def printStderr (data : Bytes) : Option Effect :=
  match c.phase with
  | .running task launch stdout stderr =>
    if stderr.exceeded then none
    else some ((c.afterWrite (stderr.write data)).goTo
      (.running task launch stdout (stderr.write data)))
  | _ => none

/-- The helper has ended, and `run` returns. -/
def finish (result : RunResult) : Option Effect :=
  match c.phase with
  | .running task _ stdout stderr =>
    some { c.runEnds cfg task (collect task.request.operation stdout stderr c.ctx.err result) with
      gate := .release }
  | _ => none

/-- The end of `loadIdentity` after its run of the helper. -/
def store (now : Int) : Option Effect :=
  match c.phase with
  | .storing goal result =>
    match result.bind (parseIdentity cfg.lib cfg.certificateSHA256 now) with
    | .error err => some (c.goTo (.unloading goal (.error err)))
    | .ok id => some { c.goTo (.unloading goal (.ok id)) with identity := some id }
  | _ => none

def releaseLoading : Option Effect :=
  match c.phase with
  | .unloading _ (.error err) => some { c.fails err with loading := .release }
  | .unloading goal (.ok id) => some { c.goTo (.loaded goal id) with loading := .release }
  | _ => none

/-- The end of `GetClientCertificate`. -/
def present (now : Int) : Option Effect :=
  match c.phase with
  | .loaded (.certificate request) id =>
    match validLeaf now id.leaf with
    | .error err => some (c.fails err)
    | .ok _ =>
      if cfg.lib.supportsCertificate request id then some (c.returns (.certificate id))
      else some (c.fails (newError
        "external mTLS identity is incompatible with the server certificate request"))
  | _ => none

/-- `rand.Read` in `Check`. -/
def challenge (result : Except String Bytes) : Option Effect :=
  match c.phase, result with
  | .loaded .check _, .error err => some (c.fails (newError err))
  | .loaded .check id, .ok data => some (c.goTo (.checking id ⟨data, algorithms⟩))
  | _, _ => none

/-- The options with which `Check` tries an algorithm. -/
def checkOpts (a : Algorithm) : SignerOpts :=
  if a.pss then .pss (some ⟨pssSaltLengthEqualsHash, a.hash⟩) else .hash a.hash

/-- One pass of the loop of `Check`, or its end. -/
def nextCheck : Option Effect :=
  match c.phase with
  | .checking id ⟨challenge, a :: rest⟩ =>
    if a.name ∉ id.inputs.map Prod.fst then some (c.goTo (.checking id ⟨challenge, rest⟩))
    else some (c.beginSign cfg id ⟨challenge, checkOpts a, true⟩ (some ⟨challenge, rest⟩))
  | .checking id ⟨_, []⟩ =>
    match cfg.lib.parseCertificate id.leaf.raw with
    | some cert => some (c.returns (.leaf cert))
    | none => some (c.fails (newError "x509: malformed certificate"))
  | _ => none

/-- A call that has not begun. -/
def begin (parent : Option ContextError) : Option Call :=
  match c.phase with
  | .idle => some ⟨.idle, ⟨parent, parent⟩⟩
  | _ => none

end Call

namespace Provider

variable (cfg : Config) (s : Provider)

/-- The signer of a certificate that was returned. -/
def signer (output : Nat) : Option Identity :=
  match s.outputs[output]? with
  | some (.certificate id) => some id
  | _ => none

/-- What an action of a call does; nothing if it is not possible. -/
def act (c : Call) : Action → Option Effect
  | .getClientCertificate request parent => (c.begin parent).map (·.getClientCertificate request)
  | .check parent => (c.begin parent).map (·.goTo (.entering .check))
  | .sign output q parent =>
    (c.begin parent).bind fun c => (s.signer output).map fun id => c.beginSign cfg id q none
  | .cancel err => some ({ c with ctx := c.ctx.failParent err }.goTo c.phase)
  | .expire => some ({ c with ctx := c.ctx.fail .deadlineExceeded }.goTo c.phase)
  | .look => c.look s.identity
  | .acquireLoading => c.acquireLoading
  | .acquireGate => c.acquireGate
  | .ctxDone => c.ctxDone cfg
  | .start host => c.start cfg host
  | .printStdout data => c.printStdout data
  | .printStderr data => c.printStderr data
  | .finish result => c.finish cfg result
  | .store now => c.store cfg now
  | .releaseLoading => c.releaseLoading
  | .present now => c.present cfg now
  | .challenge result => c.challenge result
  | .nextCheck => c.nextCheck cfg

/-- The state after an effect of a call; nothing while a channel is not ready. -/
def apply (i : Nat) (e : Effect) : Option Provider :=
  (e.gate.apply s.gate).bind fun gate => (e.loading.apply s.loading).map fun loading =>
    { gate, loading
      identity := e.identity.or s.identity
      calls := Function.update s.calls i e.call
      outputs := s.outputs ++ e.outputs }

/-- One action of one call. -/
def step (event : Nat × Action) : Option Provider :=
  (s.act cfg (s.calls event.1) event.2).bind (s.apply event.1)

/-- A new provider. -/
def new : Provider where
  gate := .make cfg.maxConcurrency
  loading := .make 1
  identity := none
  calls _ := ⟨.idle, ⟨none, none⟩⟩
  outputs := []

/-- A run of the calls on a provider. -/
def run (events : List (Nat × Action)) : Option Provider := events.foldlM (step cfg) (new cfg)

end Provider

end Actions

end Rstream.Mtlsexec
