import Rstream.Go.Base64
import Rstream.Go.JsonStruct
import Rstream.Mtlsexec.Algorithms

/-!
# Protocol with the helper process

One run of the helper: the provider writes one JSON object to its standard input, keeps
a bounded part of what it prints, and decodes one JSON object from it when it has ended.
From an identity response it builds the enrolled identity; a signature response it
checks against the certificate of that identity.
-/

namespace Rstream.Mtlsexec

open Go

section Wire

def version : Int := 1

def maxRequestBytes : Nat := 2 * 1024 * 1024

def maxResponseBytes : Nat := 256 * 1024

def maxDataBytes : Nat := 1024 * 1024

/-- What the helper is asked to do. -/
inductive Operation
  | identity
  | sign
  deriving DecidableEq

def Operation.text : Operation → String
  | .identity => "identity"
  | .sign => "sign"

/-- `Request`, without the version and the fingerprint that every request has. -/
structure Request where
  operation : Operation
  algorithm : String
  input : String
  data : Bytes
  pssSaltLength : Option Nat
  deriving DecidableEq

/-- A member of a JSON object, unless it is to be left out. -/
def member (key : String) (leaveOut : Bool) (value : String) : List String :=
  if leaveOut then [] else [quote key ++ ":" ++ value]

/-- `json.Marshal` of a request. -/
def Request.marshal (fingerprint : String) (r : Request) : String :=
  "\x7b" ++ String.intercalate ","
    (member "version" false (toString version) ++
      member "operation" false (quote r.operation.text) ++
      member "certificateSHA256" false (quote fingerprint) ++
      member "algorithm" (r.algorithm = "") (quote r.algorithm) ++
      member "input" (r.input = "") (quote r.input) ++
      member "data" r.data.isEmpty ("\"" ++ stdEncode r.data ++ "\"") ++
      member "pssSaltLength" r.pssSaltLength.isNone (toString (r.pssSaltLength.getD 0))) ++ "\x7d"

structure Capability where
  algorithm : String
  inputs : Json.Slice String

structure Response where
  version : Int
  certificateChain : String
  capabilities : Json.Slice Capability
  signature : Json.Slice UInt8
  error : String

/-- A response before it is decoded. -/
def Response.zero : Response := ⟨0, "", .empty, .empty, ""⟩

/-- Decode one member into a capability; an unknown key is an error. -/
def Capability.setMember (c : Capability) (m : String × Json) : Option Capability :=
  if findsField "algorithm" m.1 then
    (Json.decodeString c.algorithm m.2).map fun algorithm => { c with algorithm }
  else if findsField "inputs" m.1 then
    (c.inputs.decode "" Json.decodeString m.2).map fun inputs => { c with inputs }
  else none

/-- Decode a value into a capability. -/
def Capability.decode (c : Capability) : Json → Option Capability
  | .null => some c
  | .object members => members.foldlM Capability.setMember c
  | _ => none

/-- Decode a value into a byte slice: a string in base64, or an array of numbers. -/
def decodeBytes (old : Json.Slice UInt8) : Json → Option (Json.Slice UInt8)
  | .string s => (stdDecode s).map .ofList
  | v => old.decode 0 Json.decodeByte v

/-- Decode one member into a response; an unknown key is an error. -/
def Response.setMember (r : Response) (m : String × Json) : Option Response :=
  if findsField "version" m.1 then
    (Json.decodeInt r.version m.2).map fun version => { r with version }
  else if findsField "certificateChain" m.1 then
    (Json.decodeString r.certificateChain m.2).map fun certificateChain =>
      { r with certificateChain }
  else if findsField "capabilities" m.1 then
    (r.capabilities.decode ⟨"", .empty⟩ Capability.decode m.2).map fun capabilities =>
      { r with capabilities }
  else if findsField "signature" m.1 then
    (decodeBytes r.signature m.2).map fun signature => { r with signature }
  else if findsField "error" m.1 then
    (Json.decodeString r.error m.2).map fun error => { r with error }
  else none

/-- Decode a value into a new response. -/
def Response.decode : Json → Option Response
  | .null => some .zero
  | .object members => members.foldlM Response.setMember .zero
  | _ => none

/-- The response in what the helper printed. -/
def decodeResponse (data : Bytes) : Except Error Response :=
  let invalid : Error := newError "external mTLS helper returned invalid JSON"
  match Json.decodeNext (Json.decodeText data) with
  | .value v _ rest =>
    match Response.decode v, Json.decodeNext rest with
    | none, _ => .error invalid
    | some response, .eof => .ok response
    | some _, _ => .error (newError "external mTLS helper returned trailing data")
  | _ => .error invalid

end Wire

section Process

structure LimitedOutput where
  data : Bytes
  count : Nat
  limit : Nat
  exceeded : Bool
  discard : Bool

/-- `limitedOutput.Write`; the caller cancels the context when the limit is exceeded. -/
def LimitedOutput.write (w : LimitedOutput) (data : Bytes) : LimitedOutput :=
  if data.length > w.limit - w.count then { w with exceeded := true }
  else if w.discard then { w with count := w.count + data.length }
  else { w with count := w.count + data.length, data := w.data ++ data }

/-- What `os.Stat` says of the executable. -/
structure FileInfo where
  regular : Bool
  perm : Nat

/-- What the provider sees of its host when it starts the helper. -/
structure Host where
  stat : Option FileInfo
  lookupEnv : String → Option String

/-- The variables of `helperEnvironment` after the fixed ones. -/
def passVariables (lookupEnv : String → Option String) :
    Nat → List String → List String → Except Error (List String)
  | _, env, [] => .ok env
  | size, env, name :: rest =>
    match lookupEnv name with
    | none => .error (newError "external mTLS passEnv variable is not set")
    | some value =>
      let size := size + (utf8 name).length + (utf8 value).length
      if size > 64 * 1024 ∨ Char.ofNat 0 ∈ value.toList then
        .error (newError "external mTLS environment is invalid or exceeds limit")
      else passVariables lookupEnv size (env ++ [name ++ "=" ++ value]) rest

def helperEnvironment (windows : Bool) (lookupEnv : String → Option String)
    (pass : List String) : Except Error (List String) :=
  let root := (lookupEnv "SystemRoot").getD ""
  let env := ["LANG=C", "LC_ALL=C"] ++
    (if windows = true ∧ root ≠ "" then ["SystemRoot=" ++ root] else [])
  passVariables lookupEnv 0 env pass

/-- The error of an operation whose context has ended. -/
def contextFailure (operation : Operation) (err : ContextError) : Error :=
  .wrap ("external mTLS " ++ operation.text ++ ": ") (.leaf (.context err)) ""

/-- What the helper is started with. -/
structure Launch where
  stdin : String
  env : List String

/-- The part of `run` before the helper is started. -/
def prepareRun (windows : Bool) (passEnv : List String) (fingerprint : String) (request : Request)
    (ctxErr : Option ContextError) (host : Host) : Except Error Launch := do
  if let some err := ctxErr then throw (contextFailure request.operation err)
  let unavailable : Error :=
    newError "external mTLS executable is unavailable or is not a regular file"
  match host.stat with
  | none => throw unavailable
  | some info =>
    failIf (info.regular = false) unavailable
    failIf (windows = false ∧ (info.perm &&& 0o111 = 0 ∨ info.perm &&& 0o022 ≠ 0))
      (newError "external mTLS executable is not executable or is writable by other users")
    let data := request.marshal fingerprint
    failIf ((utf8 data).length > maxRequestBytes) (newError "external mTLS request exceeds limit")
    let env ← helperEnvironment windows host.lookupEnv passEnv
    return ⟨data, env⟩

/-- What `cmd.Run` returns. -/
inductive RunResult
  | ok
  /-- An `exec.ExitError`. -/
  | exit (code : Int)
  | failed

/-- The error codes a helper may return. -/
def errorCodes : List String :=
  ["unsupported_version", "unsupported_algorithm", "identity_unavailable", "identity_mismatch",
    "signing_denied", "invalid_request", "internal_error"]

/-- The part of `run` after the helper has ended. -/
def collect (operation : Operation) (stdout stderr : LimitedOutput)
    (ctxErr : Option ContextError) (result : RunResult) : Except Error Response := do
  failIf (stdout.exceeded = true ∨ stderr.exceeded = true)
    (newError "external mTLS helper output exceeds limit")
  if let some err := ctxErr then throw (contextFailure operation err)
  match result with
  | .exit code =>
    throw (newError s!"external mTLS {operation.text} helper exited with status {code}")
  | .failed =>
    throw (newError s!"external mTLS {operation.text} helper could not execute or complete")
  | .ok =>
    let response ← decodeResponse stdout.data
    failIf (response.version ≠ version)
      (newError "external mTLS helper returned an unsupported protocol version")
    failIf (response.error ≠ "" ∧ response.error ∈ errorCodes)
      (newError s!"external mTLS {operation.text}: {response.error}")
    failIf (response.error ≠ "") (newError "external mTLS helper returned an unknown error code")
    return response

end Process

section Identity

/-- What `x509.ParseCertificate` reads, besides the raw bytes. -/
structure CertificateFields where
  publicKey : PublicKey
  notBefore : Int
  notAfter : Int
  keyUsage : Nat
  extKeyUsage : List Nat
  unknownExtKeyUsage : List String
  deriving DecidableEq

/-- `x509.Certificate`. -/
structure Certificate extends CertificateFields where
  raw : Bytes
  deriving DecidableEq

/-- `pem.Block`. -/
structure PemBlock where
  type : String
  headers : List (String × String)
  bytes : Bytes

/-- `identity`: the certificate with its chain, its signature schemes, and the input modes of each
algorithm. -/
structure Identity where
  chain : List Bytes
  leaf : Certificate
  schemes : List Nat
  inputs : List (String × List String)
  deriving DecidableEq

/-- `tls.CertificateRequestInfo`: the version, whether it has a context, and the rest. -/
structure CertificateRequestInfo where
  version : Nat
  hasContext : Bool
  acceptableCAs : List Bytes
  signatureSchemes : List Nat
  deriving DecidableEq

/-- The parts of the standard library the provider relies on. -/
structure Library extends Primitives where
  /-- `pem.Decode`: a block and what follows it. -/
  pemDecode : String → Option (PemBlock × String)
  parseFields : Bytes → Option CertificateFields
  supportsCertificate : CertificateRequestInfo → Identity → Bool

/-- `x509.ParseCertificate`: bytes after the certificate are an error, so its raw bytes are all
that was given. -/
def Library.parseCertificate (lib : Library) (der : Bytes) : Option Certificate :=
  (lib.parseFields der).map fun fields => ⟨fields, der⟩

/-- `x509.KeyUsageDigitalSignature`. -/
def keyUsageDigitalSignature : Nat := 1

/-- `x509.ExtKeyUsageAny`. -/
def extKeyUsageAny : Nat := 0

/-- `x509.ExtKeyUsageClientAuth`. -/
def extKeyUsageClientAuth : Nat := 2

def validLeaf (now : Int) (leaf : Certificate) : Except Error Unit := do
  failIf (now < leaf.notBefore ∨ leaf.notAfter ≤ now)
    (newError "external mTLS certificate is not currently valid")
  failIf (leaf.keyUsage ≠ 0 ∧ leaf.keyUsage &&& keyUsageDigitalSignature = 0)
    (newError "external mTLS certificate does not allow digital signatures")
  failIf ((leaf.extKeyUsage ≠ [] ∨ leaf.unknownExtKeyUsage ≠ []) ∧
      extKeyUsageClientAuth ∉ leaf.extKeyUsage ∧ extKeyUsageAny ∉ leaf.extKeyUsage)
    (newError "external mTLS certificate does not allow client authentication")

/-- One pass of the loop of `parseIdentity` over the blocks of a chain: the bytes of the next block,
its certificate, and what follows; nothing at the end. -/
def nextBlock (lib : Library) (full : Bool) (rest : String) :
    Except Error (Option (Bytes × Certificate × String)) :=
  if trimSpace rest = "" then .ok none
  else if hasPrefix (trimSpace rest) "-----BEGIN CERTIFICATE-----" = false then
    .error (newError "external mTLS identity must contain only PEM certificates")
  else match lib.pemDecode rest with
  | none => .error (newError "external mTLS identity has an invalid certificate chain")
  | some (block, remaining) =>
    if block.type ≠ "CERTIFICATE" ∨ block.headers ≠ [] ∨ full = true then
      .error (newError "external mTLS identity has an invalid certificate chain")
    else match lib.parseCertificate block.bytes with
    | none => .error (newError "external mTLS identity has an invalid certificate")
    | some cert => .ok (some (block.bytes, cert, remaining))

/-- The loop of `parseIdentity` over the blocks of a chain; there is room for so many more. -/
def readChain (lib : Library) : (room : Nat) → (chain : List Bytes) → (leaf : Option Certificate) →
    (rest : String) → Except Error (List Bytes × Option Certificate)
  | 0, chain, leaf, rest => (nextBlock lib true rest).map fun _ => (chain, leaf)
  | room + 1, chain, leaf, rest =>
    match nextBlock lib false rest with
    | .error err => .error err
    | .ok none => .ok (chain, leaf)
    | .ok (some (bytes, cert, remaining)) =>
      readChain lib room (chain ++ [bytes]) (leaf.or (some cert)) remaining

/-- The input modes of a capability are known, fit the algorithm, and are not repeated. -/
def validInputs (a : Algorithm) : (seen inputs : List String) → Bool
  | _, [] => true
  | seen, input :: rest =>
    (input = "message" || (input = "digest" && a.hash ≠ 0)) && input ∉ seen &&
      validInputs a (seen ++ [input]) rest

/-- One capability of `parseIdentity`. -/
def addCapability (id : Identity) (c : Capability) : Except Error Identity :=
  match findAlgorithm c.algorithm with
  | none => .error (newError
      "external mTLS identity advertises an unsupported or incompatible algorithm")
  | some a => do
    failIf (a.supports id.leaf.publicKey = false) (newError
      "external mTLS identity advertises an unsupported or incompatible algorithm")
    failIf (a.name ∈ id.inputs.map Prod.fst ∨ c.inputs.items = [] ∨ c.inputs.items.length > 2)
      (newError "external mTLS identity has invalid or duplicate capabilities")
    failIf (validInputs a [] c.inputs.items = false)
      (newError "external mTLS identity has an invalid signing input mode")
    return { id with
      inputs := id.inputs ++ [(a.name, c.inputs.items)], schemes := id.schemes ++ [a.scheme] }

def parseIdentity (lib : Library) (certificateSHA256 : Bytes) (now : Int) (response : Response) :
    Except Error Identity := do
  let capabilities := response.capabilities.items
  failIf (response.signature.items ≠ [] ∨ capabilities = [] ∨
      capabilities.length > algorithms.length)
    (newError "external mTLS identity has invalid capabilities or unexpected signature")
  match ← readChain lib 16 [] none response.certificateChain with
  | (_, none) => throw (newError "external mTLS identity has no certificate")
  | (chain, some leaf) =>
    failIf (lib.sum sha256 leaf.raw ≠ certificateSHA256) (newError
      "external mTLS certificate differs from the enrolled certificateSHA256")
    validLeaf now leaf
    capabilities.foldlM addCapability ⟨chain, leaf, [], []⟩

end Identity

section Signing

/-- The input modes that the identity advertises for an algorithm. -/
def Identity.inputsOf (id : Identity) (a : Algorithm) : List String :=
  (id.inputs.lookup a.name).getD []

/-- The data and the input mode of a signing request. -/
def signingInput (a : Algorithm) (inputs : List String) (q : SignRequest) (digest : Bytes) :
    Except Error (Bytes × String) :=
  if q.message = true ∨ a.hash = 0 then
    if "message" ∈ inputs then .ok (q.data, "message") else .ok (digest, "digest")
  else if q.data.length ≠ hashSize a.hash then
    .error (newError "external mTLS digest has the wrong length")
  else .ok (q.data, "digest")

/-- A signature that is being made: the local variables of `sign`. -/
structure Signing where
  id : Identity
  asked : SignRequest
  algorithm : Algorithm
  digest : Bytes
  request : Request
  deriving DecidableEq

/-- The part of `sign` before the helper is run. -/
def prepareSign (prim : Primitives) (id : Identity) (q : SignRequest) : Except Error Signing := do
  failIf (q.data.length > maxDataBytes) (newError "external mTLS signing input exceeds limit")
  let a ← selectAlgorithm id.leaf.publicKey q.opts
  let digest := if q.message then a.digest prim q.data else q.data
  let (data, input) ← signingInput a (id.inputsOf a) q digest
  failIf (input ∉ id.inputsOf a) (newError
    "external mTLS signer does not support the requested algorithm/input mode")
  return {
    id, asked := q, algorithm := a, digest
    request := ⟨.sign, a.name, input, data, if a.pss then some (hashSize a.hash) else none⟩ }

/-- The part of `sign` after the helper has answered. -/
def finishSign (prim : Primitives) (g : Signing) (response : Response) : Except Error Bytes := do
  let signature := response.signature.items
  failIf (response.certificateChain ≠ "" ∨ response.capabilities.items ≠ [] ∨ signature = [] ∨
      signature.length > 1024)
    (newError "external mTLS signer returned an invalid signature response")
  failIf (g.algorithm.verify prim g.id.leaf.publicKey g.digest signature = false) (newError
    "external mTLS signature does not verify against the enrolled certificate")
  return signature

end Signing

section Facts

variable {lib : Library} {pinned : Bytes} {id : Identity}

/-- An identity whose chain starts with the pinned certificate. -/
structure Enrolled (lib : Library) (pinned : Bytes) (id : Identity) : Prop where
  leaf : id.chain.head? = some id.leaf.raw
  pinned : lib.sum sha256 id.leaf.raw = pinned

/-- The certificate of a block has its bytes. -/
theorem nextBlock_raw {full : Bool} {rest remaining : String} {bytes : Bytes} {cert : Certificate}
    (h : nextBlock lib full rest = .ok (some (bytes, cert, remaining))) : cert.raw = bytes := by
  unfold nextBlock at h
  split at h
  · cases h
  split at h
  · cases h
  split at h
  · cases h
  split at h
  · cases h
  split at h
  · cases h
  next hcert =>
    cases h
    obtain ⟨fields, _, rfl⟩ := Option.map_eq_some_iff.mp hcert
    rfl

/-- The leaf is the first certificate of the chain. -/
theorem readChain_leaf {room : Nat} {chain chain' : List Bytes} {leaf leaf' : Option Certificate}
    {rest : String} (hleaf : chain.head? = leaf.map (·.raw))
    (h : readChain lib room chain leaf rest = .ok (chain', leaf')) :
    chain'.head? = leaf'.map (·.raw) := by
  induction room generalizing chain leaf rest with
  | zero =>
    simp only [readChain] at h
    cases hnext : nextBlock lib true rest with
    | error err =>
      rw [hnext] at h
      cases h
    | ok next =>
      rw [hnext] at h
      cases h
      exact hleaf
  | succ room ih =>
    simp only [readChain] at h
    split at h
    · cases h
    · cases h
      exact hleaf
    next bytes cert remaining hnext =>
      refine ih ?_ h
      cases leaf with
      | none =>
        have hnil : chain = [] := List.head?_eq_none_iff.mp hleaf
        simp [hnil, nextBlock_raw hnext]
      | some first => simp [List.head?_append, hleaf]

/-- A capability does not change the certificate. -/
theorem addCapability_certificate {id' : Identity} {c : Capability}
    (h : addCapability id c = .ok id') : id'.chain = id.chain ∧ id'.leaf = id.leaf := by
  unfold addCapability at h
  split at h
  · cases h
  · obtain ⟨_, _, h⟩ := bind_eq_ok.mp h
    obtain ⟨_, _, h⟩ := bind_eq_ok.mp h
    obtain ⟨_, _, h⟩ := bind_eq_ok.mp h
    cases h
    exact ⟨rfl, rfl⟩

theorem addCapabilities_certificate {id' : Identity} {capabilities : List Capability}
    (h : capabilities.foldlM addCapability id = .ok id') :
    id'.chain = id.chain ∧ id'.leaf = id.leaf := by
  induction capabilities generalizing id with
  | nil =>
    cases h
    exact ⟨rfl, rfl⟩
  | cons c rest ih =>
    rw [List.foldlM_cons] at h
    obtain ⟨next, hnext, hrest⟩ := bind_eq_ok.mp h
    obtain ⟨hchain, hleaf⟩ := addCapability_certificate hnext
    exact ⟨(ih hrest).1.trans hchain, (ih hrest).2.trans hleaf⟩

/-- Whatever the helper answers, an identity that was parsed is the enrolled one. -/
theorem parseIdentity_enrolled {now : Int} {response : Response}
    (h : parseIdentity lib pinned now response = .ok id) : Enrolled lib pinned id := by
  obtain ⟨_, _, h⟩ := bind_eq_ok.mp h
  obtain ⟨⟨chain, leaf⟩, hchain, h⟩ := bind_eq_ok.mp h
  have hhead := readChain_leaf (by rfl) hchain
  cases leaf with
  | none => cases h
  | some leaf =>
    obtain ⟨_, hpinned, h⟩ := bind_eq_ok.mp h
    obtain ⟨_, _, h⟩ := bind_eq_ok.mp h
    rw [failIf_eq_ok, not_not] at hpinned
    obtain ⟨hsame, hleaf⟩ := addCapabilities_certificate h
    exact ⟨by rw [hsame, hleaf]; exact hhead, by rw [hleaf]; exact hpinned⟩

/-- What `sign` has fixed before it runs the helper. -/
structure Signing.Prepared (prim : Primitives) (g : Signing) : Prop where
  selected : Selected g.id.leaf.publicKey g.asked.opts g.algorithm
  digest : g.digest = g.asked.digest prim

theorem prepareSign_eq_ok {prim : Primitives} {q : SignRequest} {g : Signing}
    (h : prepareSign prim id q = .ok g) : g.id = id ∧ g.asked = q ∧ g.Prepared prim := by
  obtain ⟨_, _, h⟩ := bind_eq_ok.mp h
  obtain ⟨a, hselect, h⟩ := bind_eq_ok.mp h
  obtain ⟨⟨data, input⟩, _, h⟩ := bind_eq_ok.mp h
  obtain ⟨_, _, h⟩ := bind_eq_ok.mp h
  cases h
  have hselected := selectAlgorithm_eq_ok hselect
  exact ⟨rfl, rfl, hselected, hselected.digest q.data q.message⟩

/-- Whatever the helper answers, a signature that is returned is valid. -/
theorem finishSign_verifies {prim : Primitives} {g : Signing} {response : Response}
    {signature : Bytes} (hg : g.Prepared prim) (h : finishSign prim g response = .ok signature) :
    Verifies prim g.id.leaf.publicKey g.asked.opts (g.asked.digest prim) signature := by
  obtain ⟨_, _, h⟩ := bind_eq_ok.mp h
  obtain ⟨_, hverify, h⟩ := bind_eq_ok.mp h
  cases h
  rw [failIf_eq_ok, Bool.not_eq_false] at hverify
  rw [← hg.digest]
  exact hg.selected.verifies hverify

end Facts

end Rstream.Mtlsexec
