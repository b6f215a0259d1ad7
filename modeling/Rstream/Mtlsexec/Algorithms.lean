import Mathlib.Data.List.Basic
import Rstream.Go.Errors

/-!
# Signature algorithms of the external signer

The provider knows ten signature algorithms. It selects one by the key of the enrolled
certificate and the options of a signing request, and it checks every signature of the
helper itself with the algorithm it selected. The primitives are those of the `crypto`
packages.
-/

namespace Rstream.Mtlsexec

open Go

abbrev Bytes := List UInt8

/-- `context.Canceled` and `context.DeadlineExceeded`. -/
inductive ContextError
  | canceled
  | deadlineExceeded
  deriving DecidableEq

/-- The errors that are told apart. -/
inductive Failure
  | text (msg : String)
  | context (err : ContextError)
  deriving DecidableEq

abbrev Error := Err Failure

/-- `errors.New`. -/
def newError (msg : String) : Error := .leaf (.text msg)

/-- A public key of a certificate. -/
inductive PublicKey
  /-- `*ecdsa.PublicKey`: the size of the curve and the point. -/
  | ecdsa (bitSize : Nat) (point : Bytes)
  | rsa (n e : Nat)
  | ed25519 (key : Bytes)
  | other
  deriving DecidableEq

/-- The primitives of the `crypto` packages. A hash is given by its `crypto.Hash` number. -/
structure Primitives where
  sum : Nat → Bytes → Bytes
  verifyASN1 : (bitSize : Nat) → (point digest signature : Bytes) → Bool
  verifyPSS : (n e hash : Nat) → (digest signature : Bytes) → (saltLength : Int) → Bool
  verifyPKCS1v15 : (n e hash : Nat) → (digest signature : Bytes) → Bool
  verifyEd25519 : (key digest signature : Bytes) → Bool

section Table

/-- `crypto.SHA256`. -/
def sha256 : Nat := 5

/-- `crypto.SHA384`. -/
def sha384 : Nat := 6

/-- `crypto.SHA512`. -/
def sha512 : Nat := 7

/-- `Hash.Size` for the hashes of the table. -/
def hashSize (hash : Nat) : Nat :=
  if hash = sha256 then 32 else if hash = sha384 then 48 else if hash = sha512 then 64 else 0

/-- The kind of key an algorithm signs with. -/
inductive KeyKind
  | ecdsa
  | rsa
  | ed25519
  deriving DecidableEq

structure Algorithm where
  name : String
  scheme : Nat
  hash : Nat
  key : KeyKind
  bits : Nat
  pss : Bool
  deriving DecidableEq

def algorithms : List Algorithm :=
  [⟨"ecdsa_secp256r1_sha256", 0x0403, sha256, .ecdsa, 256, false⟩,
    ⟨"ecdsa_secp384r1_sha384", 0x0503, sha384, .ecdsa, 384, false⟩,
    ⟨"ecdsa_secp521r1_sha512", 0x0603, sha512, .ecdsa, 521, false⟩,
    ⟨"rsa_pss_rsae_sha256", 0x0804, sha256, .rsa, 0, true⟩,
    ⟨"rsa_pss_rsae_sha384", 0x0805, sha384, .rsa, 0, true⟩,
    ⟨"rsa_pss_rsae_sha512", 0x0806, sha512, .rsa, 0, true⟩,
    ⟨"rsa_pkcs1_sha256", 0x0401, sha256, .rsa, 0, false⟩,
    ⟨"rsa_pkcs1_sha384", 0x0501, sha384, .rsa, 0, false⟩,
    ⟨"rsa_pkcs1_sha512", 0x0601, sha512, .rsa, 0, false⟩,
    ⟨"ed25519", 0x0807, 0, .ed25519, 0, false⟩]

/-- `big.Int.BitLen`. -/
def bitLen (n : Nat) : Nat := if n = 0 then 0 else n.log2 + 1

/-- `ed25519.PublicKeySize`. -/
def ed25519PublicKeySize : Nat := 32

/-- `algorithm.supports`. -/
def Algorithm.supports (a : Algorithm) : PublicKey → Bool
  | .ecdsa bitSize _ => a.key = .ecdsa && bitSize = a.bits
  | .rsa n _ => a.key = .rsa && 2048 ≤ bitLen n && bitLen n ≤ 8192
  | .ed25519 key => a.key = .ed25519 && key.length = ed25519PublicKeySize
  | .other => false

def findAlgorithm (name : String) : Option Algorithm := algorithms.find? (·.name = name)

end Table

section Options

/-- `rsa.PSSOptions`. -/
structure PSSOptions where
  saltLength : Int
  hash : Nat
  deriving DecidableEq

/-- `ed25519.Options`. -/
structure Ed25519Options where
  hash : Nat
  context : String
  deriving DecidableEq

/-- A value of `crypto.SignerOpts`; a pointer in it may be nil. -/
inductive SignerOpts
  | nil
  | pss (options : Option PSSOptions)
  | ed25519 (options : Option Ed25519Options)
  /-- A `crypto.Hash`, or options of another type with that hash. -/
  | hash (h : Nat)
  deriving DecidableEq

/-- `rsa.PSSSaltLengthEqualsHash`. -/
def pssSaltLengthEqualsHash : Int := -1

namespace SignerOpts

def hashFunc : SignerOpts → Nat
  | .pss (some options) => options.hash
  | .ed25519 (some options) => options.hash
  | .hash h => h
  | _ => 0

def isPSS : SignerOpts → Bool
  | .pss _ => true
  | _ => false

end SignerOpts

/-- The checks of `selectAlgorithm` before its search. -/
def checkOptions : SignerOpts → Except Error Unit
  | .nil => .error (newError "external mTLS signer requires signing options")
  | .pss options =>
    if options.map (·.saltLength) = some pssSaltLengthEqualsHash then .ok ()
    else .error (newError
      "external mTLS signer requires RSA-PSS salt length equal to hash length")
  | .ed25519 options =>
    if options = some ⟨0, ""⟩ then .ok ()
    else .error (newError "external mTLS signer supports only pure Ed25519")
  | .hash _ => .ok ()

def selectAlgorithm (publicKey : PublicKey) (opts : SignerOpts) : Except Error Algorithm := do
  checkOptions opts
  match algorithms.find? fun a =>
    a.supports publicKey && a.hash = opts.hashFunc && a.pss = opts.isPSS with
  | some a => return a
  | none => throw (newError "external mTLS signer does not support these signing options")

end Options

section Verification

variable (prim : Primitives)

/-- `algorithm.digest`. -/
def Algorithm.digest (a : Algorithm) (message : Bytes) : Bytes :=
  if a.hash = 0 then message else prim.sum a.hash message

/-- `algorithm.verify`. -/
def Algorithm.verify (a : Algorithm) (publicKey : PublicKey) (digest signature : Bytes) : Bool :=
  match publicKey with
  | .ecdsa bitSize point => prim.verifyASN1 bitSize point digest signature
  | .rsa n e =>
    if a.pss then prim.verifyPSS n e a.hash digest signature pssSaltLengthEqualsHash
    else prim.verifyPKCS1v15 n e a.hash digest signature
  | .ed25519 key => prim.verifyEd25519 key digest signature
  | .other => false

/-- What a caller asks for: to sign a digest, or a message whose digest the signer takes. -/
structure SignRequest where
  data : Bytes
  opts : SignerOpts
  message : Bool
  deriving DecidableEq

/-- The digest the caller asks a signature of. -/
def SignRequest.digest (q : SignRequest) : Bytes :=
  if q.message ∧ q.opts.hashFunc ≠ 0 then prim.sum q.opts.hashFunc q.data else q.data

/-- A signature is valid for a digest under a key, with the hash, the padding and the length of the
salt that the options ask for. -/
def Verifies (publicKey : PublicKey) (opts : SignerOpts) (digest signature : Bytes) : Prop :=
  match publicKey, opts with
  | .ecdsa bitSize point, _ => prim.verifyASN1 bitSize point digest signature = true
  | .rsa n e, .pss (some options) =>
    prim.verifyPSS n e options.hash digest signature options.saltLength = true
  | .rsa n e, _ => prim.verifyPKCS1v15 n e opts.hashFunc digest signature = true
  | .ed25519 key, _ => prim.verifyEd25519 key digest signature = true
  | .other, _ => False

variable {prim} {publicKey : PublicKey} {opts : SignerOpts} {a : Algorithm}

/-- An algorithm that the options of a request select. -/
structure Selected (publicKey : PublicKey) (opts : SignerOpts) (a : Algorithm) : Prop where
  options : checkOptions opts = .ok ()
  mem : a ∈ algorithms
  supports : a.supports publicKey = true
  hash : a.hash = opts.hashFunc
  pss : a.pss = opts.isPSS

theorem selectAlgorithm_eq_ok (h : selectAlgorithm publicKey opts = .ok a) :
    Selected publicKey opts a := by
  obtain ⟨_, hoptions, h⟩ := bind_eq_ok.mp h
  split at h
  next found hfind =>
    cases h
    have hpred := List.find?_some hfind
    simp only [Bool.and_eq_true, decide_eq_true_eq] at hpred
    exact ⟨hoptions, List.mem_of_find?_eq_some hfind, hpred.1.1, hpred.1.2, hpred.2⟩
  next => cases h

/-- The salt of options that passed the checks is as long as the hash. -/
theorem saltLength_of_checkOptions {options : Option PSSOptions}
    (h : checkOptions (.pss options) = .ok ()) :
    ∃ o, options = some o ∧ o.saltLength = pssSaltLengthEqualsHash := by
  simp only [checkOptions] at h
  split_ifs at h with hsalt
  exact Option.map_eq_some_iff.mp hsalt

/-- The digest of the selected algorithm is the one that was asked for. -/
theorem Selected.digest (h : Selected publicKey opts a) (data : Bytes) (message : Bool) :
    (if message then a.digest prim data else data) =
      SignRequest.digest prim ⟨data, opts, message⟩ := by
  cases message with
  | false => simp [SignRequest.digest]
  | true =>
    simp only [if_true, Algorithm.digest, SignRequest.digest, h.hash, true_and, ne_eq, ite_not]

/-- A signature that the selected algorithm accepts is the one that was asked for. -/
theorem Selected.verifies (h : Selected publicKey opts a) {digest signature : Bytes}
    (hverify : a.verify prim publicKey digest signature = true) :
    Verifies prim publicKey opts digest signature := by
  cases publicKey with
  | ecdsa | ed25519 => exact hverify
  | other => cases hverify
  | rsa n e =>
    simp only [Algorithm.verify, h.hash, h.pss] at hverify
    cases opts with
    | nil | ed25519 | hash => exact hverify
    | pss options =>
      -- The search compares the hash only; the salt was checked before it.
      obtain ⟨o, rfl, hsalt⟩ := saltLength_of_checkOptions h.options
      change prim.verifyPSS n e o.hash digest signature o.saltLength = true
      rw [hsalt]
      exact hverify

end Verification

end Rstream.Mtlsexec
