import Rstream.Go.Time

/-!
# The lifetime of TURN credentials

Credentials made from a personal access token end with the token. The time that is
left of the token is computed in seconds and then turned into a duration; from 2^63
nanoseconds on, about 292 years, the product wraps around.
-/

namespace Rstream.Turn

open Go

/-- `time.Time`: the seconds since 1970 and the nanoseconds within the second. -/
structure Instant where
  unix : Int64
  nsec : Fin 1000000000
  deriving DecidableEq, Repr

/-- `Time.IsZero`: the start of the year 1. -/
def Instant.isZero (t : Instant) : Bool := t.unix = -62135596800 && t.nsec = 0

def defaultTURNCredentialTTL : Int64 := 10 * 60 * 1000000000

def maxTURNCredentialTTL : Int64 := 60 * 60 * 1000000000

def normalizeTURNCredentialTTL (ttl : Int64) : Int64 :=
  if ttl ≤ 0 then defaultTURNCredentialTTL
  else if maxTURNCredentialTTL < ttl then maxTURNCredentialTTL
  else ttl

/-- `turnTokenClaims`, as far as the lifetime depends on it. -/
structure TurnTokenClaims where
  expiresAt : Option Int64

/-- `time.Until(time.Unix(seconds, 0))` while the clock shows `clock`. -/
def untilUnix (clock : Instant) (seconds : Int64) : Int64 :=
  .ofInt (timeSub (seconds.toInt * second) (clock.unix.toInt * second + clock.nsec))

def normalizePATTURNCredentialTTL (clock : Instant) (ttl : Int64) (claims : TurnTokenClaims)
    (now : Instant) : Except String Int64 :=
  let ttl := normalizeTURNCredentialTTL ttl
  match claims.expiresAt with
  | none => .error "TURN PAT mode requires an expiring PAT token"
  | some expiresAt =>
    let remaining :=
      if now.isZero then untilUnix clock expiresAt else (expiresAt - now.unix) * 1000000000
    if remaining ≤ 0 then .error "PAT token is expired"
    else if remaining < ttl then .ok remaining
    else .ok ttl

/-- A normalized lifetime is positive and at most an hour. -/
theorem normalizeTURNCredentialTTL_bounds (ttl : Int64) :
    0 < (normalizeTURNCredentialTTL ttl).toInt ∧
      (normalizeTURNCredentialTTL ttl).toInt ≤ 3600 * second := by
  unfold normalizeTURNCredentialTTL
  split
  · decide
  · next hpos =>
    split
    · decide
    · next hmax =>
      rw [Int64.not_le, Int64.lt_iff_toInt_lt] at hpos
      rw [Int64.not_lt, Int64.le_iff_toInt_le] at hmax
      exact ⟨hpos, hmax⟩

/-- The duration that is left is the product, wrapped to 64 bits. -/
theorem toInt_remaining (a b : Int64) :
    ((a - b) * 1000000000).toInt = ((a.toInt - b.toInt) * second).bmod (2 ^ 64) := by
  rw [Int64.toInt_mul, Int64.toInt_sub]
  exact Int.bmod_mul_bmod

/-- For a live token the lifetime is the minimum of the normalized lifetime and what is left of
the token exactly when the product does not wrap, or wraps to a duration that is not shorter than
the normalized lifetime. -/
theorem normalizePATTURNCredentialTTL_min_iff (clock now : Instant) (ttl expiresAt : Int64)
    (hzero : now.isZero = false) (hlive : now.unix < expiresAt) :
    (∃ lifetime, normalizePATTURNCredentialTTL clock ttl ⟨some expiresAt⟩ now = .ok lifetime ∧
        lifetime.toInt = min (normalizeTURNCredentialTTL ttl).toInt
          ((expiresAt.toInt - now.unix.toInt) * second)) ↔
      (expiresAt.toInt - now.unix.toInt) * second < 2 ^ 63 ∨
        normalizeTURNCredentialTTL ttl ≤ (expiresAt - now.unix) * 1000000000 := by
  obtain ⟨hpos, hmax⟩ := normalizeTURNCredentialTTL_bounds ttl
  have hremaining := toInt_remaining expiresAt now.unix
  have hleft : 0 < (expiresAt.toInt - now.unix.toInt) * second := by
    rw [Int64.lt_iff_toInt_lt] at hlive
    simp only [second]
    omega
  simp only [normalizePATTURNCredentialTTL, hzero, Bool.false_eq_true, if_false]
  generalize (expiresAt.toInt - now.unix.toInt) * second = left at *
  generalize (expiresAt - now.unix) * 1000000000 = remaining at *
  generalize normalizeTURNCredentialTTL ttl = limit at *
  have hexact : left < 2 ^ 63 → remaining.toInt = left := fun hsmall => by
    rw [hremaining]
    exact Int.bmod_eq_of_le (by omega) (by omega)
  have hlimit : limit.toInt < 2 ^ 63 := hmax.trans_lt (by decide)
  clear hremaining hmax
  simp only [Int64.le_iff_toInt_le, Int64.lt_iff_toInt_lt, Int64.toInt_zero]
  split
  · -- A product that wraps to nothing is neither small nor long enough.
    simp only [reduceCtorEq, false_and, exists_false, false_iff]
    omega
  · split
    all_goals
      simp only [Except.ok.injEq, exists_eq_left']
      omega

/-- A token that ends in 9223372037 seconds looks expired. -/
theorem normalizePATTURNCredentialTTL_overflow :
    normalizePATTURNCredentialTTL ⟨1700000000, 0⟩ 0 ⟨some 10923372037⟩ ⟨1700000000, 0⟩ =
      .error "PAT token is expired" := by
  decide

/-- A token with five minutes left shortens the default lifetime. -/
theorem normalizePATTURNCredentialTTL_min_iff_sample :
    ∃ lifetime, normalizePATTURNCredentialTTL ⟨1700000000, 0⟩ 0 ⟨some 1700000300⟩
        ⟨1700000000, 0⟩ = .ok lifetime ∧
      lifetime.toInt = min (normalizeTURNCredentialTTL 0).toInt
        (((1700000300 : Int64).toInt - (1700000000 : Int64).toInt) * second) :=
  (normalizePATTURNCredentialTTL_min_iff ⟨1700000000, 0⟩ ⟨1700000000, 0⟩ 0 1700000300
    (by decide) (by decide)).mpr (.inl (by decide))

end Rstream.Turn
