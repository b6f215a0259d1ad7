import Mathlib.Data.Set.Card

/-!
# Semaphores

A buffered channel of empty values used as a semaphore: a send takes a place and waits
while there is none, and a receive gives it back. When the holders are exactly the
places taken, no more than the capacity hold one at a time.
-/

namespace Rstream.Go

/-- A channel of empty values: how many it holds, and how many it has room for. -/
structure Semaphore where
  capacity : Nat
  tokens : Nat
  deriving DecidableEq

namespace Semaphore

/-- `make(chan struct{}, capacity)`. -/
def make (capacity : Nat) : Semaphore := ⟨capacity, 0⟩

/-- `ch <- struct{}{}`; nothing while the channel is full. -/
def acquire (sem : Semaphore) : Option Semaphore :=
  if sem.tokens < sem.capacity then some { sem with tokens := sem.tokens + 1 } else none

/-- `<-ch`; nothing while the channel is empty. -/
def release (sem : Semaphore) : Option Semaphore :=
  if 0 < sem.tokens then some { sem with tokens := sem.tokens - 1 } else none

variable {ι : Type} {sem sem' : Semaphore} {holds holds' : ι → Prop} {i : ι}

/-- The places taken are those of the holders. -/
structure HeldBy (sem : Semaphore) (holds : ι → Prop) : Prop where
  fits : sem.tokens ≤ sem.capacity
  counts : {i | holds i}.encard = sem.tokens

namespace HeldBy

theorem make {capacity : Nat} (h : ∀ i, ¬ holds i) : (make capacity).HeldBy holds where
  fits := Nat.zero_le _
  counts := by
    have hempty : {i | holds i} = ∅ := Set.eq_empty_of_forall_notMem h
    rw [hempty, Set.encard_empty]
    rfl

/-- The holders may be described in another way. -/
theorem congr (h : sem.HeldBy holds) (hsame : ∀ j, holds' j ↔ holds j) : sem.HeldBy holds' where
  fits := h.fits
  counts := by
    have hset : {j | holds' j} = {j | holds j} := Set.ext hsame
    rw [hset, h.counts]

/-- One that does not hold a place takes one. -/
theorem acquire (h : sem.HeldBy holds) (hacquire : sem.acquire = some sem') (hi : ¬ holds i)
    (hnew : ∀ j, holds' j ↔ j = i ∨ holds j) : sem'.HeldBy holds' := by
  unfold Semaphore.acquire at hacquire
  split at hacquire
  case isFalse => cases hacquire
  case isTrue hroom =>
    cases hacquire
    refine ⟨hroom, ?_⟩
    have hset : {j | holds' j} = insert i {j | holds j} := Set.ext hnew
    have hnot : i ∉ {j | holds j} := hi
    rw [hset, Set.encard_insert_of_notMem hnot, h.counts]
    rfl

/-- A holder gives its place back. -/
theorem release (h : sem.HeldBy holds) (hrelease : sem.release = some sem') (hi : holds i)
    (hrest : ∀ j, holds' j ↔ j ≠ i ∧ holds j) : sem'.HeldBy holds' := by
  unfold Semaphore.release at hrelease
  split at hrelease
  case isFalse => cases hrelease
  case isTrue hsome =>
    cases hrelease
    refine ⟨(Nat.sub_le _ _).trans h.fits, ?_⟩
    have hset : {j | holds' j} = {j | holds j} \ {i} := by
      ext j
      exact (hrest j).trans and_comm
    have hmem : i ∈ {j | holds j} := hi
    rw [hset, Set.encard_sdiff_singleton_of_mem hmem, h.counts]
    exact (ENat.natCast_sub sem.tokens 1).symm

/-- There are no more holders than the capacity, nor of any who must be holders. -/
theorem encard_le {p : ι → Prop} (h : sem.HeldBy holds) (hp : ∀ j, p j → holds j) :
    {j | p j}.encard ≤ sem.capacity :=
  calc {j | p j}.encard ≤ {j | holds j}.encard := Set.encard_le_encard hp
    _ = sem.tokens := h.counts
    _ ≤ sem.capacity := Nat.cast_le.mpr h.fits

end HeldBy

end Semaphore

end Rstream.Go
