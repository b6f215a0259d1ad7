import Rstream.Transport.QuicBarrier

/-!
# `net.ErrClosed` without a `Close`

`Close` and `invalidateConnection` share the generation of a transport, and a `Dial` inside
`connection` that finds the generation advanced returns `net.ErrClosed`. Without a `Close` that
happens only when a connection is invalidated while a `Dial` is inside.
-/

namespace Rstream.Transport

open Rstream.Core Function

/-- A move without a `Close`: no foreign function returns `net.ErrClosed`, and no connection is
invalidated while a `Dial` is inside `connection`. -/
structure Unclosed (t : QuicThread) (at₁ : QuicThread → QuicPoint) (s : Quic) (p : QuicPoint)
    (s' : Quic) : Prop where
  close : at₁ t ≠ .locking
  validate : at₁ t = .validating → p ≠ .failing netErrClosed
  connect : ∀ i g, at₁ t = .connecting i g → p ≠ .cancelling i g (some netErrClosed)
  invalidate : s'.closeGeneration ≠ s.closeGeneration →
    ∀ n, (at₁ (.dial n)).Seeks → (s.dials n).generation = none

/-- The errors a `Dial` has at a point are not `net.ErrClosed`. -/
@[simp, grind =]
def QuicPoint.Honest : QuicPoint → Prop
  | failing err => err ≠ netErrClosed
  | cancelling _ _ err | settling _ _ err => err ≠ some netErrClosed
  | losing _ err | closing _ _ err => err ≠ none
  | _ => True

/-- A `Dial` inside `connection` is in the current generation, and no `Dial` has or returns
`net.ErrClosed`. -/
structure Honest (at₁ : QuicThread → QuicPoint) (s : Quic) : Prop where
  current : ∀ n, (at₁ (.dial n)).Seeks → s.Current n
  knows : ∀ n, (at₁ (.dial n)).Knows (s.dials n)
  honest : ∀ n, (at₁ (.dial n)).Honest
  log : ∀ n, .returnsError n netErrClosed ∉ s.log

theorem append_ne_netErrClosed {m : String} (rest : String)
    (h : m.toList.head?.any (· ≠ 'u')) : m ++ rest ≠ netErrClosed := by
  intro heq
  have hhead := congrArg (fun s => s.toList.head?) heq
  simp only [String.toList_append, List.head?_append] at hhead
  generalize m.toList.head? = head at h hhead
  cases head with
  | none => cases h
  | some c => simp_all [netErrClosed]

theorem QuicPoint.after_honest {n : Nat} {err : Option String} (h : err ≠ none) :
    (after (.dial n) err).Honest := by
  cases err with
  | none => exact absurd rfl h
  | some err => trivial

section Step

variable {origin : Nat → String} {at₁ : QuicThread → QuicPoint} {s s' : Quic} {t : QuicThread}
  {p : QuicPoint}

theorem Honest.step (h : Honest at₁ s) (hmove : QuicMove s t (at₁ t) p s')
    (hallow : Unclosed t at₁ s p s') : Honest (update at₁ t p) s' := by
  have hrefused := append_ne_netErrClosed (m := "QUIC transport already connected to ") s.origin
    (by decide)
  have hfailed := fun err => append_ne_netErrClosed (m := "failed to open QUIC stream: ") err
    (by decide)
  have hcancelled : "context canceled" ≠ netErrClosed := by decide
  obtain ⟨current, knows, honest, log⟩ := h
  obtain ⟨close, validate, connect, invalidate⟩ := hallow
  generalize hq : at₁ t = q at *
  cases hmove with
  | pass hpass =>
    cases hpass <;> constructor <;> simp -failIfUnchanged only [update_apply, Quic.Current] at * <;>
      grind [QuicPoint.after_honest, QuicPoint.after_knows, QuicPoint.entry]
  | _ =>
    constructor <;> simp -failIfUnchanged only [Quic.stamp, Quic.note, Quic.setDial, Quic.setHolder,
      Quic.setBundle, Quic.detach, Quic.land, update_apply, Quic.Current, List.mem_append,
      List.mem_singleton] at * <;>
      grind [QuicPoint.after_honest, QuicPoint.after_knows]

end Step

end Rstream.Transport
