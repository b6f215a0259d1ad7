/-!
# Channels

A Go channel with room for one value, together with the history of what was done to it.
A send to a full channel blocks, and a send to a closed channel or a second `close`
panics: the history keeps these outcomes as well.
-/

namespace Rstream.Go

/-- One operation on a channel. -/
inductive ChanOp (α : Type)
  | sent (a : α)
  | closed
  /-- A send to a full channel. -/
  | blocked
  /-- A send to a closed channel, or a second `close`. -/
  | panicked

/-- A channel with room for one value. -/
structure Chan (α : Type) where
  buffer : Option α
  closed : Bool
  history : List (ChanOp α)

namespace Chan

variable {α : Type} {ch : Chan α}

/-- `make(chan α, 1)`. -/
def make : Chan α := ⟨none, false, []⟩

/-- `ch <- a`. -/
def send (a : α) (ch : Chan α) : Chan α :=
  if ch.closed then { ch with history := ch.history ++ [.panicked] }
  else if ch.buffer.isSome then { ch with history := ch.history ++ [.blocked] }
  else { ch with buffer := some a, history := ch.history ++ [.sent a] }

/-- `close(ch)`. -/
def close (ch : Chan α) : Chan α :=
  if ch.closed then { ch with history := ch.history ++ [.panicked] }
  else { ch with closed := true, history := ch.history ++ [.closed] }

@[simp] theorem make_send (a : α) : make.send a = ⟨some a, false, [.sent a]⟩ := rfl

@[simp] theorem make_close : (make : Chan α).close = ⟨none, true, [.closed]⟩ := rfl

/-- The states of a channel that gets one value or is closed once. -/
inductive Used : Chan α → Prop
  | fresh : Used make
  | full (a : α) : Used ⟨some a, false, [.sent a]⟩
  | taken (a : α) : Used ⟨none, false, [.sent a]⟩
  | closed : Used ⟨none, true, [.closed]⟩

/-- Such a channel got at most one value or was closed once, and nothing blocked or panicked. -/
theorem Used.history (h : Used ch) :
    ch.history = [] ∨ (∃ a, ch.history = [.sent a]) ∨ ch.history = [.closed] := by
  cases h with
  | fresh => exact .inl rfl
  | full a => exact .inr (.inl ⟨a, rfl⟩)
  | taken a => exact .inr (.inl ⟨a, rfl⟩)
  | closed => exact .inr (.inr rfl)

theorem Used.take {a : α} (h : Used ch) (ha : ch.buffer = some a) :
    ch = ⟨some a, false, [.sent a]⟩ := by
  cases h with
  | full b =>
    obtain rfl : b = a := Option.some.inj ha
    rfl
  | fresh | taken | closed => cases ha

/-- Such a channel holds nothing once it is closed. -/
theorem Used.of_closed (h : Used ch) (hclosed : ch.closed = true) : ch = ⟨none, true, [.closed]⟩ := by
  cases h with
  | closed => rfl
  | fresh | full | taken => cases hclosed

end Chan

end Rstream.Go
