import Mathlib.Data.List.Infix

/-!
# Buffered reading and writing

The `Reader` and `Writer` of the `bufio` package over a connection, and
`io.ReadFull` on such a reader. A connection is described by what it does at each
coming call: how many elements a read hands over and whether it also returns an
error, or after how many elements a write fails. Nothing is lost between the
connection and the buffer, and a writer that failed once never writes again.
-/

namespace Rstream.Go

open List Option

variable {α : Type} {failed : Bool} {n : Nat}

/-- The reading direction of a connection. -/
structure Source (α : Type) where
  /-- What is still to be delivered. -/
  stream : List α
  /-- For each coming read the most it delivers, and whether it returns an error as well. -/
  script : List (Nat × Bool)
  deriving DecidableEq, Repr

/-- `Read` of the connection into a buffer of `n` elements; `none` is a read that waits. -/
def Source.read (c : Source α) (n : Nat) : Option ((List α × Bool) × Source α) :=
  match c.script with
  | [] => none
  | (k, failed) :: script =>
    some ((c.stream.take (min k n), failed), ⟨c.stream.drop (min k n), script⟩)

/-- What one read of the connection does. -/
structure Source.Reads (c : Source α) (n : Nat) (data : List α) (c' : Source α) : Prop where
  stream : c.stream = data ++ c'.stream
  length : data.length ≤ n
  script : c.script.length = c'.script.length + 1

variable {data : List α}

theorem Source.reads_of_read {c c' : Source α}
    (h : c.read n = some ((data, failed), c')) : c.Reads n data c' := by
  obtain ⟨stream, script⟩ := c
  cases script with
  | nil => simp [Source.read] at h
  | cons entry script =>
    simp only [Source.read, some.injEq, Prod.mk.injEq] at h
    obtain ⟨⟨rfl, -⟩, rfl⟩ := h
    exact ⟨(take_append_drop _ _).symm, by rw [length_take]; omega, rfl⟩

/-- `bufio.Reader`: the elements between its two indexes and the stored error. -/
structure Reader (α : Type) where
  size : Nat
  buf : List α
  err : Bool
  rd : Source α
  deriving DecidableEq, Repr

namespace Reader

/-- What the calls of the reader have not returned yet. -/
def unread (b : Reader α) : List α := b.buf ++ b.rd.stream

/-- `bufio.Reader.Read` into a buffer of `n` elements. -/
def read (b : Reader α) (n : Nat) : Option ((List α × Bool) × Reader α) :=
  if n = 0 then
    if b.buf.isEmpty then some (([], b.err), { b with err := false }) else some (([], false), b)
  else if !b.buf.isEmpty then
    some ((b.buf.take n, false), { b with buf := b.buf.drop n })
  else if b.err then some (([], true), { b with err := false })
  else if b.size ≤ n then
    -- A large read bypasses the buffer.
    match b.rd.read n with
    | none => none
    | some (result, rd) => some (result, { b with rd := rd })
  else
    match b.rd.read b.size with
    | none => none
    | some ((data, failed), rd) =>
      if data.isEmpty then some (([], failed), { b with rd := rd })
      else some ((data.take n, false), { b with buf := data.drop n, err := failed, rd := rd })

/-- What one successful or failed read does; without an error it makes progress. -/
structure Reads (b : Reader α) (n : Nat) (data : List α) (failed : Bool) (b' : Reader α) :
    Prop where
  unread : b.unread = data ++ b'.unread
  length : data.length ≤ n
  progress : failed = false → n ≠ 0 →
    b'.rd.script.length + (n - data.length) < b.rd.script.length + n

theorem reads_of_read {b b' : Reader α}
    (h : b.read n = some ((data, failed), b')) : b.Reads n data failed b' := by
  unfold read at h
  split_ifs at h with hzero hempty hbuf herr hsize
  · simp only [some.injEq, Prod.mk.injEq] at h
    obtain ⟨⟨rfl, -⟩, rfl⟩ := h
    exact ⟨rfl, by simp, fun _ hn => absurd hzero hn⟩
  · simp only [some.injEq, Prod.mk.injEq] at h
    obtain ⟨⟨rfl, -⟩, rfl⟩ := h
    exact ⟨rfl, by simp, fun _ hn => absurd hzero hn⟩
  · simp only [some.injEq, Prod.mk.injEq] at h
    obtain ⟨⟨rfl, -⟩, rfl⟩ := h
    have hpos : 0 < b.buf.length := by
      rw [length_pos_iff]
      simpa using hbuf
    refine ⟨?_, length_take_le .., fun _ _ => ?_⟩
    · simp only [Reader.unread]
      rw [← append_assoc, take_append_drop]
    · simp only [length_take]
      omega
  · simp only [some.injEq, Prod.mk.injEq] at h
    obtain ⟨⟨rfl, rfl⟩, rfl⟩ := h
    exact ⟨rfl, by simp, fun hf => absurd hf (by simp)⟩
  · rcases hread : b.rd.read n with _ | ⟨⟨got, failed'⟩, rd⟩
    · simp [hread] at h
    simp only [hread, some.injEq, Prod.mk.injEq] at h
    obtain ⟨⟨rfl, -⟩, rfl⟩ := h
    have hreads := Source.reads_of_read hread
    have hscript := hreads.script
    exact ⟨by simp_all [Reader.unread, hreads.stream], hreads.length,
      fun _ _ => by dsimp only; omega⟩
  · rcases hread : b.rd.read b.size with _ | ⟨⟨got, failed'⟩, rd⟩
    · simp [hread] at h
    have hreads := Source.reads_of_read hread
    have hscript := hreads.script
    have hnil : b.buf = [] := by simpa using hbuf
    simp only [hread] at h
    split_ifs at h with hgot
    · simp only [some.injEq, Prod.mk.injEq] at h
      obtain ⟨⟨rfl, -⟩, rfl⟩ := h
      have hgot : got = [] := by simpa using hgot
      exact ⟨by simp [Reader.unread, hnil, hreads.stream, hgot], by simp,
        fun _ _ => by dsimp only; omega⟩
    · simp only [some.injEq, Prod.mk.injEq] at h
      obtain ⟨⟨rfl, -⟩, rfl⟩ := h
      refine ⟨?_, length_take_le .., fun _ _ => by dsimp only; omega⟩
      simp only [Reader.unread, hnil, hreads.stream, nil_append]
      rw [← append_assoc, take_append_drop]

/-- `io.ReadFull` into a buffer of `n` elements: an error that comes with the last element
is dropped. -/
def readFull (b : Reader α) (n : Nat) : Option ((List α × Bool) × Reader α) :=
  if n = 0 then some (([], false), b)
  else
    match hread : b.read n with
    | none => none
    | some ((data, true), b') => some ((data, decide (data.length < n)), b')
    | some ((data, false), b') =>
      match b'.readFull (n - data.length) with
      | none => none
      | some ((rest, failed), b'') => some ((data ++ rest, failed), b'')
termination_by b.rd.script.length + n
decreasing_by exact (reads_of_read hread).progress rfl ‹_›

/-- What a full read takes is what it returns; without an error that is all it was asked for. -/
theorem readFull_spec {b b' : Reader α} (h : b.readFull n = some ((data, failed), b')) :
    b.unread = data ++ b'.unread ∧ (failed = false → data.length = n) := by
  fun_induction readFull b n generalizing data failed b' with
  | case1 b =>
    simp only [some.injEq, Prod.mk.injEq] at h
    obtain ⟨⟨rfl, rfl⟩, rfl⟩ := h
    simp
  | case2 | case4 => cases h
  | case3 b n hn got c hread =>
    simp only [some.injEq, Prod.mk.injEq] at h
    obtain ⟨⟨rfl, rfl⟩, rfl⟩ := h
    have hreads := reads_of_read hread
    have hlength := hreads.length
    refine ⟨hreads.unread, fun hfull => ?_⟩
    simp only [decide_eq_false_iff_not] at hfull
    omega
  | case5 b n hn got c hread rest failed' c' hrest ih =>
    simp only [some.injEq, Prod.mk.injEq] at h
    obtain ⟨⟨rfl, rfl⟩, rfl⟩ := h
    have hreads := reads_of_read hread
    have hlength := hreads.length
    obtain ⟨hunread, hfull⟩ := ih hrest
    refine ⟨?_, fun hok => ?_⟩
    · rw [hreads.unread, hunread, append_assoc]
    · rw [length_append, hfull hok]
      omega

end Reader

/-- The writing direction of a connection. -/
structure Sink (α : Type) where
  /-- What was put on the connection. -/
  out : List α
  /-- For each coming write the number of elements after which it fails, if it does. -/
  script : List (Option Nat)
  deriving DecidableEq, Repr

/-- `Write` of the connection: the number of elements taken, and whether it failed. A write
that takes less than it was given fails. -/
def Sink.write (c : Sink α) (p : List α) : (Nat × Bool) × Sink α :=
  match c.script with
  | some k :: script =>
    ((min k p.length, true), ⟨c.out ++ p.take (min k p.length), script⟩)
  | none :: script => ((p.length, false), ⟨c.out ++ p, script⟩)
  | [] => ((p.length, false), ⟨c.out ++ p, []⟩)

/-- What one write of the connection does. -/
structure Sink.Writes (c : Sink α) (p : List α) (n : Nat) (failed : Bool) (c' : Sink α) :
    Prop where
  out : c'.out = c.out ++ p.take n
  complete : failed = false → n = p.length

variable {p : List α}

theorem Sink.writes_of_write {c c' : Sink α}
    (h : c.write p = ((n, failed), c')) : c.Writes p n failed c' := by
  obtain ⟨out, script⟩ := c
  rcases script with _ | ⟨_ | k, script⟩ <;>
    (simp only [Sink.write, Prod.mk.injEq] at h; obtain ⟨⟨rfl, rfl⟩, rfl⟩ := h)
  · exact ⟨by simp, fun _ => rfl⟩
  · exact ⟨by simp, fun _ => rfl⟩
  · exact ⟨rfl, by simp⟩

/-- `bufio.Writer`. -/
structure Writer (α : Type) where
  size : Nat
  buf : List α
  err : Bool
  wr : Sink α
  deriving DecidableEq, Repr

variable {b : Writer α}

namespace Writer

/-- The elements of `p` are copied to the buffer. -/
def buffer (b : Writer α) (p : List α) : Writer α := { b with buf := b.buf ++ p }

@[simp] theorem buffer_buf (b : Writer α) (p : List α) : (b.buffer p).buf = b.buf ++ p := rfl

/-- `bufio.Writer.Flush`; it returns the stored error, and keeps what was not written. -/
def flush (b : Writer α) : Writer α :=
  if b.err then b
  else if b.buf.isEmpty then b
  else
    match b.wr.write b.buf with
    | ((n, true), wr) => { b with buf := b.buf.drop n, err := true, wr := wr }
    | ((_, false), wr) => { b with buf := [], wr := wr }

/-- What a call on the writer can do with `p`: it passes `p` on without losing anything, or
the writer fails with a part of it on the connection. -/
inductive Takes (b : Writer α) (p : List α) : Writer α → Prop
  | done {b' : Writer α} (herr : b'.err = false)
      (hall : b'.wr.out ++ b'.buf = b.wr.out ++ b.buf ++ p) : Takes b p b'
  | failed {b' : Writer α} (herr : b'.err = true)
      (hpart : b'.wr.out <+: b.wr.out ++ b.buf ++ p) : Takes b p b'

/-- Two calls in a row, of which the second does nothing after a failure. -/
theorem Takes.trans {b₁ b₂ : Writer α} {q : List α} (h : b.Takes p b₁)
    (hsticky : b₁.err = true → b₂ = b₁) (hnext : b₁.err = false → b₁.Takes q b₂) :
    b.Takes (p ++ q) b₂ := by
  cases h with
  | failed herr hpart =>
    rw [hsticky herr]
    refine .failed herr (hpart.trans ?_)
    rw [← append_assoc]
    exact prefix_append _ _
  | done herr hall =>
    cases hnext herr with
    | done herr' hall' => exact .done herr' (by rw [hall', hall, append_assoc])
    | failed herr' hpart => exact .failed herr' (by rwa [hall, append_assoc] at hpart)

/-- Only what was passed on reaches the connection. -/
theorem Takes.out_le {b' : Writer α} (h : b.Takes p b') : b'.wr.out <+: b.wr.out ++ b.buf ++ p := by
  cases h with
  | done herr hall => exact hall ▸ prefix_append _ _
  | failed herr hpart => exact hpart

theorem buffer_takes (h : b.err = false) (p : List α) : b.Takes p (b.buffer p) :=
  .done h (by simp [buffer])

theorem flush_of_err (h : b.err = true) : b.flush = b := by simp [flush, h]

theorem flush_takes (h : b.err = false) : b.Takes [] b.flush := by
  unfold flush
  rw [if_neg (by simp [h])]
  split_ifs with hbuf
  · exact .done h (by simp)
  · rcases hwrite : b.wr.write b.buf with ⟨⟨n, _ | _⟩, wr⟩
    · have hwrites := Sink.writes_of_write hwrite
      refine .done h ?_
      simp [hwrites.out, hwrites.complete rfl]
    · refine .failed rfl ?_
      simp only [(Sink.writes_of_write hwrite).out, append_nil]
      exact (prefix_append_right_inj _).mpr ( take_prefix _ _)

/-- A flush that does not fail leaves nothing in the buffer. -/
theorem flush_buf (h : b.flush.err = false) : b.flush.buf = [] := by
  unfold flush at h ⊢
  split_ifs at h ⊢ with herr hbuf
  · simp_all
  · simpa using hbuf
  · rcases hwrite : b.wr.write b.buf with ⟨⟨n, _ | _⟩, wr⟩ <;> simp [hwrite] at h ⊢

theorem flush_length_le (b : Writer α) : b.flush.buf.length ≤ b.buf.length := by
  unfold flush
  split_ifs
  · exact le_rfl
  · exact le_rfl
  · rcases b.wr.write b.buf with ⟨⟨n, _ | _⟩, wr⟩ <;> simp

/-- `bufio.Writer.Write`; it returns the stored error. -/
def write (b : Writer α) (p : List α) : Writer α :=
  if b.err then b
  else if p.length ≤ b.size - b.buf.length then b.buffer p
  else if b.buf.isEmpty then
    -- A large write with an empty buffer bypasses it.
    match hwrite : b.wr.write p with
    | ((n, failed), wr) => write { b with err := failed, wr := wr } (p.drop n)
  else
    let n := b.size - b.buf.length
    write (b.buffer (p.take n)).flush (p.drop n)
termination_by p.length + b.buf.length + if b.err then 0 else 1
decreasing_by
  · have hcomplete := (Sink.writes_of_write hwrite).complete
    cases failed with
    | true => simp; grind
    | false => simp [hcomplete rfl]; grind
  · have hlength := (b.buffer (p.take n)).flush_length_le
    have hbuf := flush_buf (b := b.buffer (p.take n))
    have hpos : 0 < b.buf.length := length_pos_iff.mpr (by simpa using ‹¬ b.buf.isEmpty›)
    rw [buffer_buf, length_append, length_take] at hlength
    cases herr : (b.buffer (p.take n)).flush.err with
    | true => simp only [length_drop, if_true]; grind
    | false => simp only [length_drop, hbuf herr]; grind

theorem write_of_err (h : b.err = true) (p : List α) : b.write p = b := by
  rw [write, if_pos h]

theorem write_takes (h : b.err = false) (p : List α) : b.Takes p (b.write p) := by
  fun_induction write b p with
  | case1 b p herr => simp [h] at herr
  | case2 b p herr hfits => exact buffer_takes h p
  | case3 b p herr hfits hempty n failed wr hwrite ih =>
    have hwrites := Sink.writes_of_write hwrite
    have hnil : b.buf = [] := by simpa using hempty
    have hfirst : b.Takes (p.take n) { b with err := failed, wr := wr } := by
      cases failed with
      | false => exact .done rfl (by simp [hwrites.out, hnil])
      | true => exact .failed rfl (by simp [hwrites.out, hnil])
    have hboth := hfirst.trans (fun h => write_of_err h _) ih
    rwa [take_append_drop] at hboth
  | case4 b p herr hfits hempty n ih =>
    have hbuffer : b.Takes (p.take n) (b.buffer (p.take n)) := buffer_takes h _
    have hfirst : b.Takes (p.take n ++ []) (b.buffer (p.take n)).flush :=
      hbuffer.trans flush_of_err flush_takes
    have hboth := hfirst.trans (fun h => write_of_err h _) ih
    rwa [append_nil, take_append_drop] at hboth

end Writer

end Rstream.Go
