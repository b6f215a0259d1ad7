import Rstream.Core.Encoding
import Rstream.Go.Bufio
import Rstream.Go.Errors

/-!
# Packets over a byte stream

`connWrapper` of `net.go` in framed mode puts a length word before each packet.
The reading side keeps nothing about the frame it is in: what a `ReadFrom` took
before an error is gone, and the next call takes the following bytes for a length
word. As long as errors come between frames, the packets received are the first
packets written.
-/

namespace Rstream.Net

open Go Rstream.Core List

/-- The errors of a packet connection that the source tells apart. -/
inductive Failure
  /-- The error of a read of the connection, such as an expired deadline. -/
  | read
  /-- The error of a write to the connection. -/
  | write
  /-- A message of the source. -/
  | text (msg : String)
  deriving DecidableEq, Repr

abbrev Error := Err Failure

inductive PacketMode
  | framed
  | raw
  deriving DecidableEq, Repr

def maxFramedPacketSize : Nat := 65535

/-- The default size of the buffers of `bufio`. -/
def defaultBufSize : Nat := 4096

/-- `connWrapper`; an address is its text. The reader and the writer hold the two directions
of `inner`. -/
structure ConnWrapper where
  mode : PacketMode
  w : Writer UInt8
  r : Reader UInt8
  raddr : String
  deriving DecidableEq, Repr

/-- `PacketConnFromConn` of a connection with the given directions and remote address. -/
def packetConnFromConn (rd : Source UInt8) (wr : Sink UInt8) (remoteAddr : String)
    (raddr : Option String) (mode : PacketMode) : ConnWrapper :=
  ⟨mode, ⟨defaultBufSize, [], false, wr⟩, ⟨defaultBufSize, [], false, rd⟩, raddr.getD remoteAddr⟩

/-- The error for a length over the limit. -/
def tooLarge (length : Nat) : Error :=
  .leaf (.text ("framed packet too large: " ++ toString length ++ " bytes"))

/-- `readMessage`; `none` is a call that waits for the connection. -/
def readMessage (r : Reader UInt8) : Option (Except Error (List UInt8) × Reader UInt8) :=
  match r.readFull 4 with
  | none => none
  | some ((_, true), r) => some (.error (.leaf .read), r)
  | some ((lengthBytes, false), r) =>
    let length := bigEndianValue lengthBytes
    if maxFramedPacketSize < length then some (.error (tooLarge length), r)
    else
      match r.readFull length with
      | none => none
      | some ((_, true), r) => some (.error (.leaf .read), r)
      | some ((msgBytes, false), r) => some (.ok msgBytes, r)

def writeMessage (w : Writer UInt8) (msgBytes : List UInt8) : Option Error × Writer UInt8 :=
  if maxFramedPacketSize < msgBytes.length then (some (tooLarge msgBytes.length), w)
  else
    let w := w.write (bigEndian (UInt32.ofNat msgBytes.length))
    if w.err then (some (.leaf .write), w)
    else
      let w := w.write msgBytes
      if w.err then (some (.leaf .write), w)
      else
        let w := w.flush
        if w.err then (some (.leaf .write), w) else (none, w)

namespace ConnWrapper

/-- `connWrapper.ReadFrom` with a buffer of `n` bytes: what is put in the buffer, and the
remote address. -/
def readFrom (c : ConnWrapper) (n : Nat) :
    Option (Except Error (List UInt8 × String) × ConnWrapper) :=
  match c.mode with
  | .framed =>
    match readMessage c.r with
    | none => none
    | some (.error e, r) => some (.error e, { c with r := r })
    | some (.ok msg, r) => some (.ok (msg.take n, c.raddr), { c with r := r })
  | .raw =>
    match c.r.rd.read n with
    | none => none
    | some ((_, true), rd) => some (.error (.leaf .read), { c with r := { c.r with rd := rd } })
    | some ((data, false), rd) => some (.ok (data, c.raddr), { c with r := { c.r with rd := rd } })

/-- `connWrapper.WriteTo`: the number of bytes written, or the error. -/
def writeTo (c : ConnWrapper) (p : List UInt8) (addr : Option String) :
    Except Error Nat × ConnWrapper :=
  if addr ≠ some c.raddr then
    (.error (.leaf (.text ("invalid remote address " ++ addr.getD "<nil>" ++ "; expected " ++
      c.raddr))), c)
  else
    match c.mode with
    | .framed =>
      match writeMessage c.w p with
      | (some e, w) => (.error e, { c with w := w })
      | (none, w) => (.ok p.length, { c with w := w })
    | .raw =>
      match c.w.wr.write p with
      | ((_, true), wr) => (.error (.leaf .write), { c with w := { c.w with wr := wr } })
      | ((n, false), wr) => (.ok n, { c with w := { c.w with wr := wr } })

/-- The connection after a sequence of `WriteTo` calls. -/
def send (c : ConnWrapper) (calls : List (List UInt8 × Option String)) : ConnWrapper :=
  calls.foldl (fun c call => (c.writeTo call.1 call.2).2) c

/-- The packets that successive `ReadFrom` calls with buffers of these sizes return. -/
def receive (c : ConnWrapper) : List Nat → List (List UInt8)
  | [] => []
  | n :: sizes =>
    match c.readFrom n with
    | none => []
    | some (.error _, c) => c.receive sizes
    | some (.ok (p, _), c) => p :: c.receive sizes

/-- Each of these `ReadFrom` calls that fails has taken no byte of the stream, or has taken
all that is left of it. -/
def failsBetweenFrames (c : ConnWrapper) : List Nat → Bool
  | [] => true
  | n :: sizes =>
    match c.readFrom n with
    | none => true
    | some (.error _, c') =>
      (c'.r.unread == c.r.unread || c'.r.unread.isEmpty) && c'.failsBetweenFrames sizes
    | some (.ok _, c') => c'.failsBetweenFrames sizes

end ConnWrapper

/-- The packets of these calls that a connection to `raddr` accepts for writing. -/
def packets (raddr : String) (calls : List (List UInt8 × Option String)) : List (List UInt8) :=
  (calls.filter fun call =>
    call.2 = some raddr ∧ call.1.length ≤ maxFramedPacketSize).map Prod.fst

/-- The stream of a sequence of packets. -/
def frames (ps : List (List UInt8)) : List UInt8 := ps.flatMap lengthPrefixed

@[simp] theorem frames_nil : frames [] = [] := rfl

@[simp] theorem frames_cons (p : List UInt8) (ps : List (List UInt8)) :
    frames (p :: ps) = lengthPrefixed p ++ frames ps := rfl

@[simp] theorem frames_append (ps qs : List (List UInt8)) :
    frames (ps ++ qs) = frames ps ++ frames qs := flatMap_append

/-! ## The writing side -/

section Writing

variable {c : ConnWrapper} {raddr : String} {ps : List (List UInt8)}

/-- What `WriteTo` can do to the writer. -/
inductive WriteResult (w : Writer UInt8) (p : List UInt8) : Option Error → Writer UInt8 → Prop
  | rejected {e : Error} (hlarge : maxFramedPacketSize < p.length) : WriteResult w p (some e) w
  | failed {e : Error} {w' : Writer UInt8} (hsize : p.length ≤ maxFramedPacketSize)
      (herr : w'.err = true) (hout : w'.wr.out <+: w.wr.out ++ lengthPrefixed p) :
      WriteResult w p (some e) w'
  | written {w' : Writer UInt8} (hsize : p.length ≤ maxFramedPacketSize)
      (herr : w'.err = false) (hbuf : w'.buf = [])
      (hout : w'.wr.out = w.wr.out ++ lengthPrefixed p) : WriteResult w p none w'

theorem writeMessage_of_err {w : Writer UInt8} (herr : w.err = true) (p : List UInt8) :
    (writeMessage w p).2 = w := by
  unfold writeMessage
  split_ifs <;> simp_all [Writer.write_of_err]

/-- On a writer with an empty buffer a message is written, refused, or breaks the writer. -/
theorem writeMessage_result {w : Writer UInt8} (herr : w.err = false) (hbuf : w.buf = [])
    (p : List UInt8) : WriteResult w p (writeMessage w p).1 (writeMessage w p).2 := by
  have hheader := w.write_takes herr (bigEndian (UInt32.ofNat p.length))
  have hbody := hheader.trans (fun h => Writer.write_of_err h p) (fun h => Writer.write_takes h p)
  have hall := hbody.trans Writer.flush_of_err Writer.flush_takes
  rw [append_nil] at hall
  have hheader_out := hheader.out_le
  have hbody_out := hbody.out_le
  simp only [hbuf, append_nil] at hheader_out hbody_out
  unfold writeMessage
  dsimp only
  split
  · exact .rejected ‹_›
  have hsize : p.length ≤ maxFramedPacketSize := by omega
  split
  · refine .failed hsize ‹_› (hheader_out.trans ?_)
    rw [lengthPrefixed, ← append_assoc]
    exact prefix_append _ _
  split
  · exact .failed hsize ‹_› hbody_out
  split
  · have hout := hall.out_le
    rw [hbuf, append_nil] at hout
    exact .failed hsize ‹_› hout
  · rename_i hok
    rw [Bool.not_eq_true] at hok
    have hflushed := Writer.flush_buf hok
    cases hall with
    | failed h => simp [h] at hok
    | done _ hout =>
      refine .written hsize hok hflushed ?_
      rwa [hflushed, hbuf, append_nil, append_nil] at hout

namespace ConnWrapper

/-- The effect of a `WriteTo` on a framed connection. -/
theorem writeTo_framed (hmode : c.mode = .framed) (p : List UInt8) (addr : Option String) :
    (c.writeTo p addr).2 = (if addr = some c.raddr then
      { c with w := (writeMessage c.w p).2 } else c) := by
  unfold writeTo
  simp only [hmode, ite_not]
  split_ifs
  · rcases writeMessage c.w p with ⟨_ | e, w⟩ <;> rfl
  · rfl

theorem send_of_err (hmode : c.mode = .framed) (herr : c.w.err = true)
    (calls : List (List UInt8 × Option String)) : c.send calls = c := by
  induction calls with
  | nil => rfl
  | cons call calls ih =>
    have hcall : (c.writeTo call.1 call.2).2 = c := by
      rw [writeTo_framed hmode, writeMessage_of_err herr, ite_id]
    simp only [send, foldl_cons] at ih ⊢
    rw [hcall, ih]

/-- A framed connection to `raddr` whose stream so far is that of the packets `ps`, or which
failed with a part of that stream written. -/
structure Written (raddr : String) (ps : List (List UInt8)) (c : ConnWrapper) : Prop where
  mode : c.mode = .framed
  raddr : c.raddr = raddr
  stream : (c.w.err = false ∧ c.w.buf = [] ∧ c.w.wr.out = frames ps) ∨
    (c.w.err = true ∧ c.w.wr.out <+: frames ps)

/-- Each `WriteTo` adds its packet to the stream, if it adds anything. -/
theorem Written.writeTo (h : Written raddr ps c) (p : List UInt8) (addr : Option String) :
    Written raddr (ps ++ packets raddr [(p, addr)]) (c.writeTo p addr).2 := by
  rw [writeTo_framed h.mode]
  by_cases haddr : addr = some raddr
  · rw [if_pos (h.raddr ▸ haddr)]
    refine ⟨h.mode, h.raddr, ?_⟩
    rcases h.stream with ⟨herr, hbuf, hout⟩ | ⟨herr, hout⟩
    · have hresult := writeMessage_result herr hbuf p
      generalize writeMessage c.w p = result at hresult ⊢
      obtain ⟨answer, w⟩ := result
      cases hresult with
      | rejected hlarge =>
        refine .inl ⟨herr, hbuf, ?_⟩
        simp [packets, Nat.not_le.mpr hlarge, hout]
      | failed hsize herr' hout' =>
        refine .inr ⟨herr', ?_⟩
        simpa [packets, haddr, hsize, hout] using hout'
      | written hsize herr' hbuf' hout' =>
        refine .inl ⟨herr', hbuf', ?_⟩
        simpa [packets, haddr, hsize, hout] using hout'
    · rw [writeMessage_of_err herr]
      exact .inr ⟨herr, hout.trans (by simp)⟩
  · rw [if_neg (h.raddr ▸ haddr)]
    have hnone : packets raddr [(p, addr)] = [] := by simp [packets, haddr]
    rw [hnone, append_nil]
    exact h

/-- The stream of a run of `WriteTo` calls is a part of the stream of their packets. -/
theorem Written.send (h : Written raddr ps c) (calls : List (List UInt8 × Option String)) :
    Written raddr (ps ++ packets raddr calls) (c.send calls) := by
  induction calls generalizing c ps with
  | nil => simpa [packets, ConnWrapper.send] using h
  | cons call calls ih =>
    have hstep := ih (h.writeTo call.1 call.2)
    have hsplit : packets raddr (call :: calls) =
        packets raddr [call] ++ packets raddr calls := by
      rw [packets, packets, packets, ← map_append, ← filter_append]
      rfl
    rw [hsplit, ← append_assoc]
    exact hstep

theorem Written.out_le (h : Written raddr ps c) : c.w.wr.out <+: frames ps := by
  rcases h.stream with ⟨-, -, hout⟩ | ⟨-, hout⟩
  · rw [hout]
  · exact hout

/-- A `WriteTo` that fails after it wrote something leaves a failed writer. -/
theorem Written.err_of_error (h : Written raddr ps c) {p : List UInt8} {addr : Option String}
    {e : Error} (herror : (c.writeTo p addr).1 = .error e)
    (hpart : (c.writeTo p addr).2.w.wr.out ≠ c.w.wr.out) : (c.writeTo p addr).2.w.err = true := by
  rw [writeTo_framed h.mode] at hpart ⊢
  split_ifs at hpart ⊢ with haddr
  · rcases h.stream with ⟨herr, hbuf, -⟩ | ⟨herr, -⟩
    · have hresult := writeMessage_result herr hbuf p
      rcases hwrite : writeMessage c.w p with ⟨answer, w⟩
      rw [hwrite] at hresult hpart
      cases hresult with
      | rejected => exact absurd rfl hpart
      | failed _ herr' => exact herr'
      | written => simp [ConnWrapper.writeTo, haddr, h.mode, hwrite] at herror
    · rw [writeMessage_of_err herr] at hpart
      exact absurd rfl hpart
  · exact absurd rfl hpart

end ConnWrapper

end Writing

/-! ## The reading side -/

/-- A part of the stream that reaches beyond a first piece consists of it and a part of the
rest. -/
theorem append_le_append {a b x y : List UInt8} (hlength : a.length = b.length)
    (h : a ++ x <+: b ++ y) : a = b ∧ x <+: y := by
  obtain ⟨rest, hrest⟩ := h
  rw [append_assoc] at hrest
  obtain ⟨rfl, rfl⟩ := append_inj hrest hlength
  exact ⟨rfl, prefix_append _ _⟩

/-- At the start of a frame a message that is read is the packet of the frame. -/
theorem readMessage_frame {r r' : Reader UInt8} {msg : List UInt8} {ps : List (List UInt8)}
    (hsizes : ∀ p ∈ ps, p.length ≤ maxFramedPacketSize) (hr : r.unread <+: frames ps)
    (h : readMessage r = some (.ok msg, r')) :
    ∃ rest, ps = msg :: rest ∧ r'.unread <+: frames rest := by
  unfold readMessage at h
  rcases hheader : r.readFull 4 with _ | ⟨⟨header, _ | _⟩, r₁⟩ <;> rw [hheader] at h
  · cases h
  · dsimp only at h
    split_ifs at h with hlarge
    · cases h
    rcases hbody : r₁.readFull (bigEndianValue header) with _ | ⟨⟨body, _ | _⟩, r₂⟩ <;>
      rw [hbody] at h
    · cases h
    · cases h
      obtain ⟨hunread, hheader_length⟩ := Reader.readFull_spec hheader
      obtain ⟨hunread₁, hbody_length⟩ := Reader.readFull_spec hbody
      rw [hunread, hunread₁] at hr
      cases ps with
      | nil =>
        have hempty := prefix_nil.mp hr
        have hfour := hheader_length rfl
        simp_all
      | cons p rest =>
        have hp := hsizes p (by simp)
        rw [frames_cons, lengthPrefixed, append_assoc] at hr
        obtain ⟨rfl, hrest⟩ := append_le_append (hheader_length rfl) hr
        have hlength : msg.length = p.length := by
          rw [hbody_length rfl, bigEndianValue_bigEndian]
          exact UInt32.toNat_ofNat_of_lt' (Nat.lt_of_le_of_lt hp (by decide))
        obtain ⟨rfl, hafter⟩ := append_le_append hlength hrest
        exact ⟨rest, rfl, hafter⟩
    · cases h
  · cases h

namespace ConnWrapper

/-- A reader at the start of a frame, or at the end of the stream, receives the next packets
as long as errors come between frames. -/
theorem receive_prefix {c : ConnWrapper} {ps : List (List UInt8)} {sizes : List Nat}
    (hmode : c.mode = .framed) (hps : ∀ p ∈ ps, p.length ≤ maxFramedPacketSize)
    (hsizes : ∀ n ∈ sizes, ∀ p ∈ ps, p.length ≤ n) (hstart : c.r.unread <+: frames ps)
    (hclean : c.failsBetweenFrames sizes = true) : c.receive sizes <+: ps := by
  induction sizes generalizing c ps with
  | nil => exact nil_prefix
  | cons n sizes ih =>
    have hlater : ∀ m ∈ sizes, ∀ p ∈ ps, p.length ≤ m :=
      fun m hm => hsizes m (mem_cons_of_mem _ hm)
    simp only [receive, failsBetweenFrames, readFrom, hmode] at hclean ⊢
    rcases hread : readMessage c.r with _ | ⟨e | msg, r⟩
    · exact nil_prefix
    · simp only [hread, Bool.and_eq_true, Bool.or_eq_true, beq_iff_eq] at hclean ⊢
      obtain ⟨hkept | hdone, hclean⟩ := hclean
      · exact ih rfl hps hlater (hkept ▸ hstart) hclean
      · refine ih rfl hps hlater ?_ hclean
        rw [isEmpty_iff.mp hdone]
        exact nil_prefix
    · simp only [hread] at hclean ⊢
      obtain ⟨rest, rfl, hrest⟩ := readMessage_frame hps hstart hread
      have hfits : msg.take n = msg := take_of_length_le (hsizes n (by simp) msg (by simp))
      rw [hfits, prefix_cons_inj]
      exact ih rfl (fun p hp => hps p (mem_cons_of_mem _ hp))
        (fun m hm p hp => hlater m hm p (mem_cons_of_mem _ hp)) hrest hclean

end ConnWrapper

theorem packets_length_le {raddr : String} {calls : List (List UInt8 × Option String)}
    {p : List UInt8} (h : p ∈ packets raddr calls) : p.length ≤ maxFramedPacketSize := by
  simp only [packets, mem_map, mem_filter, decide_eq_true_eq] at h
  obtain ⟨call, ⟨-, -, hsize⟩, rfl⟩ := h
  exact hsize

/-- Two framed connections, the second reading what the first wrote: while read errors come
between frames, the packets received are the first packets written. After a `WriteTo` that
failed with a part of its frame on the stream, nothing more is written. -/
theorem framed_stream_in_sync (rd : Source UInt8) (wscript : List (Option Nat))
    (wremote rremote : String) (waddr raddr : Option String) (wr : Sink UInt8)
    (rscript : List (Nat × Bool)) (calls : List (List UInt8 × Option String)) (sizes : List Nat) :
    let sender := packetConnFromConn rd ⟨[], wscript⟩ wremote waddr .framed
    let stream := (sender.send calls).w.wr.out
    let receiver := packetConnFromConn ⟨stream, rscript⟩ wr rremote raddr .framed
    let written := packets sender.raddr calls
    ((∀ n ∈ sizes, ∀ p ∈ written, p.length ≤ n) → receiver.failsBetweenFrames sizes = true →
      receiver.receive sizes <+: written) ∧
    ∀ before p addr after e, calls = before ++ (p, addr) :: after →
      let state := sender.send before
      (state.writeTo p addr).1 = .error e →
      (state.writeTo p addr).2.w.wr.out ≠ state.w.wr.out →
      stream = (state.writeTo p addr).2.w.wr.out := by
  intro sender stream receiver written
  have hsender : ConnWrapper.Written sender.raddr [] sender :=
    ⟨rfl, rfl, .inl ⟨rfl, rfl, rfl⟩⟩
  constructor
  · intro hsizes hclean
    have hstream : stream <+: frames written := (hsender.send calls).out_le
    exact ConnWrapper.receive_prefix rfl (fun p => packets_length_le) hsizes hstream hclean
  · intro before p addr after e hcalls state herror hpart
    have hstate := hsender.send before
    have herr := hstate.err_of_error herror hpart
    have hmode := (hstate.writeTo p addr).mode
    have hrest : sender.send calls = (state.writeTo p addr).2.send after := by
      simp only [hcalls, ConnWrapper.send, foldl_append, foldl_cons, state]
    rw [show stream = (sender.send calls).w.wr.out from rfl, hrest,
      ConnWrapper.send_of_err hmode herr]

/-- Two packets, read in pieces with an expired deadline before the second. -/
theorem framed_stream_in_sync_two :
    let sender := packetConnFromConn ⟨[], []⟩ ⟨[], []⟩ "peer" none .framed
    let calls := [([7], some "peer"), ([8, 9], some "peer")]
    let script := [(3, false), (2, false), (0, true), (6, true)]
    let receiver := packetConnFromConn ⟨(sender.send calls).w.wr.out, script⟩ ⟨[], []⟩ "peer" none
      .framed
    receiver.receive [8, 8, 8] = [[7], [8, 9]] ∧
      receiver.receive [8, 8, 8] <+: packets "peer" calls :=
  ⟨by decide +kernel,
    (framed_stream_in_sync ⟨[], []⟩ [] "peer" "peer" none none ⟨[], []⟩
      [(3, false), (2, false), (0, true), (6, true)]
      [([7], some "peer"), ([8, 9], some "peer")] [8, 8, 8]).1
      (by decide +kernel) (by decide +kernel)⟩

/-- A deadline that expires after the length word of a packet of four zero bytes: the next
call takes the packet for a length word and returns an empty packet that was never written. -/
theorem framed_stream_out_of_sync :
    let sender := packetConnFromConn ⟨[], []⟩ ⟨[], []⟩ "peer" none .framed
    let calls := [([0, 0, 0, 0], some "peer")]
    let receiver := packetConnFromConn
      ⟨(sender.send calls).w.wr.out, [(4, false), (0, true), (4, false)]⟩ ⟨[], []⟩ "peer" none
      .framed
    receiver.receive [8, 8] = [[]] ∧ ¬ receiver.receive [8, 8] <+: packets "peer" calls := by
  decide +kernel

end Rstream.Net
