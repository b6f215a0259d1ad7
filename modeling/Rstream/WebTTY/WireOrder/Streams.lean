import Rstream.WebTTY.WireOrder.Contract

/-!
# Output streams and the exit of the child

The readers send data and the end of their stream; the locked sections that end a
stream or record the exit of the child hand the right to close to exactly one of
them.
-/

namespace Rstream.WebTTY

open Rstream.Core Contract Session Finset

variable {P : Session → Prop}

namespace Prog

open Program

variable {cfg : ServerConfig} {g : Goroutine}

/-- The goroutine has been started. -/
def Running (g : Goroutine) (s : Session) : Prop := g ∈ s.orderView.started

/-- The goroutine completed the session and has not announced it. -/
def MayClose (g : Goroutine) (s : Session) : Prop :=
  s.closer = some g ∧ s.orderView.NoClose

/-- The stream of the goroutine has not been ended. -/
def Unended (t : DataType) (s : Session) : Prop := eosMessage t ∉ s.wire

theorem running_stable (g u : Goroutine) : orderContract.Stable u (Running g) :=
  fun _ _ hrely _ h => hrely.started h

theorem mayClose_stable : orderContract.Stable g (MayClose g) := by
  intro s s' hrely _ h
  obtain ⟨hcloser, hno⟩ := hrely.closer h.1
  exact ⟨hcloser, hno h.2⟩

theorem unended_stable {t : DataType} (hg : g.stream = some t) :
    orderContract.Stable g (Unended t) :=
  fun _ _ hrely _ h => (hrely.stream t hg).2 h

theorem hasStream_stable {t : DataType} (hg : g.stream = some t) :
    orderContract.Stable g fun s => s.orderView.HasStream t :=
  fun _ _ hrely _ h => (hrely.stream t hg).1 h

theorem ended_stable (t : DataType) : orderContract.Stable g fun s => eosMessage t ∈ s.wire :=
  fun _ _ hrely _ h => hrely.wire h

/-- A started goroutine runs in an opened and acknowledged session. -/
theorem Running.acked {s : Session} (h : Running g s) (hinv : orderContract.inv s) :
    s.opened = true ∧ ∃ a ∈ s.wire, a.isAck :=
  hinv.started g h

theorem awaitStart_order (hP : orderContract.Stable g P) (hg : g.afterAck = true) :
    orderContract.Triple g P (awaitStart g) fun _ s => Running g s ∧ P s := by
  refine .choose hP ?_
  intro s i a s' hinv hs hstep _
  split at hstep
  · cases hstep
    refine ⟨Contract.Keeps.refl hinv, ?_, hs⟩
    simp only [Running, orderView, mem_filter]
    exact ⟨‹_›, hg⟩
  · cases hstep

/-- The closer announces the end once every stream has ended. -/
theorem doClose_order : orderContract.Triple g (MayClose g) (doClose cfg g) fun _ _ => True := by
  refine .bind (.of_eq (inspect_respects orderQuiet _) mayClose_stable) fun checked => ?_
  rcases checked with err | code
  · exact .pure fun _ _ => trivial
  · refine .bind (Q := fun _ _ => True)
      (writeMessage_order mayClose_stable (fun _ => stable_const) (fun _ _ _ => trivial)
        ?_) fun r => ?_
    · intro s hinv hs
      obtain ⟨hcloser, hno⟩ := hs
      have hne : s.closer ≠ none := by
        rw [hcloser]
        exact Option.some_ne_none g
      obtain ⟨_, hempty⟩ := hinv.closer hne
      have hopened : s.opened = true := by
        cases hopened : s.opened with
        | true => rfl
        | false =>
          have hnone := hinv.unopened hopened
          rw [hempty] at hnone
          cases hnone
      obtain ⟨streams, hstreams, _, heos⟩ := hinv.streams hopened
      obtain rfl : streams = ∅ := Option.some.inj (hstreams.symm.trans hempty)
      have hlegal : Legal (openStreams s.ptyFile) s.wire (.close code) :=
        ⟨by simp [Message.isData], by simp [Message.ofStream],
          fun _ => ⟨hno, fun t ht => heos t ht (notMem_empty t)⟩⟩
      refine ⟨⟨OrderView.Inv.push hinv hlegal fun _ => hne, fun u hu => ?_⟩, fun _ => trivial⟩
      refine OrderView.Rely.push (fun t _ => by simp [eosMessage]) fun _ hu' => ?_
      exact hu (Option.some.inj (hu'.symm.trans hcloser))
    · rcases r with err | ⟨⟩
      · exact .pure fun _ _ => trivial
      · refine .bind (.of_eq (startCloseHandshake_respects orderQuiet fun _ => rfl)
          stable_const) fun _ => ?_
        exact .pure fun _ _ => trivial

/-- The exit of the child completes the session when no stream is open. -/
theorem childExit_order (code : Int) :
    orderContract.Triple .waitLoop (fun s => Running .waitLoop s ∧ s.childDone = false)
      (atomic (childExit code)) fun r s => r = some true → MayClose .waitLoop s := by
  refine .atomic ((running_stable _ _).and fun _ _ hrely _ h => (hrely.waiter rfl).trans h) ?_
  intro s hinv hs _
  obtain ⟨hopened, -⟩ := hs.1.acked hinv
  obtain ⟨streams, hstreams, hcard, heos⟩ := hinv.streams hopened
  have hnone : s.closer = none := by
    by_contra hne
    have hdone := (hinv.closer hne).1
    exact absurd hdone (by simp [orderView, hs.2])
  have hno : s.orderView.NoClose := fun a ha hclose => hinv.close ⟨a, ha, hclose⟩ hnone
  unfold childExit
  split
  · exact ⟨Contract.Keeps.refl hinv, fun h => by cases h⟩
  · simp only
    split
    · rename_i hzero
      have hempty : streams = ∅ := card_eq_zero.mp (hcard.symm.trans hzero)
      refine ⟨⟨?_, fun u hu => ?_⟩, fun _ => ⟨rfl, hno⟩⟩
      · exact ⟨hinv.legal, hinv.started, hinv.cmd, hinv.unopened, hinv.streams,
          fun _ => ⟨rfl, hstreams.trans (congrArg some hempty)⟩, fun _ => by simp [orderView]⟩
      · exact ⟨fun _ h => h, fun _ h => h, fun h => ⟨h, rfl⟩, fun _ => rfl, fun _ _ => ⟨id, id⟩,
          fun h => absurd h hu, fun h => by simp [orderView, hnone] at h⟩
    · refine ⟨⟨?_, fun u hu => ?_⟩, fun h => by cases h⟩
      · exact ⟨hinv.legal, hinv.started, hinv.cmd, hinv.unopened, hinv.streams,
          fun h => absurd hnone h, hinv.close⟩
      · exact ⟨fun _ h => h, fun _ h => h, fun h => ⟨h, rfl⟩, fun _ => rfl, fun _ _ => ⟨id, id⟩,
          fun h => absurd h hu, fun h => by simp [orderView, hnone] at h⟩

/-- Starting further goroutines is acceptable once the session is acknowledged. -/
theorem keeps_started {s s' : Session} (hinv : orderContract.inv s)
    (hacked : s.opened = true ∧ ∃ a ∈ s.wire, a.isAck) (hsub : s.orderView.started ⊆ s'.orderView.started)
    (hsame : s'.orderView = { s.orderView with started := s'.orderView.started }) :
    orderContract.Keeps g s s' := by
  refine ⟨?_, fun u _ => ?_⟩
  · change OrderView.Inv s'.orderView
    rw [hsame]
    exact ⟨hinv.legal, fun _ _ => hacked, hinv.cmd, hinv.unopened, hinv.streams, hinv.closer,
      hinv.close⟩
  · change OrderView.Rely u s.orderView s'.orderView
    rw [hsame]
    exact ⟨fun _ h => h, hsub, fun h => ⟨h, rfl⟩, fun _ => rfl, fun _ _ => ⟨id, id⟩, fun _ => rfl,
      fun h => ⟨h, id⟩⟩

theorem started_subset_startLoopLocked (u : Goroutine) (s : Session) :
    s.orderView.started ⊆ (s.startLoopLocked u).orderView.started :=
  filter_subset_filter _ (subset_insert _ _)

theorem onChildExit_order (exit : Except Error Int) :
    orderContract.Triple .waitLoop (fun s => Running .waitLoop s ∧ s.childDone = false)
      (onChildExit cfg exit) fun _ _ => True := by
  have hstable : orderContract.Stable .waitLoop
      fun s => Running .waitLoop s ∧ s.childDone = false :=
    (running_stable _ _).and fun _ _ hrely _ h => (hrely.waiter rfl).trans h
  rcases exit with err | code
  · refine .bind (.of_eq (inspect_respects orderQuiet _) hstable) fun closed => ?_
    cases closed
    · refine Contract.Triple.weaken (Q := fun _ s => Running .waitLoop s ∧ s.childDone = false)
        ?_ fun _ _ _ => trivial
      exact .of_eq (reportFailure_respects orderQuiet (.error err)) hstable
    · exact .pure fun _ _ => trivial
  · refine .bind (childExit_order code) fun r => ?_
    rcases r with _ | _ | _
    · exact .pure fun _ _ => trivial
    · exact .pure fun _ _ => trivial
    · refine .bind (doClose_order.strengthen fun s h => h rfl) fun r => ?_
      exact (Contract.Triple.of_eq (reportFailure_respects orderQuiet r) stable_const)

/-- The waiter starts the pipe readers and records the exit of the child. -/
theorem waitLoop_order :
    orderContract.Triple .waitLoop (fun s => s.childDone = false) (waitLoop cfg)
      fun again s => again = true → s.childDone = false := by
  have halive : orderContract.Stable .waitLoop fun s => s.childDone = false :=
    fun _ _ hrely _ h => (hrely.waiter rfl).trans h
  have hstable := (running_stable .waitLoop .waitLoop).and halive
  have hstart : orderContract.Triple .waitLoop
      (fun s => Running .waitLoop s ∧ s.childDone = false)
      (atomic fun s => ((), s.startPipeReaders))
      fun _ s => Running .waitLoop s ∧ s.childDone = false := by
    refine .atomic hstable fun s hinv hs _ => ?_
    have hsub : s.orderView.started ⊆ s.startPipeReaders.orderView.started := fun u hu =>
      started_subset_startLoopLocked _ _ (started_subset_startLoopLocked _ _ hu)
    exact ⟨keeps_started hinv (hs.1.acked hinv) hsub rfl, hsub hs.1, hs.2⟩
  refine .bind (awaitStart_order halive rfl) fun _ => ?_
  refine .bind (.of_eq (inspect_respects orderQuiet _) hstable) fun pty => ?_
  refine .bind (Q := fun _ s => Running .waitLoop s ∧ s.childDone = false) ?_ fun _ => ?_
  · cases pty
    · exact hstart
    · exact .pure fun _ h => h
  refine .bind (.of_eq (waitOwnedProcessExit_respects orderQuiet) hstable) fun _ => ?_
  refine .bind (.of_eq (awaitPipes_respects orderQuiet pty) hstable) fun _ => ?_
  refine .bind (.of_eq (external_respects orderQuiet _) hstable) fun exit => ?_
  refine .bind (onChildExit_order exit) fun _ => ?_
  exact .pure fun _ _ h => by cases h

/-- A reader may send data of its stream as long as the stream has not ended. -/
theorem sendMessage_order {t : DataType} {payload : DataPayload} (hg : g.stream = some t)
    {Q : Result → Session → Prop} (hQ : ∀ r, orderContract.Stable g (Q r))
    (hP : orderContract.Stable g P)
    (hfail : ∀ s err, Running g s → Unended t s → P s → Q (.error err) s)
    (hsent : ∀ s r, Running g s → Unended t s → P s →
      Q r (s.push (.data (some ⟨t, payload⟩)))) :
    orderContract.Triple g (fun s => (Running g s ∧ Unended t s) ∧ P s)
      (writeMessage cfg g (.data (some ⟨t, payload⟩))) Q := by
  refine writeMessage_order (((running_stable g g).and (unended_stable hg)).and hP) hQ
    (fun s err h => hfail s err h.1.1 h.1.2 h.2) ?_
  intro s hinv hs
  obtain ⟨⟨hrunning, hunended⟩, hPs⟩ := hs
  have hlegal : Legal (openStreams s.ptyFile) s.wire (.data (some ⟨t, payload⟩)) := by
    refine ⟨fun _ => (hrunning.acked hinv).2, fun u hu => ?_, by simp [Message.isClose]⟩
    obtain rfl : t = u := by simpa [Message.ofStream] using hu
    exact hunended
  refine ⟨⟨OrderView.Inv.push hinv hlegal (by simp [Message.isClose]), fun u hu => ?_⟩,
    fun r => hsent s r hrunning hunended hPs⟩
  refine OrderView.Rely.push (fun v hv heq => hu ?_) (by simp [Message.isClose])
  obtain rfl : t = v := by
    simp only [eosMessage, Message.data.injEq, Option.some.injEq, Data.mk.injEq] at heq
    exact heq.1
  exact Goroutine.stream_injective hv hg

/-- `dataMessage` builds a message of its stream that does not end it. -/
theorem dataMessage_order (hP : orderContract.Stable g P) (t : DataType) (chunk : Bytes) :
    orderContract.Triple g P (dataMessage t chunk) fun r s => P s ∧
      ∀ m, r = .ok m → ∃ payload, payload ≠ .eos ∧ m = .data (some ⟨t, payload⟩) := by
  refine .bind (.of_eq (inspect_respects orderQuiet _) hP) fun crypto => ?_
  split
  · have hencrypt : (choose (encryptChunk t chunk)).Respects fun s s' =>
        s'.orderView = s.orderView := by
      refine encryptChunk_respects ?_ ?_ chunk
      · exact fun _ => rfl
      · exact fun _ _ => rfl
    refine .bind (.of_eq hencrypt hP) fun r => ?_
    rcases r with err | payload
    · exact .pure fun s hs => ⟨hs, fun m h => by cases h⟩
    · refine .pure fun s hs => ⟨hs, fun m h => ⟨.encryptedData payload, by simp, ?_⟩⟩
      exact (Except.ok.inj h).symm
  · refine .pure fun s hs => ⟨hs, fun m h => ⟨.data chunk, by simp, ?_⟩⟩
    exact (Except.ok.inj h).symm

variable {t : DataType} {platform : Platform}

/-- A section that starts a round of a reader changes nothing the order depends on. -/
theorem beginStream_view (t : DataType) (eos : Bool) (s : Session) :
    (s.beginStream t eos).2.orderView = s.orderView := by
  unfold beginStream
  repeat' split
  all_goals rfl

/-- Only an open stream of a running reader is ended. -/
theorem beginStream_eos {s : Session} {eos : Bool} (hinv : orderContract.inv s)
    (hrunning : Running g s) (h : (s.beginStream t eos).1 = .eos) : s.orderView.HasStream t := by
  obtain ⟨streams, hstreams, -⟩ := hinv.streams (hrunning.acked hinv).1
  change s.streamsOpen = some streams at hstreams
  unfold beginStream at h
  rw [hstreams] at h
  split at h
  · cases h
  · split at h
    · cases h
    · simp only at h
      split at h
      · cases h
      · rename_i hopen
        exact ⟨streams, hstreams, by_contra fun hn => hopen (Or.inl hn)⟩

section

variable (ht : (Goroutine.reader t).stream = some t)
include ht

theorem onReadData_order (chunk : Bytes) :
    orderContract.Triple (.reader t) (fun s => Running (.reader t) s ∧ Unended t s)
      (onReadData cfg t chunk) fun _ s => Running (.reader t) s ∧ Unended t s := by
  have hstable := (running_stable (.reader t) (.reader t)).and (unended_stable ht)
  refine .bind (.of_eq (.atomic fun s => beginStream_view t false s) hstable)
    fun turn => ?_
  have hsend : orderContract.Triple (.reader t) (fun s => Running (.reader t) s ∧ Unended t s)
      (sendData cfg t chunk) fun _ s => Running (.reader t) s ∧ Unended t s := by
    refine .bind (dataMessage_order hstable t chunk) fun r => ?_
    rcases r with err | m
    · exact .pure fun s hs => hs.1
    · intro s hs
      obtain ⟨payload, hpayload, rfl⟩ := hs.2 m rfl
      refine sendMessage_order ht (fun _ => hstable) (P := fun _ => True) stable_const
        (fun s _ hr hu _ => ⟨hr, hu⟩) ?_ s ⟨hs.1, trivial⟩
      intro s r hr hu _
      refine ⟨hr, fun hmem => ?_⟩
      rcases List.mem_append.mp hmem with hold | hnew
      · exact hu hold
      · simp only [List.mem_singleton, eosMessage, Message.data.injEq, Option.some.injEq,
          Data.mk.injEq, true_and] at hnew
        exact hpayload hnew.symm
  have hrest : orderContract.Triple (.reader t) (fun s => Running (.reader t) s ∧ Unended t s)
      (sendData cfg t chunk >>= fun r => reportFailure r)
      fun _ s => Running (.reader t) s ∧ Unended t s :=
    .bind hsend fun r => .of_eq (reportFailure_respects orderQuiet r) hstable
  cases turn
  · exact .pure fun _ h => h
  · exact hrest
  · exact hrest

/-- The end of the last stream completes the session when the child is gone. -/
theorem endStream_order :
    orderContract.Triple (.reader t)
      (fun s => s.orderView.HasStream t ∧ eosMessage t ∈ s.wire)
      (atomic (endStream t)) fun r s => r = true → MayClose (.reader t) s := by
  refine .atomic ((hasStream_stable ht).and (ended_stable t)) ?_
  intro s hinv hs _
  obtain ⟨⟨streams, hstreams, hmem⟩, heos⟩ := hs
  change s.streamsOpen = some streams at hstreams
  have hnone : s.closer = none := by
    by_contra hne
    obtain rfl : streams = ∅ := Option.some.inj (hstreams.symm.trans (hinv.closer hne).2)
    exact notMem_empty t hmem
  have hno : s.orderView.NoClose := fun a ha hclose => hinv.close ⟨a, ha, hclose⟩ hnone
  have hopened : s.opened = true := by
    cases hopened : s.opened with
    | true => rfl
    | false =>
      have hn := hinv.unopened hopened
      rw [show s.orderView.streamsOpen = some streams from hstreams] at hn
      cases hn
  obtain ⟨streams', hstreams', -, hended⟩ := hinv.streams hopened
  obtain rfl : streams' = streams := Option.some.inj (hstreams'.symm.trans hstreams)
  have hended' : ∀ u ∈ openStreams s.ptyFile, u ∉ streams'.erase t →
      eosMessage u ∈ s.wire := by
    intro u hu hnot
    by_cases hut : u = t
    · rw [hut]
      exact heos
    · exact hended u hu fun hin => hnot (mem_erase.mpr ⟨hut, hin⟩)
  have hothers : ∀ u : Goroutine, u ≠ .reader t → ∀ v, u.stream = some v →
      s.orderView.HasStream v → v ∈ streams'.erase t := by
    rintro u hu v hv ⟨all, hall, hin⟩
    obtain rfl : all = streams' := Option.some.inj (hall.symm.trans hstreams)
    refine mem_erase.mpr ⟨fun hvt => hu ?_, hin⟩
    exact Goroutine.stream_injective hv (hvt ▸ ht)
  unfold endStream
  simp only [hstreams]
  split
  · rename_i hcond
    have hempty : streams'.erase t = ∅ := card_eq_zero.mp hcond.1
    refine ⟨⟨⟨hinv.legal, hinv.started, hinv.cmd, fun h => by simp_all [orderView],
      fun _ => ⟨_, rfl, rfl, hended'⟩, fun _ => ⟨hcond.2, congrArg some hempty⟩,
      fun _ => by simp [orderView]⟩, fun u hu => ?_⟩, fun _ => ⟨rfl, hno⟩⟩
    exact ⟨fun _ h => h, fun _ h => h, fun h => ⟨h, rfl⟩, fun _ => rfl,
      fun v hv => ⟨fun h => ⟨_, rfl, hothers u hu v hv h⟩, id⟩, fun _ => rfl,
      fun h => by simp [orderView, hnone] at h⟩
  · refine ⟨⟨⟨hinv.legal, hinv.started, hinv.cmd, fun h => by simp_all [orderView],
      fun _ => ⟨_, rfl, rfl, hended'⟩, fun h => absurd hnone h,
      hinv.close⟩, fun u hu => ?_⟩, fun h => by cases h⟩
    exact ⟨fun _ h => h, fun _ h => h, fun h => ⟨h, rfl⟩, fun _ => rfl,
      fun v hv => ⟨fun h => ⟨_, rfl, hothers u hu v hv h⟩, id⟩, fun _ => rfl,
      fun h => by simp [orderView, hnone] at h⟩

theorem finishStream_order :
    orderContract.Triple (.reader t)
      (fun s => (Running (.reader t) s ∧ Unended t s) ∧ s.orderView.HasStream t)
      (finishStream cfg t) fun _ _ => True := by
  have hsend : orderContract.Triple (.reader t)
      (fun s => (Running (.reader t) s ∧ Unended t s) ∧ s.orderView.HasStream t)
      (sendEOS cfg t)
      fun r s => r = .ok () → s.orderView.HasStream t ∧ eosMessage t ∈ s.wire := by
    refine sendMessage_order ht (fun _ => ((hasStream_stable ht).and (ended_stable t)).imp)
      (hasStream_stable ht) (fun s err _ _ _ h => by cases h) ?_
    intro s r _ _ hstream _
    exact ⟨hstream, List.mem_append_right _ (List.mem_singleton_self _)⟩
  refine .bind hsend fun r => ?_
  rcases r with err | ⟨⟩
  · exact .pure fun _ _ => trivial
  · refine .bind ((endStream_order ht).strengthen fun s h => h rfl) fun r => ?_
    cases r
    · exact .pure fun _ _ => trivial
    · exact doClose_order.strengthen fun s h => h rfl

theorem onReadError_order (err : ReadError) :
    orderContract.Triple (.reader t) (fun s => Running (.reader t) s ∧ Unended t s)
      (onReadError cfg platform t err) fun again _ => again = false := by
  have hstable := (running_stable (.reader t) (.reader t)).and (unended_stable ht)
  refine .bind (Q := fun turn s => (Running (.reader t) s ∧ Unended t s) ∧
    (turn = .eos → s.orderView.HasStream t)) ?_ fun turn => ?_
  · refine .atomic hstable fun s hinv hs _ => ?_
    have hview := beginStream_view t (isStreamEOS platform err s.ptyFile) s
    refine ⟨.of_eq hview hinv, hstable.of_eq hview hinv hs, fun heos => ?_⟩
    rw [hview]
    exact beginStream_eos hinv hs.1 heos
  · cases turn
    · exact .pure fun _ _ => rfl
    · refine .bind ((finishStream_order ht).strengthen fun s h => ⟨h.1, h.2 rfl⟩) fun r => ?_
      refine .bind (.of_eq (reportFailure_respects orderQuiet r) stable_const) fun _ => ?_
      exact .pure fun _ _ => rfl
    · refine .bind (Q := fun _ _ => True) ?_ fun _ => .pure fun _ _ => rfl
      refine Contract.Triple.strengthen (P := fun _ => True) ?_ fun _ _ => trivial
      exact .of_eq (error_respects orderQuiet err.toError) stable_const

/-- A reader sends the data of its stream, and its end at most once. -/
theorem streamLoop_order (hack : (Goroutine.reader t).afterAck = true) :
    orderContract.Triple (.reader t) (Unended t) (streamLoop cfg platform t)
      fun again s => again = true → Unended t s := by
  have hstable := (running_stable (.reader t) (.reader t)).and (unended_stable ht)
  have hcopy : orderContract.Triple (.reader t) (fun s => Running (.reader t) s ∧ Unended t s)
      (copyStream cfg platform t) fun again s => again = true → Unended t s := by
    refine .bind (.of_eq (.receive (orderQuiet).refl _) hstable) fun read => ?_
    refine .bind (Q := fun _ s => Running (.reader t) s ∧ Unended t s) ?_ fun again => ?_
    · unfold sendChunk
      split
      · exact .pure fun _ h => h
      · exact onReadData_order ht read.1
    · cases again
      · exact .pure fun _ _ h => by cases h
      · rcases read with ⟨chunk, _ | err⟩
        · exact .pure fun _ hs _ => hs.2
        · exact (onReadError_order ht err).weaken fun again s hagain h => by
            rw [hagain] at h
            cases h
  refine .bind (awaitStart_order (unended_stable ht) hack) fun _ => ?_
  refine .bind hcopy fun again => ?_
  cases again
  · refine .bind (.of_eq (.atomic fun s => ?_) (Contract.Stable.imp (unended_stable ht)))
      fun _ => ?_
    · split <;> rfl
    · exact .pure fun _ _ h => by cases h
  · exact .pure fun _ hs => hs

end

end Prog

end Rstream.WebTTY
