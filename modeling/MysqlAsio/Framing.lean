import Mathlib.Data.Nat.ModEq
import MysqlAsio.Channels

/-!
How a message is cut into frames, and what of it the channel writes and reads.

A message ends with a frame that is not full. The channel reads messages so, but it writes no
such frame where the last one it wrote was full.
-/

namespace MysqlAsio.Framing

open MysqlAsio.Errors MysqlAsio.CommonMessages MysqlAsio.Streams MysqlAsio.Channels

/-- A message in frames, the last of which is not full. -/
def frames (seq : UInt8) (m : Bytes) : Bytes :=
  if m.length < maxPacketSize then frame seq m
  else frame seq (m.take maxPacketSize) ++ frames (seq + 1) (m.drop maxPacketSize)
termination_by m.length
decreasing_by
  simp only [List.length_drop, maxPacketSize] at *
  omega

/-- How many frames a message has. -/
def frameCount (m : Bytes) : ℕ := m.length / maxPacketSize + 1

/-- The frames the channel writes. -/
def written (seq : UInt8) (m : Bytes) : List Bytes :=
  if m.length ≤ maxPacketSize then [frame seq m]
  else frame seq (m.take maxPacketSize) :: written (seq + 1) (m.drop maxPacketSize)
termination_by m.length
decreasing_by
  simp only [List.length_drop, maxPacketSize] at *
  omega

lemma maxPacketSize_lt : maxPacketSize < 2 ^ 24 := by decide

lemma frames_short {seq : UInt8} {m : Bytes} (h : m.length < maxPacketSize) :
    frames seq m = frame seq m := by
  rw [frames, if_pos h]

lemma frameCount_short {m : Bytes} (h : m.length < maxPacketSize) : frameCount m = 1 := by
  rw [frameCount, Nat.div_eq_of_lt h]

section Full

variable {payload : Bytes} (h : payload.length = maxPacketSize) (m : Bytes)

include h

lemma frames_append (seq : UInt8) :
    frames seq (payload ++ m) = frame seq payload ++ frames (seq + 1) m := by
  rw [frames, if_neg (by rw [List.length_append]; omega), ← h, List.take_left, List.drop_left]

lemma frameCount_append : frameCount (payload ++ m) = 1 + frameCount m := by
  rw [frameCount, frameCount, List.length_append, h, Nat.add_div_left _ (by decide)]
  omega

end Full

lemma eq_append_of_long {m : Bytes} (h : maxPacketSize ≤ m.length) :
    ∃ payload m', m = payload ++ m' ∧ payload.length = maxPacketSize :=
  ⟨m.take maxPacketSize, m.drop maxPacketSize, (List.take_append_drop _ m).symm, by simp [h]⟩

/-- A message is in one frame, or it is a full payload before a message. -/
@[elab_as_elim]
lemma frames_induction {motive : Bytes → Prop}
    (short : ∀ m : Bytes, m.length < maxPacketSize → motive m)
    (full : ∀ payload m : Bytes, payload.length = maxPacketSize → motive m →
      motive (payload ++ m)) (m : Bytes) : motive m := by
  induction hn : m.length using Nat.strong_induction_on generalizing m with
  | _ n ih =>
    subst hn
    rcases Nat.lt_or_ge m.length maxPacketSize with hl | hl
    · exact short m hl
    · obtain ⟨payload, m, rfl, hfull⟩ := eq_append_of_long hl
      refine full payload m hfull (ih _ ?_ m rfl)
      rw [List.length_append, hfull, maxPacketSize]
      omega

/-- As the channel writes, for which the last frame may be full. -/
@[elab_as_elim]
lemma written_induction {motive : Bytes → Prop}
    (short : ∀ m : Bytes, m.length ≤ maxPacketSize → motive m)
    (full : ∀ payload m : Bytes, payload.length = maxPacketSize → m ≠ [] → motive m →
      motive (payload ++ m)) (m : Bytes) : motive m := by
  induction m using frames_induction with
  | short m hl => exact short m hl.le
  | full payload m hfull ih =>
    by_cases hm : m = []
    · subst hm
      rw [List.append_nil]
      exact short payload hfull.le
    · exact full payload m hfull hm ih

/-! ### Reading -/

theorem readLoop_frames {ch : Channel} {m : Bytes} {rest : List Arrival}
    (h : ch.pending = (frames ch.sequenceNumber m).map .byte ++ rest) (buffer : Bytes) :
    ch.readLoop buffer = (buffer ++ m, .success, ch.afterFrames (frameCount m) rest) := by
  induction m using frames_induction generalizing ch buffer with
  | short m hl =>
    rw [frames_short hl] at h
    rw [Channel.readLoop_ok (Channel.readFrame_frame (hl.trans maxPacketSize_lt) h buffer),
      if_neg hl.ne, frameCount_short hl]
  | full payload m hfull ih =>
    rw [frames_append hfull, List.map_append, List.append_assoc] at h
    have hf := Channel.readFrame_frame (by rw [hfull]; exact maxPacketSize_lt) h buffer
    have hp := Channel.afterFrames_pending ch 1
      ((frames (ch.sequenceNumber + 1) m).map .byte ++ rest)
    calc ch.readLoop buffer
        = Channel.readLoop (ch.afterFrames 1 _) (buffer ++ payload) := by
          rw [Channel.readLoop_ok hf, if_pos hfull]
      _ = (buffer ++ payload ++ m, .success,
            Channel.afterFrames (ch.afterFrames 1 _) (frameCount m) rest) := ih hp _
      _ = (buffer ++ (payload ++ m), .success,
            ch.afterFrames (frameCount (payload ++ m)) rest) := by
          rw [Channel.afterFrames_afterFrames, List.append_assoc, frameCount_append hfull]

lemma read_frames {ch : Channel} {m : Bytes} {rest : List Arrival}
    (h : ch.pending = (frames ch.sequenceNumber m).map .byte ++ rest) :
    ch.read = (m, .success, ch.afterFrames (frameCount m) rest) :=
  readLoop_frames h []

/-- What reading does: it reads a message whose frames arrive, or it fails. -/
theorem readLoop_cases (ch : Channel) (buffer : Bytes) :
    (∃ m rest, ch.pending = (frames ch.sequenceNumber m).map .byte ++ rest ∧
      ch.readLoop buffer = (buffer ++ m, .success, ch.afterFrames (frameCount m) rest)) ∨
    ∃ buffer' e ch', e.failed = true ∧ ch.Moved ch' ∧ ch.readLoop buffer = (buffer', e, ch') := by
  induction ch, buffer using Channel.readLoop.induct with
  | case1 ch buffer buffer' e ch' hr =>
    obtain ⟨he, hm⟩ := Channel.of_readFrame_error hr
    exact Or.inr ⟨buffer', e, ch', he, hm, Channel.readLoop_error hr⟩
  | case2 ch buffer buffer' ch' hr ih =>
    obtain ⟨payload, rest, hfull, -, hp, rfl, rfl⟩ := Channel.of_readFrame_ok hr
    rw [Channel.readLoop_ok hr, if_pos rfl]
    rcases ih with ⟨m, rest', hp', hr'⟩ | ⟨buffer', e, ch', he, hm, hr'⟩
    · refine Or.inl ⟨payload ++ m, rest', ?_, ?_⟩
      · rw [Channel.afterFrames_pending] at hp'
        rw [hp, hp', frames_append hfull, List.map_append, List.append_assoc]
        rfl
      · rw [hr', Channel.afterFrames_afterFrames, frameCount_append hfull, List.append_assoc]
    · refine Or.inr ⟨buffer', e, ch', he, Channel.moved_of_moveTo ?_ hm, hr'⟩
      rw [hp, List.length_append]
      omega
  | case3 ch buffer buffer' size ch' hr hlast =>
    obtain ⟨payload, rest, rfl, hl, hp, rfl, rfl⟩ := Channel.of_readFrame_ok hr
    have hs : payload.length < maxPacketSize := by
      simp only [maxPacketSize] at hlast ⊢
      omega
    rw [Channel.readLoop_ok hr, if_neg hlast]
    exact Or.inl ⟨payload, rest, by rw [frames_short hs, hp], by rw [frameCount_short hs]⟩

lemma read_cases (ch : Channel) :
    (∃ m rest, ch.pending = (frames ch.sequenceNumber m).map .byte ++ rest ∧
      ch.read = (m, .success, ch.afterFrames (frameCount m) rest)) ∨
    ∃ buffer e ch', e.failed = true ∧ ch.Moved ch' ∧ ch.read = (buffer, e, ch') :=
  readLoop_cases ch []

lemma read_other {ch : Channel} {seq : UInt8} {m : Bytes} {rest : List Arrival}
    (hl : m.length < maxPacketSize) (hne : seq ≠ ch.sequenceNumber)
    (hp : ch.pending = (frames seq m).map .byte ++ rest) :
    ∃ ch', ch.read = ([], makeErrorCode .sequenceNumberMismatch, ch') := by
  rw [frames_short hl, frame, List.map_append, List.append_assoc] at hp
  have hs : (PacketHeader.mk (.ofNat m.length) seq).packetSize.toNat < 2 ^ 24 := by
    rw [Channel.toNat_ofNat_payload (hl.trans maxPacketSize_lt)]
    exact hl.trans maxPacketSize_lt
  exact ⟨_, Channel.readLoop_error (Channel.readFrame_other hs hne hp [])⟩

lemma read_pending_lt {ch ch' : Channel} {m : Bytes} (h : ch.read = (m, .success, ch')) :
    ch'.pending.length < ch.pending.length := by
  rcases read_cases ch with ⟨m', rest, hp, hr⟩ | ⟨_, e, _, he, -, hr⟩
  · rw [h] at hr
    cases hr
    rw [Channel.afterFrames_pending, hp, List.length_append, List.length_map]
    have : 4 ≤ (frames ch.sequenceNumber m).length := by
      rw [frames]
      split_ifs <;> simp only [List.length_append, frame_length] <;> omega
    omega
  · rw [h] at hr
    cases hr
    cases he

lemma read_moved (ch : Channel) : ch.Moved ch.read.2.2 := by
  rcases read_cases ch with ⟨m, rest, hp, hr⟩ | ⟨_, _, ch', -, hm, hr⟩ <;> rw [hr]
  · refine Channel.moved_moveTo ?_
    rw [hp, List.length_append]
    omega
  · exact hm

lemma read_log {ch ch' : Channel} {m : Bytes} {err : ErrorCode} (h : ch.read = (m, err, ch')) :
    ch'.stream.log = ch.stream.log := by
  obtain ⟨seq, n, rest, -, hc⟩ := read_moved ch
  rw [h] at hc
  simp only at hc
  rw [hc, Channel.moveTo_stream, Stream.advance_log]

/-! ### Sequences of messages -/

/-- The frames of messages sent one after the other. -/
def messageFrames (seq : UInt8) : List Bytes → Bytes
  | [] => []
  | m :: ms => frames seq m ++ messageFrames (seq + .ofNat (frameCount m)) ms

/-- These messages are the next to arrive, and then what `rest` says. -/
def Delivers (ch : Channel) (ms : List Bytes) (rest : List Arrival) : Prop :=
  ch.pending = (messageFrames ch.sequenceNumber ms).map .byte ++ rest

/-- The channel when the first of the messages to arrive was read. -/
def afterMessage (ch : Channel) (m : Bytes) (ms : List Bytes) (rest : List Arrival) : Channel :=
  ch.afterFrames (frameCount m)
    ((messageFrames (ch.sequenceNumber + .ofNat (frameCount m)) ms).map .byte ++ rest)

lemma delivers_nil {ch : Channel} {rest : List Arrival} :
    Delivers ch [] rest ↔ ch.pending = rest := by
  simp [Delivers, messageFrames]

lemma delivers_afterMessage (ch : Channel) (m : Bytes) (ms : List Bytes) (rest : List Arrival) :
    Delivers (afterMessage ch m ms rest) ms rest := by
  rw [Delivers, afterMessage, Channel.afterFrames_pending, Channel.afterFrames_sequenceNumber]

lemma Delivers.withBuffer {ch : Channel} {ms : List Bytes} {rest : List Arrival}
    (h : Delivers ch ms rest) (sharedBuffer : Bytes) : Delivers { ch with sharedBuffer } ms rest :=
  h

theorem Delivers.read {ch : Channel} {m : Bytes} {ms : List Bytes} {rest : List Arrival}
    (h : Delivers ch (m :: ms) rest) :
    ch.read = (m, .success, afterMessage ch m ms rest) := by
  rw [Delivers, messageFrames, List.map_append, List.append_assoc] at h
  exact read_frames h

@[simp] lemma afterMessage_currentCaps (ch : Channel) (m : Bytes) (ms : List Bytes)
    (rest : List Arrival) : (afterMessage ch m ms rest).currentCaps = ch.currentCaps := rfl

/-! ### Writing -/

/-- Nothing has changed but the number and what was sent, in the layer in use. -/
def Wrote (ch ch' : Channel) : Prop :=
  ∃ (seq : UInt8) (results : List (Option (ℕ × Failure))) (data : List Bytes), ch' = { ch with
    sequenceNumber := seq
    stream := { ch.stream with
      writeResults := results, log := ch.stream.log ++ data.map (.write ch.layer) } }

lemma Wrote.trans {ch ch' ch'' : Channel} (h : Wrote ch ch') (h' : Wrote ch' ch'') :
    Wrote ch ch'' := by
  obtain ⟨seq, results, data, rfl⟩ := h
  obtain ⟨seq', results', data', rfl⟩ := h'
  exact ⟨seq', results', data ++ data', by simp [Channel.layer]⟩

lemma writeImpl_cases (ch : Channel) (data : Bytes) :
    Wrote ch (ch.writeImpl data).2 ∧
      ((ch.writeImpl data).1 = .success ∨ (ch.writeImpl data).1.failed = true) := by
  unfold Channel.writeImpl Stream.write
  split_ifs with ho
  · exact ⟨⟨ch.sequenceNumber, ch.stream.writeResults, [], by simp⟩, Or.inr rfl⟩
  · rcases hw : ch.stream.writeResults with _ | ⟨_ | ⟨n, e⟩, results⟩
    · exact ⟨⟨ch.sequenceNumber, [], [data], by simp⟩, Or.inl rfl⟩
    · exact ⟨⟨ch.sequenceNumber, results, [data], rfl⟩, Or.inl rfl⟩
    · exact ⟨⟨ch.sequenceNumber, results, [data.take n], rfl⟩, Or.inr e.2⟩

lemma writeLoop_cases (buffer : Bytes) (transferred : ℕ) (ch : Channel) :
    let r := Channel.writeLoop buffer transferred ch
    Wrote ch r.2 ∧ (r.1 = .success ∨ r.1.failed = true) := by
  induction hn : buffer.length - transferred using Nat.strong_induction_on
    generalizing transferred ch with
  | _ n ih =>
    rw [Channel.writeLoop]
    set size := Channel.computeSizeToWrite buffer.length transferred
    obtain ⟨hw, he⟩ := writeImpl_cases (ch.processHeaderWrite size).2
      ((ch.processHeaderWrite size).1 ++ (buffer.drop transferred).take size)
    have hh : Wrote ch (ch.processHeaderWrite size).2 :=
      ⟨ch.sequenceNumber + 1, ch.stream.writeResults, [], by simp [Channel.processHeaderWrite]⟩
    simp only []
    split_ifs with hf hlt
    · exact ⟨hh.trans hw, Or.inr hf⟩
    · subst hn
      obtain ⟨hw', he'⟩ := ih _ (Channel.computeSizeToWrite_left_lt hlt) (transferred + size) _ rfl
      exact ⟨(hh.trans hw).trans hw', he'⟩
    · exact ⟨hh.trans hw, Or.inl rfl⟩

lemma write_cases (ch : Channel) (m : Bytes) :
    Wrote ch (ch.write m).2 ∧ ((ch.write m).1 = .success ∨ (ch.write m).1.failed = true) :=
  writeLoop_cases m 0 ch

/-- What one write adds to the log: nothing, where the stream is closed, or what was sent of it. -/
lemma writeImpl_begins (ch : Channel) (data : Bytes) :
    let r := ch.writeImpl data
    r.2.layer = ch.layer ∧ ((r.2.stream.log = ch.stream.log ∧ r.1.failed = true) ∨
      ∃ first, first <+: data ∧ r.2.stream.log = ch.stream.log ++ [.write ch.layer first] ∧
        (r.1 = .success ∧ first = data ∨ r.1.failed = true)) := by
  unfold Channel.writeImpl Stream.write
  refine ⟨?_, ?_⟩
  · rfl
  split_ifs with ho
  · exact Or.inl ⟨rfl, rfl⟩
  · refine Or.inr ?_
    rcases hw : ch.stream.writeResults with _ | ⟨_ | ⟨n, e⟩, results⟩
    · exact ⟨data, List.prefix_rfl, rfl, Or.inl ⟨rfl, rfl⟩⟩
    · exact ⟨data, List.prefix_rfl, rfl, Or.inl ⟨rfl, rfl⟩⟩
    · exact ⟨data.take n, List.take_prefix n data, rfl, Or.inr e.2⟩

/-- What the write of a message adds to the log: nothing, where the stream is closed, or first its
first frame, as much as was sent of that. -/
lemma write_begins (ch : Channel) (m : Bytes) :
    let r := ch.write m
    (r.2.stream.log = ch.stream.log ∧ r.1.failed = true) ∨
    ∃ first data, first <+: frame ch.sequenceNumber (m.take maxPacketSize) ∧
      r.2.stream.log = ch.stream.log ++ .write ch.layer first :: data.map (.write ch.layer) ∧
      (m.length ≤ maxPacketSize → data = [] ∧
        (r.1 = .success → first = frame ch.sequenceNumber (m.take maxPacketSize))) := by
  set size := Channel.computeSizeToWrite m.length 0 with hsize
  have hmin : size = min maxPacketSize m.length := rfl
  have hframe : (ch.processHeaderWrite size).1 ++ (m.drop 0).take size =
      frame ch.sequenceNumber (m.take maxPacketSize) := by
    have htake : (m.drop 0).take size = m.take maxPacketSize := by
      rw [List.drop_zero, hmin, ← List.take_take, List.take_length]
    rw [htake, frame, List.length_take, ← hmin, Channel.processHeaderWrite]
  obtain ⟨hlayer, hw⟩ := writeImpl_begins (ch.processHeaderWrite size).2
    (frame ch.sequenceNumber (m.take maxPacketSize))
  have hlog : (ch.processHeaderWrite size).2.stream.log = ch.stream.log := rfl
  have hlayer0 : (ch.processHeaderWrite size).2.layer = ch.layer := rfl
  rw [hlayer0] at hlayer
  rw [hlog, hlayer0] at hw
  rw [Channel.write, Channel.writeLoop]
  simp only [← hsize, hframe]
  rcases hr : (ch.processHeaderWrite size).2.writeImpl
    (frame ch.sequenceNumber (m.take maxPacketSize)) with ⟨code, ch1⟩
  rw [hr] at hlayer hw
  simp only at hlayer hw
  rcases hw with ⟨hl, hf⟩ | ⟨first, hp, hl, ⟨rfl, rfl⟩ | hf⟩
  · refine Or.inl ?_
    simp only [hf, if_true, and_true]
    exact hl
  · refine Or.inr ?_
    simp only [success_failed, Bool.false_eq_true, if_false]
    split_ifs with hlt
    -- there is more to write, in the same layer
    · obtain ⟨seq, results, data, hwrote⟩ := (writeLoop_cases m (0 + size) ch1).1
      refine ⟨_, data, hp, ?_, fun hm => ?_⟩
      · rw [hwrote, hl, hlayer]
        simp
      · omega
    · exact ⟨_, [], hp, hl, fun _ => ⟨rfl, fun _ => rfl⟩⟩
  · refine Or.inr ⟨first, [], hp, ?_, fun _ => ⟨rfl, fun h => ?_⟩⟩
    · simp only [hf, if_true]
      exact hl
    · simp only [hf, if_true] at h
      rw [h] at hf
      cases hf

lemma Wrote.pending {ch ch' : Channel} (h : Wrote ch ch') : ch'.pending = ch.pending := by
  obtain ⟨seq, results, data, rfl⟩ := h
  unfold Channel.pending
  cases hl : ch.layer <;> simp only [Channel.layer] at hl ⊢ <;> simp [hl, Stream.arrivals]

lemma write_pending {ch ch' : Channel} {m : Bytes} {err : ErrorCode}
    (h : ch.write m = (err, ch')) : ch'.pending = ch.pending := by
  have hw := (write_cases ch m).1
  rw [h] at hw
  exact hw.pending

/-- A channel whose writes send all they are given. -/
structure Sends (ch : Channel) : Prop where
  isOpen : ch.stream.isOpen = true
  writeResults : ch.stream.writeResults = []

/-- The channel when it has written some frames. -/
def afterWrites (ch : Channel) (data : List Bytes) : Channel :=
  { ch with
    sequenceNumber := ch.sequenceNumber + .ofNat data.length
    stream := { ch.stream with log := ch.stream.log ++ data.map (.write ch.layer) } }

lemma afterWrites_afterWrites (ch : Channel) (data data' : List Bytes) :
    afterWrites (afterWrites ch data) data' = afterWrites ch (data ++ data') := by
  have hl : (afterWrites ch data).layer = ch.layer := rfl
  rw [afterWrites, hl]
  simp [afterWrites, UInt8.add_assoc]

lemma sends_afterWrites {ch : Channel} (h : Sends ch) (data : List Bytes) :
    Sends (afterWrites ch data) := ⟨h.isOpen, h.writeResults⟩

lemma written_short {seq : UInt8} {m : Bytes} (h : m.length ≤ maxPacketSize) :
    written seq m = [frame seq m] := by
  rw [written, if_pos h]

lemma written_append {payload m : Bytes} (h : payload.length = maxPacketSize) (hm : m ≠ [])
    (seq : UInt8) : written seq (payload ++ m) = frame seq payload :: written (seq + 1) m := by
  have := List.length_pos_iff.mpr hm
  rw [written, if_neg (by rw [List.length_append]; omega), ← h, List.take_left, List.drop_left]

lemma writeLoop_step {ch : Channel} (h : Sends ch) {pre chunk m : Bytes}
    (hc : chunk.length = min maxPacketSize (chunk ++ m).length) :
    Channel.writeLoop (pre ++ (chunk ++ m)) pre.length ch =
      if m = [] then (.success, afterWrites ch [frame ch.sequenceNumber chunk])
      else Channel.writeLoop ((pre ++ chunk) ++ m) (pre ++ chunk).length
        (afterWrites ch [frame ch.sequenceNumber chunk]) := by
  have hsize : Channel.computeSizeToWrite (pre ++ (chunk ++ m)).length pre.length =
      chunk.length := by
    rw [hc, Channel.computeSizeToWrite, List.length_append, Nat.add_sub_cancel_left]
  have hw : (ch.processHeaderWrite chunk.length).2.writeImpl
      ((ch.processHeaderWrite chunk.length).1 ++ chunk) =
      (.success, afterWrites ch [frame ch.sequenceNumber chunk]) := by
    unfold Channel.writeImpl Channel.processHeaderWrite
    rw [write_success h.isOpen h.writeResults]
    rfl
  rw [Channel.writeLoop]
  simp only [hsize, List.drop_left, List.take_left, hw, success_failed, Bool.false_eq_true,
    if_false]
  rw [List.append_assoc, List.length_append, List.length_append, List.length_append]
  by_cases hm : m = []
  · rw [if_pos hm, dif_neg (by simp [hm])]
  · have := List.length_pos_iff.mpr hm
    rw [if_neg hm, dif_pos (by omega)]

lemma writeLoop_written {ch : Channel} (h : Sends ch) (pre m : Bytes) :
    Channel.writeLoop (pre ++ m) pre.length ch =
      (.success, afterWrites ch (written ch.sequenceNumber m)) := by
  induction m using written_induction generalizing ch pre with
  | short m hl =>
    have hc : m.length = min maxPacketSize (m ++ []).length := by
      rw [List.append_nil]
      omega
    have hstep := @writeLoop_step ch h pre m [] hc
    rw [if_pos rfl, List.append_nil] at hstep
    rw [hstep, written_short hl]
  | full payload m hfull hm ih =>
    rw [writeLoop_step h (by rw [List.length_append]; omega), if_neg hm,
      ih (sends_afterWrites h _), afterWrites_afterWrites, written_append hfull hm]
    rfl

/-- **Writing always ends**, and what it writes are the frames of the message. -/
theorem write_written {ch : Channel} (h : Sends ch) (m : Bytes) :
    ch.write m = (.success, afterWrites ch (written ch.sequenceNumber m)) :=
  writeLoop_written h [] m

/-- A stream that sends everything and from which nothing arrives. -/
def quietStream : Stream := ⟨true, [], [], [], [], .success, 0, [], 0⟩

/-- A channel that sends everything, and to which these messages arrive from the number `seq`
on, then nothing. -/
def channelOf (seq : UInt8) (ms : List Bytes) : Channel :=
  (Channel.new quietStream).moveTo seq 0 ((messageFrames seq ms).map .byte ++ [])

lemma channelOf_delivers (seq : UInt8) (ms : List Bytes) : Delivers (channelOf seq ms) ms [] :=
  Channel.moveTo_pending ..

lemma channelOf_sends (seq : UInt8) (ms : List Bytes) : Sends (channelOf seq ms) := ⟨rfl, rfl⟩

/-- A command in one frame, whose number is 0. What answers it is numbered from 1 on. -/
theorem command_written {ch : Channel} (h : Sends ch) {m : Bytes} (hm : m.length ≤ maxPacketSize) :
    ch.resetSequenceNumber.write m =
      (.success, afterWrites ch.resetSequenceNumber [frame 0 m]) := by
  have hs : Sends ch.resetSequenceNumber := ⟨h.isOpen, h.writeResults⟩
  rw [write_written hs, written_short hm]
  rfl

lemma command_delivers {ch : Channel} {ms : List Bytes} {rest : List Arrival}
    (h : ch.pending = (messageFrames 1 ms).map .byte ++ rest) (m : Bytes) :
    Delivers (afterWrites ch.resetSequenceNumber [frame 0 m]) ms rest := by
  have hl : (afterWrites ch.resetSequenceNumber [frame 0 m]).layer = ch.layer := rfl
  have hp : (afterWrites ch.resetSequenceNumber [frame 0 m]).pending = ch.pending := by
    rw [Channel.pending, Channel.pending, hl]
    cases ch.layer <;> rfl
  rw [Delivers, hp, h]
  rfl

/-! ### Writing against reading -/

/-- Whether a message ends in a frame that is not full does not depend on its full frames. -/
lemma dvd_length_append {payload : Bytes} (h : payload.length = maxPacketSize) (m : Bytes) :
    maxPacketSize ∣ (payload ++ m).length ↔ maxPacketSize ∣ m.length := by
  rw [List.length_append, h, Nat.dvd_add_right dvd_rfl]

lemma written_of_not_dvd {m : Bytes} (h : m = [] ∨ ¬ maxPacketSize ∣ m.length) (seq : UInt8) :
    (written seq m).flatten = frames seq m ∧ (written seq m).length = frameCount m := by
  induction m using frames_induction generalizing seq with
  | short m hl =>
    rw [written_short hl.le, frames_short hl, frameCount_short hl]
    exact ⟨List.flatten_singleton, rfl⟩
  | full payload m hfull ih =>
    have hne : payload ++ m ≠ [] := by
      intro hnil
      rw [(List.append_eq_nil_iff.mp hnil).1] at hfull
      exact absurd hfull (by decide)
    have hdvd : ¬ maxPacketSize ∣ m.length := fun hd =>
      h.resolve_left hne ((dvd_length_append hfull m).mpr hd)
    have hm : m ≠ [] := by
      rintro rfl
      exact hdvd (dvd_zero _)
    obtain ⟨h1, h2⟩ := ih (Or.inr hdvd) (seq + 1)
    rw [written_append hfull hm, frames_append hfull, frameCount_append hfull,
      List.flatten_cons, List.length_cons, h1, h2]
    exact ⟨rfl, Nat.add_comm _ _⟩

/-- A message whose last frame is full is written in fewer frames than it has. -/
lemma written_of_dvd {m : Bytes} (hm : m ≠ []) (h : maxPacketSize ∣ m.length) (seq : UInt8) :
    (written seq m).length < frameCount m := by
  induction m using written_induction generalizing seq with
  | short m hl =>
    have hlen : m.length = maxPacketSize :=
      le_antisymm hl (Nat.le_of_dvd (List.length_pos_iff.mpr hm) h)
    rw [written_short hl, List.length_singleton, frameCount, hlen]
    decide
  | full payload m hfull hm' ih =>
    rw [dvd_length_append hfull] at h
    have := ih hm' h (seq + 1)
    rw [written_append hfull hm', List.length_cons, frameCount_append hfull]
    omega

lemma written_flatten_length (seq : UInt8) (m : Bytes) :
    (written seq m).flatten.length = 4 * (written seq m).length + m.length := by
  induction m using written_induction generalizing seq with
  | short m hl =>
    rw [written_short hl, List.flatten_singleton, frame_length]
    rfl
  | full payload m hfull hm ih =>
    rw [written_append hfull hm, List.flatten_cons, List.length_append, frame_length, ih,
      List.length_cons, List.length_append]
    omega

lemma frames_length (seq : UInt8) (m : Bytes) :
    (frames seq m).length = 4 * frameCount m + m.length := by
  induction m using frames_induction generalizing seq with
  | short m hl => rw [frames_short hl, frame_length, frameCount_short hl]
  | full payload m hfull ih =>
    rw [frames_append hfull, List.length_append, frame_length, ih, frameCount_append hfull,
      List.length_append]
    omega

/-- The channel with something else to arrive. -/
def deliver (ch : Channel) (l : List Arrival) : Channel := ch.moveTo ch.sequenceNumber 0 l

/-- What a channel writes for `m` from the number `seq` on, a channel at the same number reads
back, whatever follows it, and ends at the number the writer ends at. -/
def RoundTrip (m : Bytes) (seq : UInt8) : Prop :=
  ∀ writer reader : Channel, Sends writer → writer.sequenceNumber = seq →
    reader.sequenceNumber = seq →
    ∃ w writer', writer.write m = (.success, writer') ∧
      writer'.stream.sent = writer.stream.sent ++ w ∧
      ∀ rest, ∃ reader', (deliver reader (w.map .byte ++ rest)).read = (m, .success, reader') ∧
        reader'.pending = rest ∧ reader'.sequenceNumber = writer'.sequenceNumber

lemma sent_afterWrites (ch : Channel) (data : List Bytes) :
    (afterWrites ch data).stream.sent = ch.stream.sent ++ data.flatten := by
  simp [afterWrites, Stream.sent, List.flatMap_map, List.flatMap_id']

/-- A reader of a message whose last frame is full waits for one more frame. -/
lemma not_roundTrip_of_dvd {m : Bytes} (hm : m ≠ []) (h : maxPacketSize ∣ m.length)
    (seq : UInt8) : ¬ RoundTrip m seq := by
  intro hrt
  set ch : Channel := { Channel.new quietStream with sequenceNumber := seq }
  have hs : Sends ch := ⟨rfl, rfl⟩
  obtain ⟨w, writer', hw, hsent, hread⟩ := hrt ch ch hs rfl rfl
  rw [write_written hs, Prod.mk.injEq] at hw
  rw [← hw.2, sent_afterWrites, List.append_cancel_left_eq] at hsent
  obtain ⟨reader', hr, -, -⟩ := hread []
  rcases readLoop_cases (deliver ch (w.map .byte ++ [])) [] with
    ⟨m', rest, hp, hr'⟩ | ⟨_, e, _, he, -, hr'⟩
  · have hm' : m = m' := congrArg Prod.fst (hr.symm.trans hr')
    have hlen := congrArg List.length hp
    rw [deliver, Channel.moveTo_pending, ← hsent, ← hm'] at hlen
    simp only [List.length_append, List.length_map, List.length_nil, written_flatten_length,
      frames_length] at hlen
    have := written_of_dvd hm h ch.sequenceNumber
    omega
  · have he' : ErrorCode.success = e := congrArg (fun r => r.2.1) (hr.symm.trans hr')
    rw [← he'] at he
    cases he

/-- **What is written is read back** exactly when the message is empty or does not fill its last
frame. -/
theorem roundTrip_iff (m : Bytes) (seq : UInt8) :
    RoundTrip m seq ↔ m = [] ∨ ¬ maxPacketSize ∣ m.length := by
  constructor
  · intro h
    by_contra hc
    rw [not_or, not_not] at hc
    exact not_roundTrip_of_dvd hc.1 hc.2 seq h
  · rintro h writer reader hs rfl hr
    obtain ⟨h1, h2⟩ := written_of_not_dvd h writer.sequenceNumber
    refine ⟨_, _, write_written hs m, sent_afterWrites _ _, fun rest => ?_⟩
    have hp : (deliver reader ((written writer.sequenceNumber m).flatten.map .byte ++
        rest)).pending = (frames reader.sequenceNumber m).map .byte ++ rest := by
      rw [h1, ← hr]
      exact Channel.moveTo_pending ..
    refine ⟨_, read_frames hp, Channel.afterFrames_pending .., ?_⟩
    change reader.sequenceNumber + _ = writer.sequenceNumber + _
    rw [hr, h2]

/-- One full frame of zeros is written, and the reader waits for another. -/
theorem not_roundTrip_full : ¬ RoundTrip (List.replicate maxPacketSize 0) 0 := by
  refine not_roundTrip_of_dvd ?_ ?_ 0
  · rw [Ne, List.replicate_eq_nil_iff]
    decide
  · rw [List.length_replicate]

end MysqlAsio.Framing
