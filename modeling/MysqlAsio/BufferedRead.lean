import MysqlAsio.Framing
import MysqlAsio.Lib.Buffers

/-!
Reading with the buffers of the source: a header buffer that is used again for every frame,
and an offset into the buffer of the caller.

The offset is always the size of the buffer before it grows, so that this is reading as it is
modelled with buffers that are appended to.
-/

namespace MysqlAsio.BufferedRead

open MysqlAsio.Errors MysqlAsio.Serialization MysqlAsio.CommonMessages MysqlAsio.Streams
open MysqlAsio.Channels MysqlAsio.Framing MysqlAsio.Lib.Buffers MysqlAsio.Lib.Decoding

/-- What a read works on: the channel with its `header_buffer_`, and the buffer of the caller. -/
structure ReadMemory where
  channel : Channel
  headerBuffer : Bytes
  buffer : Bytes

namespace ReadMemory

/-- `read_impl` into `header_buffer_`. -/
def readHeader (m : ReadMemory) : ErrorCode × ReadMemory :=
  let (data, err, channel) := m.channel.readImpl 4
  (err, { m with channel, headerBuffer := overwrite m.headerBuffer 0 data })

/-- `read_impl` into `size` bytes of the buffer, at an offset. -/
def readBody (m : ReadMemory) (offset size : ℕ) : ErrorCode × ReadMemory :=
  let (data, err, channel) := m.channel.readImpl size
  (err, { m with channel, buffer := overwrite m.buffer offset data })

/-- `process_header_read`. -/
def processHeaderRead (m : ReadMemory) : Except ErrorCode ℕ × ReadMemory :=
  let (sizeToRead, channel) := m.channel.processHeaderRead m.headerBuffer
  (sizeToRead, { m with channel })

/-- `buffer.resize(buffer.size() + size)`. -/
def grow (m : ReadMemory) (size : ℕ) : ReadMemory :=
  { m with buffer := resize m.buffer (m.buffer.length + size) }

/-- The body of the loop of `read`. -/
def readTurn (m : ReadMemory) (transferredSize : ℕ) : Except ErrorCode ℕ × ReadMemory :=
  let (err, m) := m.readHeader
  if err.failed then (.error err, m)
  else
    match m.processHeaderRead with
    | (.error err, m) => (.error err, m)
    | (.ok sizeToRead, m) =>
      let (err, m) := (m.grow sizeToRead).readBody transferredSize sizeToRead
      if err.failed then (.error err, m) else (.ok sizeToRead, m)

/-! ### A turn reads a frame -/

/-- Only the first four bytes of the header buffer are looked at. -/
lemma processHeaderRead_append (ch : Channel) {headerBuffer : Bytes} (h : headerBuffer.length = 4)
    (room : Bytes) :
    ch.processHeaderRead (headerBuffer ++ room) = ch.processHeaderRead headerBuffer := by
  obtain ⟨header, hs, rfl⟩ := Channel.eq_serializePacketHeader h
  unfold Channel.processHeaderRead
  rw [packetHeader_reads hs room, (packetHeader_reads hs).exact]

lemma readHeader_eq {m : ReadMemory} {data : Bytes} {err : ErrorCode} {ch : Channel}
    (h : m.channel.readImpl 4 = (data, err, ch)) :
    m.readHeader = (err, { m with channel := ch, headerBuffer := overwrite m.headerBuffer 0 data }) := by
  simp only [readHeader, h]

lemma readBody_eq {m : ReadMemory} {offset size : ℕ} {data : Bytes} {err : ErrorCode} {ch : Channel}
    (h : m.channel.readImpl size = (data, err, ch)) :
    m.readBody offset size =
      (err, { m with channel := ch, buffer := overwrite m.buffer offset data }) := by
  simp only [readBody, h]

lemma processHeaderRead_eq {m : ReadMemory} {data headerBuffer : Bytes} (h : data.length = 4)
    (hm : m.headerBuffer = overwrite headerBuffer 0 data) :
    m.processHeaderRead = ((m.channel.processHeaderRead data).1,
      { m with channel := (m.channel.processHeaderRead data).2 }) := by
  have hover : overwrite headerBuffer 0 data = data ++ headerBuffer.drop data.length := by
    simpa using overwrite_append [] headerBuffer data
  rw [processHeaderRead, hm, hover, processHeaderRead_append m.channel h]

lemma overwrite_grown (buffer data : Bytes) (size : ℕ) :
    overwrite (resize buffer (buffer.length + size)) buffer.length data =
      buffer ++ data ++ List.replicate (size - data.length) 0 := by
  rw [resize, takeD_length_add, overwrite_append, List.drop_replicate]

/-- A turn makes the same of what arrives as reading a frame does, whatever is in the
buffers. -/
theorem readTurn_eq (m : ReadMemory) (transferredSize : ℕ) :
    (m.readTurn transferredSize).1 = (m.channel.readFrame m.buffer).2.1 ∧
      (m.readTurn transferredSize).2.channel = (m.channel.readFrame m.buffer).2.2 ∧
      (transferredSize = m.buffer.length →
        (m.readTurn transferredSize).2.buffer = (m.channel.readFrame m.buffer).1) := by
  rcases m.channel.readImpl_cases 4 with ⟨data, rest, -, hl, hr⟩ | ⟨data, e, rest, he, -, hr⟩
  · have h1 := readHeader_eq hr
    simp only [readTurn, Channel.readFrame, h1, hr, success_failed, Bool.false_eq_true, if_false]
    rw [processHeaderRead_eq hl rfl]
    simp only []
    generalize m.channel.moveTo m.channel.sequenceNumber 1 rest = ch1
    rcases ch1.processHeaderRead data with ⟨err | size, ch2⟩
    · exact ⟨rfl, rfl, fun _ => rfl⟩
    · rcases hr2 : ch2.readImpl size with ⟨payload, err, ch3⟩
      have h2 := @readBody_eq (grow ⟨ch2, overwrite m.headerBuffer 0 data, m.buffer⟩ size)
        transferredSize size payload err ch3 hr2
      simp only [grow] at h2
      simp only [grow, h2, hr2]
      split_ifs
      · refine ⟨rfl, rfl, ?_⟩
        rintro rfl
        exact overwrite_grown m.buffer payload size
      · refine ⟨rfl, rfl, ?_⟩
        rintro rfl
        exact overwrite_grown m.buffer payload size
  · have h1 := readHeader_eq hr
    simp only [readTurn, Channel.readFrame, h1, hr, he, if_true]
    exact ⟨trivial, trivial, fun _ => trivial⟩

/-! ### The loop -/

lemma readFrame_length {ch ch' : Channel} {buffer buffer' : Bytes} {size : ℕ}
    (h : ch.readFrame buffer = (buffer', .ok size, ch')) :
    buffer'.length = buffer.length + size := by
  obtain ⟨payload, rest, rfl, -, -, rfl, -⟩ := Channel.of_readFrame_ok h
  exact List.length_append

lemma readFrame_of_readTurn {m m' : ReadMemory} {transferredSize size : ℕ}
    (h : m.readTurn transferredSize = (.ok size, m')) :
    ∃ buffer', m.channel.readFrame m.buffer = (buffer', .ok size, m'.channel) := by
  obtain ⟨h1, h2, -⟩ := m.readTurn_eq transferredSize
  rw [h] at h1 h2
  exact ⟨(m.channel.readFrame m.buffer).1, Prod.ext rfl (Prod.ext h1.symm h2.symm)⟩

/-- The loop of `read`. -/
def readLoop (m : ReadMemory) (transferredSize : ℕ) : ErrorCode × ReadMemory :=
  match _h : m.readTurn transferredSize with
  | (.error err, m) => (err, m)
  | (.ok sizeToRead, m) =>
    if sizeToRead = maxPacketSize then m.readLoop (transferredSize + sizeToRead)
    else (.success, m)
termination_by m.channel.pending.length
decreasing_by
  obtain ⟨_, hf⟩ := readFrame_of_readTurn _h
  exact Channel.readFrame_pending_lt hf

/-- `channel::read`. -/
def read (m : ReadMemory) : ErrorCode × ReadMemory :=
  ({ m with buffer := [] } : ReadMemory).readLoop 0

lemma readLoop_ok {m m' : ReadMemory} {transferredSize size : ℕ}
    (h : m.readTurn transferredSize = (.ok size, m')) :
    m.readLoop transferredSize =
      if size = maxPacketSize then m'.readLoop (transferredSize + size) else (.success, m') := by
  rw [readLoop]
  split
  · next h' => rw [h] at h'; cases h'
  · next h' => rw [h] at h'; cases h'; rfl

lemma readLoop_error {m m' : ReadMemory} {transferredSize : ℕ} {err : ErrorCode}
    (h : m.readTurn transferredSize = (.error err, m')) :
    m.readLoop transferredSize = (err, m') := by
  rw [readLoop]
  split
  · next h' => rw [h] at h'; cases h'; rfl
  · next h' => rw [h] at h'; cases h'

lemma readFrame_eq {m m' : ReadMemory} {transferredSize : ℕ} {r : Except ErrorCode ℕ}
    (hk : m.buffer.length = transferredSize) (h : m.readTurn transferredSize = (r, m')) :
    m.channel.readFrame m.buffer = (m'.buffer, r, m'.channel) := by
  obtain ⟨h1, h2, h3⟩ := m.readTurn_eq transferredSize
  have hb := h3 hk.symm
  rw [h] at h1 h2 hb
  exact Prod.ext hb.symm (Prod.ext h1.symm h2.symm)

/-- Where the offset is the size of the buffer, the loop reads at it what `Channel.readLoop`
appends. -/
theorem readLoop_eq (m : ReadMemory) :
    (m.readLoop m.buffer.length).1 = (m.channel.readLoop m.buffer).2.1 ∧
      (m.readLoop m.buffer.length).2.channel = (m.channel.readLoop m.buffer).2.2 ∧
      (m.readLoop m.buffer.length).2.buffer = (m.channel.readLoop m.buffer).1 := by
  generalize hk : m.buffer.length = k
  induction m, k using readLoop.induct with
  | case1 m k err m' ht =>
    rw [readLoop_error ht, Channel.readLoop_error (readFrame_eq hk ht)]
    exact ⟨rfl, rfl, rfl⟩
  | case2 m k m' ht ih =>
    have hf := readFrame_eq hk ht
    have hk' : m'.buffer.length = k + maxPacketSize := hk ▸ readFrame_length hf
    rw [readLoop_ok ht, Channel.readLoop_ok hf, if_pos rfl, if_pos rfl]
    exact ih hk'
  | case3 m k size m' ht hlast =>
    rw [readLoop_ok ht, Channel.readLoop_ok (readFrame_eq hk ht), if_neg hlast, if_neg hlast]
    exact ⟨rfl, rfl, rfl⟩

/-- **The buffers of the source read what the channel reads**, and nothing of what was in them
before is left in the result. -/
theorem read_eq (m : ReadMemory) :
    m.read.1 = m.channel.read.2.1 ∧ m.read.2.channel = m.channel.read.2.2 ∧
      m.read.2.buffer = m.channel.read.1 :=
  readLoop_eq { m with buffer := [] }

end ReadMemory

/-! ### What is read -/

/-- Frames of these payloads with consecutive numbers. -/
def numbered (seq : UInt8) : List Bytes → Bytes
  | [] => []
  | payload :: payloads => frame seq payload ++ numbered (seq + 1) payloads

/-- A message in payloads that are full, and one that is not. -/
structure Payloads (m : Bytes) (full : List Bytes) (last : Bytes) : Prop where
  full_length : ∀ payload ∈ full, payload.length = maxPacketSize
  last_length : last.length < maxPacketSize
  eq_append : m = full.flatten ++ last

lemma Payloads.frames {m last : Bytes} {full : List Bytes} (h : Payloads m full last)
    (seq : UInt8) :
    frames seq m = numbered seq (full ++ [last]) ∧ frameCount m = full.length + 1 := by
  obtain ⟨hfull, hlast, rfl⟩ := h
  induction full generalizing seq with
  | nil =>
    rw [List.flatten_nil, List.nil_append, List.nil_append, frames_short hlast,
      frameCount_short hlast, numbered, numbered, List.append_nil]
    exact ⟨rfl, rfl⟩
  | cons p ps ih =>
    have hp : p.length = maxPacketSize := hfull p List.mem_cons_self
    obtain ⟨h1, h2⟩ := ih (seq + 1) fun q hq => hfull q (List.mem_cons_of_mem p hq)
    rw [List.flatten_cons, List.append_assoc, frames_append hp, frameCount_append hp, h1, h2,
      List.cons_append, numbered, List.length_cons]
    exact ⟨rfl, Nat.add_comm _ _⟩

lemma exists_payloads (m : Bytes) : ∃ full last, Payloads m full last := by
  induction m using frames_induction with
  | short m hl => exact ⟨[], m, by simp, hl, rfl⟩
  | full payload m hp ih =>
    obtain ⟨full, last, hfull, hlast, hm⟩ := ih
    refine ⟨payload :: full, last, ?_, hlast, ?_⟩
    · intro q hq
      rcases List.mem_cons.mp hq with rfl | hq
      · exact hp
      · exact hfull q hq
    · rw [List.flatten_cons, List.append_assoc, ← hm]

lemma readLoop_misnumbered {ch : Channel} {full : List Bytes} {header : PacketHeader}
    {rest : List Arrival} (hfull : ∀ payload ∈ full, payload.length = maxPacketSize)
    (hs : header.packetSize.toNat < 2 ^ 24)
    (hne : header.sequenceNumber ≠ ch.sequenceNumber + .ofNat full.length)
    (hp : ch.pending =
      (numbered ch.sequenceNumber full ++ serializePacketHeader header).map .byte ++ rest)
    (buffer : Bytes) :
    ch.readLoop buffer = (buffer ++ full.flatten, makeErrorCode .sequenceNumberMismatch,
      ch.moveTo (ch.sequenceNumber + .ofNat full.length) (2 * full.length + 1) rest) := by
  induction full generalizing ch buffer with
  | nil =>
    have hz : ch.sequenceNumber + .ofNat ([] : List Bytes).length = ch.sequenceNumber :=
      UInt8.add_zero _
    rw [hz] at hne ⊢
    rw [numbered, List.nil_append] at hp
    rw [Channel.readLoop_error (Channel.readFrame_other hs hne hp buffer), List.flatten_nil,
      List.append_nil]
    rfl
  | cons p ps ih =>
    have hpl : p.length = maxPacketSize := hfull p List.mem_cons_self
    have hseq : ch.sequenceNumber + 1 + .ofNat ps.length =
        ch.sequenceNumber + .ofNat (p :: ps).length := by
      rw [List.length_cons, Nat.add_comm, UInt8.ofNat_add, UInt8.add_assoc]
      rfl
    rw [numbered, List.append_assoc, List.map_append, List.append_assoc] at hp
    have hf := Channel.readFrame_frame (by rw [hpl]; exact maxPacketSize_lt) hp buffer
    rw [Channel.readLoop_ok hf, if_pos hpl,
      ih (fun q hq => hfull q (List.mem_cons_of_mem p hq)) (by
        change _ ≠ ch.sequenceNumber + 1 + _
        rwa [hseq]) (Channel.afterFrames_pending ..) (buffer ++ p)]
    rw [List.flatten_cons, List.append_assoc, Channel.afterFrames, Channel.moveTo_moveTo,
      Channel.moveTo_sequenceNumber]
    change _ = (_, _, ch.moveTo _ _ rest)
    rw [← hseq, List.length_cons]
    congr 3
    omega

/-- **A read succeeds with a message exactly when its frames arrive**: full ones and one that is
not, with consecutive numbers from that of the channel on. It then has taken these frames. Where
the first wrong number is that of the frame after some full ones, the read fails, and has taken
its header and counted the frames before it. What was in the buffers does not matter. -/
theorem read_iff (m : ReadMemory) :
    (∀ message, m.read.1.failed = false ∧ m.read.2.buffer = message ↔
      ∃ full last rest, Payloads message full last ∧ m.channel.pending =
        (numbered m.channel.sequenceNumber (full ++ [last])).map .byte ++ rest) ∧
    (∀ message full last rest, Payloads message full last → m.channel.pending =
        (numbered m.channel.sequenceNumber (full ++ [last])).map .byte ++ rest →
      m.read.2.channel.pending = rest ∧ m.read.2.channel.sequenceNumber =
        m.channel.sequenceNumber + .ofNat (full.length + 1)) ∧
    (∀ full header rest, (∀ payload ∈ full, payload.length = maxPacketSize) →
      header.packetSize.toNat < 2 ^ 24 →
      header.sequenceNumber ≠ m.channel.sequenceNumber + .ofNat full.length →
      m.channel.pending = (numbered m.channel.sequenceNumber full ++
        serializePacketHeader header).map .byte ++ rest →
      m.read.1 = makeErrorCode .sequenceNumberMismatch ∧ m.read.2.channel.pending = rest ∧
        m.read.2.channel.sequenceNumber = m.channel.sequenceNumber + .ofNat full.length ∧
        m.read.2.buffer = full.flatten) ∧
    ∀ headerBuffer buffer, (ReadMemory.read ⟨m.channel, headerBuffer, buffer⟩).1 = m.read.1 ∧
      (ReadMemory.read ⟨m.channel, headerBuffer, buffer⟩).2.channel = m.read.2.channel ∧
      (ReadMemory.read ⟨m.channel, headerBuffer, buffer⟩).2.buffer = m.read.2.buffer := by
  obtain ⟨herr, hch, hbuf⟩ := m.read_eq
  refine ⟨fun message => ?_, ?_, ?_, ?_⟩
  · rw [herr, hbuf]
    constructor
    · rintro ⟨he, rfl⟩
      rcases read_cases m.channel with ⟨m', rest, hp, hr⟩ | ⟨_, e, _, hf, -, hr⟩
      · obtain ⟨full, last, h⟩ := exists_payloads m'
        rw [hr]
        exact ⟨full, last, rest, h, by rw [hp, (h.frames _).1]⟩
      · rw [hr, hf] at he
        cases he
    · rintro ⟨full, last, rest, h, hp⟩
      rw [← (h.frames _).1] at hp
      rw [read_frames hp]
      exact ⟨rfl, rfl⟩
  · intro message full last rest h hp
    rw [← (h.frames _).1] at hp
    rw [hch, read_frames hp, Channel.afterFrames_pending, Channel.afterFrames_sequenceNumber,
      (h.frames m.channel.sequenceNumber).2]
    exact ⟨rfl, rfl⟩
  · intro full header rest hfull hs hne hp
    rw [herr, hch, hbuf, Channel.read, readLoop_misnumbered hfull hs hne hp,
      Channel.moveTo_pending, Channel.moveTo_sequenceNumber, List.nil_append]
    exact ⟨rfl, rfl, rfl, rfl⟩
  · intro headerBuffer buffer
    obtain ⟨herr', hch', hbuf'⟩ := ReadMemory.read_eq ⟨m.channel, headerBuffer, buffer⟩
    rw [herr, hch, hbuf]
    exact ⟨herr', hch', hbuf'⟩

end MysqlAsio.BufferedRead
