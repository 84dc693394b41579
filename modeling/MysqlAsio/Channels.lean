import MysqlAsio.CommonMessages
import MysqlAsio.Streams

/-!
The channel: messages over a stream, cut into numbered frames.

A header is read and written whole before anything looks at it, so that it has no buffer
here. The offset the reader writes at is the size of its buffer before it grows, so that
reading is appending.
-/

namespace MysqlAsio.Channels

open MysqlAsio.Errors MysqlAsio.Serialization MysqlAsio.CommonMessages MysqlAsio.Streams
open MysqlAsio.Lib.Decoding MysqlAsio.Lib.LittleEndian

/-- A payload after its header. -/
def frame (seq : UInt8) (payload : Bytes) : Bytes :=
  serializePacketHeader ⟨.ofNat payload.length, seq⟩ ++ payload

lemma frame_length (seq : UInt8) (payload : Bytes) :
    (frame seq payload).length = 4 + payload.length := by
  simp [frame]

structure Channel where
  stream : Stream
  /-- Whether there is an `ssl_block_`. -/
  sslActive : Bool
  sequenceNumber : UInt8
  sharedBuffer : Bytes
  currentCaps : Capabilities

namespace Channel

/-- A channel just constructed. -/
def new (stream : Stream) : Channel := ⟨stream, false, 0, [], .none⟩

/-- The layer that is read and written. -/
def layer (ch : Channel) : Layer := if ch.sslActive then .tls else .plain

/-- What is going to arrive in that layer. -/
def pending (ch : Channel) : List Arrival := ch.stream.arrivals ch.layer

def resetSequenceNumber (ch : Channel) : Channel := { ch with sequenceNumber := 0 }

/-! ### Reading -/

def processSequenceNumber (ch : Channel) (got : UInt8) : Bool × Channel :=
  if got = ch.sequenceNumber then (true, { ch with sequenceNumber := ch.sequenceNumber + 1 })
  else (false, ch)

/-- The size of the frame. -/
def processHeaderRead (ch : Channel) (headerBuffer : Bytes) : Except ErrorCode ℕ × Channel :=
  let header := match deserializePacketHeader headerBuffer with
    | .ok (header, _) => header
    | .error _ => ⟨0, 0⟩
  let (matching, ch) := ch.processSequenceNumber header.sequenceNumber
  if !matching then (.error (makeErrorCode .sequenceNumberMismatch), ch)
  else (.ok header.packetSize.toNat, ch)

def readImpl (ch : Channel) (n : ℕ) : Bytes × ErrorCode × Channel :=
  let (data, err, stream) := ch.stream.read ch.layer n
  (data, err, { ch with stream })

/-- The body of the loop of `read`: one frame, appended to the buffer, and its size. -/
def readFrame (ch : Channel) (buffer : Bytes) : Bytes × Except ErrorCode ℕ × Channel :=
  let (headerBuffer, err, ch) := ch.readImpl 4
  if err.failed then (buffer, .error err, ch)
  else
    match ch.processHeaderRead headerBuffer with
    | (.error err, ch) => (buffer, .error err, ch)
    | (.ok sizeToRead, ch) =>
      let (data, err, ch) := ch.readImpl sizeToRead
      let buffer := buffer ++ data ++ List.replicate (sizeToRead - data.length) 0
      if err.failed then (buffer, .error err, ch) else (buffer, .ok sizeToRead, ch)

/-! ### Positions -/

/-- The channel with another number and `rest` still to arrive, after `n` more reads. -/
def moveTo (ch : Channel) (seq : UInt8) (n : ℕ) (rest : List Arrival) : Channel :=
  { ch with sequenceNumber := seq, stream := ch.stream.advance ch.layer n rest }

/-- The channel when `n` frames were read and `rest` is still to arrive. -/
def afterFrames (ch : Channel) (n : ℕ) (rest : List Arrival) : Channel :=
  ch.moveTo (ch.sequenceNumber + .ofNat n) (2 * n) rest

/-- Only the position in what arrives has changed, and not backwards. -/
def Moved (ch ch' : Channel) : Prop :=
  ∃ seq n rest, rest.length ≤ ch.pending.length ∧ ch' = ch.moveTo seq n rest

lemma moved_moveTo {ch : Channel} {seq : UInt8} {n : ℕ} {rest : List Arrival}
    (h : rest.length ≤ ch.pending.length) : ch.Moved (ch.moveTo seq n rest) :=
  ⟨seq, n, rest, h, rfl⟩

section MoveTo

variable (ch : Channel) (seq seq' : UInt8) (n k : ℕ) (rest rest' : List Arrival)

@[simp] lemma moveTo_layer : (ch.moveTo seq n rest).layer = ch.layer := rfl

@[simp] lemma moveTo_sslActive : (ch.moveTo seq n rest).sslActive = ch.sslActive := rfl

@[simp] lemma moveTo_currentCaps : (ch.moveTo seq n rest).currentCaps = ch.currentCaps := rfl

@[simp] lemma moveTo_sharedBuffer : (ch.moveTo seq n rest).sharedBuffer = ch.sharedBuffer := rfl

@[simp] lemma moveTo_sequenceNumber : (ch.moveTo seq n rest).sequenceNumber = seq := rfl

@[simp] lemma moveTo_stream :
    (ch.moveTo seq n rest).stream = ch.stream.advance ch.layer n rest := rfl

@[simp] lemma moveTo_pending : (ch.moveTo seq n rest).pending = rest := by
  simp [pending]

@[simp] lemma moveTo_moveTo :
    (ch.moveTo seq n rest).moveTo seq' k rest' = ch.moveTo seq' (n + k) rest' := by
  have h := Stream.advance_advance ch.stream ch.layer n k rest rest'
  rw [moveTo, moveTo_stream, moveTo_layer, h]
  rfl

lemma moved_of_moveTo {ch ch' : Channel} {seq : UInt8} {n : ℕ} {rest : List Arrival}
    (hl : rest.length ≤ ch.pending.length) (h : (ch.moveTo seq n rest).Moved ch') :
    ch.Moved ch' := by
  obtain ⟨seq', k, rest', hl', rfl⟩ := h
  rw [moveTo_pending] at hl'
  rw [moveTo_moveTo]
  exact moved_moveTo (hl'.trans hl)

lemma moved_refl (ch : Channel) : ch.Moved ch := by
  refine ⟨ch.sequenceNumber, 0, ch.pending, le_rfl, ?_⟩
  rw [moveTo, pending, Stream.advance_zero]

lemma Moved.trans {ch ch' ch'' : Channel} (h : ch.Moved ch') (h' : ch'.Moved ch'') :
    ch.Moved ch'' := by
  obtain ⟨seq, n, rest, hl, rfl⟩ := h
  exact moved_of_moveTo hl h'

@[simp] lemma afterFrames_pending : (ch.afterFrames n rest).pending = rest :=
  moveTo_pending ..

@[simp] lemma afterFrames_sequenceNumber :
    (ch.afterFrames n rest).sequenceNumber = ch.sequenceNumber + .ofNat n := rfl

@[simp] lemma afterFrames_afterFrames :
    (ch.afterFrames n rest).afterFrames k rest' = ch.afterFrames (n + k) rest' := by
  simp [afterFrames, Nat.mul_add, UInt8.add_assoc]

end MoveTo

/-! ### What reading a frame does -/

lemma readImpl_bytes {ch : Channel} {data : Bytes} {rest : List Arrival}
    (hp : ch.pending = data.map .byte ++ rest) :
    ch.readImpl data.length =
      (data, .success, ch.moveTo ch.sequenceNumber 1 rest) := by
  unfold readImpl Stream.read
  rw [show ch.stream.arrivals ch.layer = _ from hp, receive_bytes]
  rfl

/-- A read receives the bytes it was to read, or it fails. -/
lemma readImpl_cases (ch : Channel) (n : ℕ) :
    (∃ data rest, ch.pending = data.map .byte ++ rest ∧ data.length = n ∧
      ch.readImpl n = (data, .success, ch.moveTo ch.sequenceNumber 1 rest)) ∨
    ∃ data e rest, e.failed = true ∧ rest.length ≤ ch.pending.length ∧
      ch.readImpl n = (data, e, ch.moveTo ch.sequenceNumber 1 rest) := by
  unfold readImpl Stream.read
  rcases receive_cases ch.stream.endError_failed n (ch.stream.arrivals ch.layer) with
    ⟨data, rest, hl, hn, hr⟩ | ⟨data, e, rest, hf, hl, hr⟩
  · exact Or.inl ⟨data, rest, hl, hn, by rw [hr]; rfl⟩
  · exact Or.inr ⟨data, e, rest, hf, hl, by rw [hr]; rfl⟩

lemma toNat_ofNat_payload {n : ℕ} (h : n < 2 ^ 24) : (UInt32.ofNat n).toNat = n :=
  UInt32.toNat_ofNat_of_lt' (by simp [UInt32.size]; omega)

lemma processHeaderRead_header (ch : Channel) {n : ℕ} (h : n < 2 ^ 24) :
    ch.processHeaderRead (serializePacketHeader ⟨.ofNat n, ch.sequenceNumber⟩) =
      (.ok n, { ch with sequenceNumber := ch.sequenceNumber + 1 }) := by
  have hr : deserializePacketHeader (serializePacketHeader ⟨.ofNat n, ch.sequenceNumber⟩) =
      .ok (⟨.ofNat n, ch.sequenceNumber⟩, []) :=
    (packetHeader_reads (by rw [toNat_ofNat_payload h]; exact h)).exact
  simp [processHeaderRead, hr, processSequenceNumber, toNat_ofNat_payload h]

lemma eq_serializePacketHeader {headerBuffer : Bytes} (h : headerBuffer.length = 4) :
    ∃ header : PacketHeader, header.packetSize.toNat < 2 ^ 24 ∧
      headerBuffer = serializePacketHeader header := by
  match headerBuffer, h with
  | [a, b, c, seq], _ =>
    have hlt : ofBytes [a, b, c] < 2 ^ 24 := (ofBytes_lt [a, b, c]).trans_eq (by norm_num)
    refine ⟨⟨.ofNat (ofBytes [a, b, c]), seq⟩, by rwa [toNat_ofNat_payload hlt], ?_⟩
    rw [serializePacketHeader, serializeInt3, serializeFixedSizeInt, toNat_ofNat_payload hlt,
      show 3 = [a, b, c].length from rfl, toBytes_ofBytes, serializeInt1_eq]
    rfl

lemma processHeaderRead_other {ch : Channel} {header : PacketHeader}
    (hs : header.packetSize.toNat < 2 ^ 24) (hne : header.sequenceNumber ≠ ch.sequenceNumber) :
    ch.processHeaderRead (serializePacketHeader header) =
      (.error (makeErrorCode .sequenceNumberMismatch), ch) := by
  simp [processHeaderRead, (packetHeader_reads hs).exact, processSequenceNumber, hne]

lemma readFrame_frame {ch : Channel} {payload : Bytes} {rest : List Arrival}
    (hl : payload.length < 2 ^ 24)
    (hp : ch.pending = (frame ch.sequenceNumber payload).map .byte ++ rest) (buffer : Bytes) :
    ch.readFrame buffer = (buffer ++ payload, .ok payload.length, ch.afterFrames 1 rest) := by
  rw [frame, List.map_append, List.append_assoc] at hp
  have h1 := readImpl_bytes hp
  rw [serializePacketHeader_length] at h1
  have h2 := (ch.moveTo ch.sequenceNumber 1 (payload.map .byte ++ rest)).processHeaderRead_header hl
  have h3 := readImpl_bytes (moveTo_pending ch (ch.sequenceNumber + 1) 1 (payload.map .byte ++ rest))
  rw [moveTo_sequenceNumber] at h2
  have h4 : ({ ch.moveTo ch.sequenceNumber 1 (payload.map .byte ++ rest) with
      sequenceNumber := ch.sequenceNumber + 1 } : Channel) =
      ch.moveTo (ch.sequenceNumber + 1) 1 (payload.map .byte ++ rest) := rfl
  simp only [readFrame, h1, h2, h4, h3, success_failed, Bool.false_eq_true, if_false]
  simp [afterFrames]

lemma readFrame_other {ch : Channel} {header : PacketHeader} {rest : List Arrival}
    (hs : header.packetSize.toNat < 2 ^ 24) (hne : header.sequenceNumber ≠ ch.sequenceNumber)
    (hp : ch.pending = (serializePacketHeader header).map .byte ++ rest) (buffer : Bytes) :
    ch.readFrame buffer = (buffer, .error (makeErrorCode .sequenceNumberMismatch),
      ch.moveTo ch.sequenceNumber 1 rest) := by
  have hr := readImpl_bytes hp
  rw [serializePacketHeader_length] at hr
  rw [← moveTo_sequenceNumber ch ch.sequenceNumber 1 rest] at hne
  simp only [readFrame, hr, processHeaderRead_other hs hne, success_failed, Bool.false_eq_true,
    if_false]

/-- What reading a frame does: it reads one with the next number, or it fails and stops
somewhere. -/
lemma readFrame_cases (ch : Channel) (buffer : Bytes) :
    (∃ payload rest, payload.length < 2 ^ 24 ∧
      ch.pending = (frame ch.sequenceNumber payload).map .byte ++ rest ∧
      ch.readFrame buffer = (buffer ++ payload, .ok payload.length, ch.afterFrames 1 rest)) ∨
    ∃ buffer' e ch', e.failed = true ∧ ch.Moved ch' ∧
      ch.readFrame buffer = (buffer', .error e, ch') := by
  rcases ch.readImpl_cases 4 with ⟨headerBuffer, rest, hp, hl, hr⟩ | ⟨data, e, rest, he, hl, hr⟩
  · obtain ⟨header, hs, rfl⟩ := eq_serializePacketHeader hl
    have hrest : rest.length ≤ ch.pending.length := by rw [hp]; simp
    by_cases hseq : header.sequenceNumber = ch.sequenceNumber
    · have hh : header = ⟨.ofNat header.packetSize.toNat, ch.sequenceNumber⟩ := by
        rw [← hseq, UInt32.ofNat_toNat]
      have h2 := (ch.moveTo ch.sequenceNumber 1 rest).processHeaderRead_header hs
      rw [moveTo_sequenceNumber, ← hh] at h2
      have h4 : ({ ch.moveTo ch.sequenceNumber 1 rest with
          sequenceNumber := ch.sequenceNumber + 1 } : Channel) =
          ch.moveTo (ch.sequenceNumber + 1) 1 rest := rfl
      rcases (ch.moveTo (ch.sequenceNumber + 1) 1 rest).readImpl_cases header.packetSize.toNat with
        ⟨payload, rest', hp', hl', hr'⟩ | ⟨data, e, rest', he, hl', hr'⟩
      · rw [moveTo_pending] at hp'
        refine Or.inl ⟨payload, rest', by rwa [hl'], ?_, ?_⟩
        · rw [hp, hp', frame, hl', ← hh]
          simp
        · simp only [readFrame, hr, h2, h4, hr', success_failed, Bool.false_eq_true, if_false]
          simp [afterFrames, hl']
      · rw [moveTo_pending] at hl'
        refine Or.inr ⟨buffer ++ data ++ List.replicate (header.packetSize.toNat - data.length) 0,
          e, ch.moveTo (ch.sequenceNumber + 1) 2 rest', he, moved_moveTo (hl'.trans hrest), ?_⟩
        simp only [readFrame, hr, h2, h4, hr', he, success_failed, Bool.false_eq_true, if_false,
          if_true]
        simp
    · exact Or.inr ⟨buffer, makeErrorCode .sequenceNumberMismatch,
        ch.moveTo ch.sequenceNumber 1 rest, rfl, moved_moveTo hrest,
        readFrame_other hs hseq hp buffer⟩
  · refine Or.inr ⟨buffer, e, ch.moveTo ch.sequenceNumber 1 rest, he, moved_moveTo hl, ?_⟩
    simp [readFrame, hr, he]

lemma of_readFrame_ok {ch ch' : Channel} {buffer buffer' : Bytes} {size : ℕ}
    (h : ch.readFrame buffer = (buffer', .ok size, ch')) :
    ∃ payload rest, payload.length = size ∧ payload.length < 2 ^ 24 ∧
      ch.pending = (frame ch.sequenceNumber payload).map .byte ++ rest ∧
      buffer' = buffer ++ payload ∧ ch' = ch.afterFrames 1 rest := by
  rcases ch.readFrame_cases buffer with ⟨payload, rest, hl, hp, hr⟩ | ⟨_, _, _, -, -, hr⟩
  · rw [hr] at h
    cases h
    exact ⟨payload, rest, rfl, hl, hp, rfl, rfl⟩
  · rw [hr] at h
    cases h

lemma of_readFrame_error {ch ch' : Channel} {buffer buffer' : Bytes} {err : ErrorCode}
    (h : ch.readFrame buffer = (buffer', .error err, ch')) : err.failed = true ∧ ch.Moved ch' := by
  rcases ch.readFrame_cases buffer with ⟨_, _, -, -, hr⟩ | ⟨_, _, _, he, hm, hr⟩
  · rw [hr] at h
    cases h
  · rw [hr] at h
    cases h
    exact ⟨he, hm⟩

/-! ### Reading messages -/

lemma readFrame_pending_lt {ch ch' : Channel} {buffer buffer' : Bytes} {size : ℕ}
    (h : ch.readFrame buffer = (buffer', .ok size, ch')) :
    ch'.pending.length < ch.pending.length := by
  obtain ⟨payload, rest, -, -, hp, -, rfl⟩ := of_readFrame_ok h
  rw [afterFrames_pending, hp, List.length_append, List.length_map, frame_length]
  omega

/-- The loop of `read`, from one header to the next. -/
def readLoop (ch : Channel) (buffer : Bytes) : Bytes × ErrorCode × Channel :=
  match _h : ch.readFrame buffer with
  | (buffer, .error err, ch) => (buffer, err, ch)
  | (buffer, .ok sizeToRead, ch) =>
    if sizeToRead = maxPacketSize then ch.readLoop buffer else (buffer, .success, ch)
termination_by ch.pending.length
decreasing_by exact readFrame_pending_lt _h

/-- A message. The buffer is cleared first. -/
def read (ch : Channel) : Bytes × ErrorCode × Channel := ch.readLoop []

lemma readLoop_ok {ch ch' : Channel} {buffer buffer' : Bytes} {size : ℕ}
    (h : ch.readFrame buffer = (buffer', .ok size, ch')) :
    ch.readLoop buffer =
      if size = maxPacketSize then ch'.readLoop buffer' else (buffer', .success, ch') := by
  rw [readLoop]
  split
  · next h' => rw [h] at h'; cases h'
  · next h' => rw [h] at h'; cases h'; rfl

lemma readLoop_error {ch ch' : Channel} {buffer buffer' : Bytes} {err : ErrorCode}
    (h : ch.readFrame buffer = (buffer', .error err, ch')) :
    ch.readLoop buffer = (buffer', err, ch') := by
  rw [readLoop]
  split
  · next h' => rw [h] at h'; cases h'; rfl
  · next h' => rw [h] at h'; cases h'

/-! ### Writing -/

def computeSizeToWrite (bufferSize transferredSize : ℕ) : ℕ :=
  min maxPacketSize (bufferSize - transferredSize)

lemma computeSizeToWrite_left_lt {bufferSize transferredSize : ℕ}
    (h : transferredSize + computeSizeToWrite bufferSize transferredSize < bufferSize) :
    bufferSize - (transferredSize + computeSizeToWrite bufferSize transferredSize) <
      bufferSize - transferredSize := by
  simp only [computeSizeToWrite, maxPacketSize] at h ⊢
  omega

/-- The header of the next frame. -/
def processHeaderWrite (ch : Channel) (sizeToWrite : ℕ) : Bytes × Channel :=
  (serializePacketHeader ⟨.ofNat sizeToWrite, ch.sequenceNumber⟩,
    { ch with sequenceNumber := ch.sequenceNumber + 1 })

def writeImpl (ch : Channel) (data : Bytes) : ErrorCode × Channel :=
  let (err, stream) := ch.stream.write ch.layer data
  (err, { ch with stream })

/-- The loop of `write`. The first frame is written even when it is empty. -/
def writeLoop (buffer : Bytes) (transferredSize : ℕ) (ch : Channel) : ErrorCode × Channel :=
  let sizeToWrite := computeSizeToWrite buffer.length transferredSize
  let (headerBuffer, ch) := ch.processHeaderWrite sizeToWrite
  let (code, ch) := ch.writeImpl (headerBuffer ++ (buffer.drop transferredSize).take sizeToWrite)
  if code.failed then (code, ch)
  else if _h : transferredSize + sizeToWrite < buffer.length then
    writeLoop buffer (transferredSize + sizeToWrite) ch
  else (.success, ch)
termination_by buffer.length - transferredSize
decreasing_by exact computeSizeToWrite_left_lt _h

def write (ch : Channel) (buffer : Bytes) : ErrorCode × Channel := writeLoop buffer 0 ch

/-! ### The TLS handshake and closing -/

/-- The TLS layer is there from now on, however the handshake ends. -/
def sslHandshake (ch : Channel) : ErrorCode × Channel :=
  let ch := { ch with sslActive := true }
  let (err, stream) := ch.stream.tlsHandshake
  (err, { ch with stream })

def close (ch : Channel) : ErrorCode × Channel :=
  let (err, stream) := ch.stream.close
  (err, { ch with stream })

end Channel

end MysqlAsio.Channels
