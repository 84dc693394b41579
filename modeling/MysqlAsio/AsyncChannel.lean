import MysqlAsio.BufferedRead
import MysqlAsio.Lib.Coroutines

/-!
The asynchronous reads and writes of a channel.

They are coroutines over the reads and writes of the networking library, which complete with
an error or with the number of bytes transferred, which are then all there were.
-/

namespace MysqlAsio.AsyncChannel

open MysqlAsio.Errors MysqlAsio.Serialization MysqlAsio.CommonMessages MysqlAsio.Streams
open MysqlAsio.Channels MysqlAsio.Framing MysqlAsio.BufferedRead MysqlAsio.Lib.Coroutines

/-- What a composed read or write completes with. -/
structure Transfer where
  code : ErrorCode
  bytesTransferred : ℕ

/-- What an operation is first called with. -/
def Transfer.none : Transfer := ⟨.success, 0⟩

/-! ### Reading -/

inductive ReadPoint
  | start | header | body
  deriving DecidableEq, Repr

/-- `read_op`, suspended. -/
structure ReadOp where
  point : ReadPoint
  totalTransferredSize : ℕ

/-- The reads it waits for. -/
inductive ReadAwait
  | header
  | body (offset size : ℕ)

/-- `read_op::operator()`. -/
def ReadOp.resume : Coroutine ReadOp Transfer ReadAwait ErrorCode ReadMemory :=
  fun op transfer m =>
    if transfer.code.failed then (.complete transfer.code, m)
    else
      match op.point with
      | .start => (.await .header { op with point := .header }, m)
      | .header =>
        match m.processHeaderRead with
        | (.error code, m) => (.complete code, m)
        | (.ok sizeToRead, m) =>
          (.await (.body op.totalTransferredSize sizeToRead) { op with point := .body },
            m.grow sizeToRead)
      | .body =>
        let op := { op with
          totalTransferredSize := op.totalTransferredSize + transfer.bytesTransferred }
        if transfer.bytesTransferred = maxPacketSize then
          (.await .header { op with point := .header }, m)
        else (.complete .success, m)

/-- `boost::asio::async_read`, into the header buffer or into a part of the buffer. -/
def ReadAwait.perform (m : ReadMemory) : ReadAwait → Transfer × ReadMemory
  | .header => (⟨m.readHeader.1, (m.channel.readImpl 4).1.length⟩, m.readHeader.2)
  | .body offset size =>
    (⟨(m.readBody offset size).1, (m.channel.readImpl size).1.length⟩, (m.readBody offset size).2)

def ReadAwait.Performs : Performs ReadAwait Transfer ReadMemory :=
  fun op m transfer m' => op.perform m = (transfer, m')

/-- What `async_read` completes with, in the memory it leaves. The buffer is cleared first. -/
def AsyncRead (m : ReadMemory) (code : ErrorCode) (m' : ReadMemory) : Prop :=
  Completes ReadOp.resume ReadAwait.Performs ⟨.start, 0⟩ .none { m with buffer := [] } code m'

lemma performs_header_iff {m m' : ReadMemory} {transfer : Transfer} :
    ReadAwait.header.Performs m transfer m' ↔
      transfer = ⟨m.readHeader.1, (m.channel.readImpl 4).1.length⟩ ∧ m' = m.readHeader.2 := by
  rw [ReadAwait.Performs, Prod.ext_iff, eq_comm, @eq_comm _ _ m']
  rfl

lemma performs_body_iff {offset size : ℕ} {m m' : ReadMemory} {transfer : Transfer} :
    (ReadAwait.body offset size).Performs m transfer m' ↔
      transfer = ⟨(m.readBody offset size).1, (m.channel.readImpl size).1.length⟩ ∧
        m' = (m.readBody offset size).2 := by
  rw [ReadAwait.Performs, Prod.ext_iff, eq_comm, @eq_comm _ _ m']
  rfl

lemma readImpl_length {ch : Channel} {n : ℕ} (h : (ch.readImpl n).2.1.failed = false) :
    (ch.readImpl n).1.length = n := by
  rcases ch.readImpl_cases n with ⟨data, rest, -, hl, hr⟩ | ⟨data, e, rest, he, -, hr⟩
  · rw [hr]
    exact hl
  · rw [hr, he] at h
    cases h

lemma readOp_failed {op : ReadOp} {transfer : Transfer} (h : transfer.code.failed = true)
    (m : ReadMemory) : op.resume transfer m = (.complete transfer.code, m) := by
  rw [ReadOp.resume, if_pos h]

/-- What the operation goes on with after a turn. -/
def ReadOp.afterTurn (n : ℕ) : Except ErrorCode ℕ × ReadMemory →
    Turn ReadAwait ReadOp ErrorCode × ReadMemory
  | (.error err, m) => (.complete err, m)
  | (.ok size, m) =>
    if size = maxPacketSize then (.await .header ⟨.header, n + size⟩, m) else (.complete .success, m)

/-- A turn of the operation, from one header to the next, is one of the loop of `read`. -/
lemma from_header_turn (m : ReadMemory) (n : ℕ) {code : ErrorCode} {m' : ReadMemory} :
    CompletesFrom ReadOp.resume ReadAwait.Performs (.await .header ⟨.header, n⟩, m) code m' ↔
      CompletesFrom ReadOp.resume ReadAwait.Performs (ReadOp.afterTurn n (m.readTurn n)) code m' := by
  rw [from_await_iff fun _ _ => performs_header_iff]
  rcases hh : m.readHeader with ⟨err, m1⟩
  cases he : err.failed with
  | true =>
    have ht : m.readTurn n = (.error err, m1) := by
      simp [ReadMemory.readTurn, hh, he]
    rw [readOp_failed he, ht]
    rfl
  | false =>
    rcases hp : m1.processHeaderRead with ⟨err' | size, m2⟩
    · have ht : m.readTurn n = (.error err', m2) := by
        simp [ReadMemory.readTurn, hh, he, hp]
      simp only [ReadOp.resume, he, hp, ht]
      rfl
    · simp only [ReadOp.resume, he, hp, Bool.false_eq_true, if_false]
      rw [from_await_iff fun _ _ => performs_body_iff]
      rcases hb : (m2.grow size).readBody n size with ⟨err', m3⟩
      cases he' : err'.failed with
      | true =>
        have ht : m.readTurn n = (.error err', m3) := by
          simp [ReadMemory.readTurn, hh, he, hp, hb, he']
        rw [readOp_failed he', ht]
        rfl
      | false =>
        have ht : m.readTurn n = (.ok size, m3) := by
          simp [ReadMemory.readTurn, hh, he, hp, hb, he']
        have hcode : ((m2.grow size).channel.readImpl size).2.1 = err' := congrArg Prod.fst hb
        have hlen : ((m2.grow size).channel.readImpl size).1.length = size :=
          readImpl_length (by rw [hcode, he'])
        simp only [ReadOp.resume, he', hlen, ht, Bool.false_eq_true, if_false]
        rfl

lemma from_header_iff (m : ReadMemory) (n : ℕ) {code : ErrorCode} {m' : ReadMemory} :
    CompletesFrom ReadOp.resume ReadAwait.Performs (.await .header ⟨.header, n⟩, m) code m' ↔
      code = (m.readLoop n).1 ∧ m' = (m.readLoop n).2 := by
  rw [from_header_turn]
  induction m, n using ReadMemory.readLoop.induct with
  | case1 m n err m1 ht =>
    rw [ht, ReadMemory.readLoop_error ht]
    rfl
  | case2 m n m1 ht ih =>
    rw [ht, ReadMemory.readLoop_ok ht, ReadOp.afterTurn, if_pos rfl, if_pos rfl, from_header_turn]
    exact ih
  | case3 m n size m1 ht hlast =>
    rw [ht, ReadMemory.readLoop_ok ht, ReadOp.afterTurn, if_neg hlast, if_neg hlast]
    rfl

/-- `async_read` completes as `read` returns. -/
lemma asyncRead_iff (m : ReadMemory) (code : ErrorCode) (m' : ReadMemory) :
    AsyncRead m code m' ↔ code = m.read.1 ∧ m' = m.read.2 := by
  rw [AsyncRead, completes_iff]
  exact from_header_iff _ 0

/-! ### Writing -/

inductive WritePoint
  | start | written
  deriving DecidableEq, Repr

/-- `write_op`, suspended. -/
structure WriteOp where
  point : WritePoint
  buffer : Bytes
  totalTransferredSize : ℕ

/-- The loop of `write_op`: a header and what of the buffer goes with it. -/
def WriteOp.next (op : WriteOp) (ch : Channel) : Turn Bytes WriteOp ErrorCode × Channel :=
  let sizeToWrite := Channel.computeSizeToWrite op.buffer.length op.totalTransferredSize
  let (headerBuffer, ch) := ch.processHeaderWrite sizeToWrite
  (.await (headerBuffer ++ (op.buffer.drop op.totalTransferredSize).take sizeToWrite)
    { op with point := .written }, ch)

/-- `write_op::operator()`. The size of the header is not a part of what was transferred. -/
def WriteOp.resume : Coroutine WriteOp Transfer Bytes ErrorCode Channel := fun op transfer ch =>
  if transfer.code.failed then (.complete transfer.code, ch)
  else
    match op.point with
    | .start => op.next ch
    | .written =>
      let op := { op with
        totalTransferredSize := op.totalTransferredSize + (transfer.bytesTransferred - 4) }
      if op.totalTransferredSize < op.buffer.length then op.next ch
      else (.complete .success, ch)

/-- `boost::asio::async_write`. -/
def performWrite (ch : Channel) (data : Bytes) : Transfer × Channel :=
  (⟨(ch.writeImpl data).1,
    (ch.writeImpl data).2.stream.sent.length - ch.stream.sent.length⟩, (ch.writeImpl data).2)

def PerformsWrite : Performs Bytes Transfer Channel :=
  fun data ch transfer ch' => performWrite ch data = (transfer, ch')

/-- What `async_write` completes with, and the channel it leaves. -/
def AsyncWrite (ch : Channel) (buffer : Bytes) (code : ErrorCode) (ch' : Channel) : Prop :=
  Completes WriteOp.resume PerformsWrite ⟨.start, buffer, 0⟩ .none ch code ch'

lemma performsWrite_iff {data : Bytes} {ch ch' : Channel} {transfer : Transfer} :
    PerformsWrite data ch transfer ch' ↔
      transfer = (performWrite ch data).1 ∧ ch' = (performWrite ch data).2 := by
  rw [PerformsWrite, Prod.ext_iff, eq_comm, @eq_comm _ _ ch']

lemma performWrite_length {ch : Channel} {data : Bytes}
    (h : (ch.writeImpl data).1.failed = false) :
    (performWrite ch data).1.bytesTransferred = data.length := by
  cases ho : ch.stream.isOpen with
  | false =>
    simp only [Channel.writeImpl, Stream.write, ho, Bool.not_false, if_true] at h
    cases h
  | true =>
    rcases hw : ch.stream.writeResults with _ | ⟨_ | ⟨n, e⟩, results⟩
    · simp [performWrite, Channel.writeImpl, Stream.write, ho, hw, Stream.sent]
    · simp [performWrite, Channel.writeImpl, Stream.write, ho, hw, Stream.sent]
    · simp [Channel.writeImpl, Stream.write, ho, hw, e.2] at h

lemma writeOp_failed {op : WriteOp} {transfer : Transfer} (h : transfer.code.failed = true)
    (ch : Channel) : op.resume transfer ch = (.complete transfer.code, ch) := by
  rw [WriteOp.resume, if_pos h]

/-- The frame a turn of the loop of `write` writes, and the channel that is to write it. -/
def frameToWrite (buffer : Bytes) (transferred : ℕ) (ch : Channel) : Bytes × Channel :=
  let sizeToWrite := Channel.computeSizeToWrite buffer.length transferred
  let header := ch.processHeaderWrite sizeToWrite
  (header.1 ++ (buffer.drop transferred).take sizeToWrite, header.2)

lemma frameToWrite_length (buffer : Bytes) (transferred : ℕ) (ch : Channel) :
    (frameToWrite buffer transferred ch).1.length =
      4 + Channel.computeSizeToWrite buffer.length transferred := by
  simp only [frameToWrite, Channel.processHeaderWrite, List.length_append,
    serializePacketHeader_length, List.length_take, List.length_drop, Channel.computeSizeToWrite]
  omega

lemma writeLoop_turn (buffer : Bytes) (transferred : ℕ) (ch : Channel) :
    Channel.writeLoop buffer transferred ch =
      let w := frameToWrite buffer transferred ch
      let r := w.2.writeImpl w.1
      let size := Channel.computeSizeToWrite buffer.length transferred
      if r.1.failed then r
      else if transferred + size < buffer.length then
        Channel.writeLoop buffer (transferred + size) r.2
      else (.success, r.2) := by
  rw [Channel.writeLoop]
  rfl

lemma next_eq (op : WriteOp) (ch : Channel) :
    op.next ch =
      let w := frameToWrite op.buffer op.totalTransferredSize ch
      (.await w.1 { op with point := .written }, w.2) := rfl

lemma writeOp_written {op : WriteOp} {ch : Channel} {data : Bytes} {size : ℕ}
    (he : (ch.writeImpl data).1.failed = false) (hl : data.length = 4 + size) :
    WriteOp.resume { op with point := .written } (performWrite ch data).1 (performWrite ch data).2 =
      if op.totalTransferredSize + size < op.buffer.length then
        WriteOp.next { op with
          point := .written, totalTransferredSize := op.totalTransferredSize + size }
          (ch.writeImpl data).2
      else (.complete .success, (ch.writeImpl data).2) := by
  have hc : (performWrite ch data).1.code.failed = false := he
  have hb : (performWrite ch data).1.bytesTransferred - 4 = size := by
    rw [performWrite_length he, hl, Nat.add_sub_cancel_left]
  simp only [WriteOp.resume, hc, hb, Bool.false_eq_true, if_false]
  rfl

lemma from_next_iff (op : WriteOp) (ch : Channel) {code : ErrorCode} {ch' : Channel} :
    CompletesFrom WriteOp.resume PerformsWrite (op.next ch) code ch' ↔
      code = (Channel.writeLoop op.buffer op.totalTransferredSize ch).1 ∧
        ch' = (Channel.writeLoop op.buffer op.totalTransferredSize ch).2 := by
  induction hn : op.buffer.length - op.totalTransferredSize using Nat.strong_induction_on
    generalizing op ch with
  | _ _ ih =>
    subst hn
    have hl := frameToWrite_length op.buffer op.totalTransferredSize ch
    rw [next_eq, writeLoop_turn]
    simp only []
    rw [from_await_iff fun _ _ => performsWrite_iff]
    generalize frameToWrite op.buffer op.totalTransferredSize ch = w at hl ⊢
    set size := Channel.computeSizeToWrite op.buffer.length op.totalTransferredSize
    by_cases he : (w.2.writeImpl w.1).1.failed = true
    · rw [writeOp_failed he, if_pos he]
      rfl
    · rw [writeOp_written (by simpa using he) hl, if_neg he]
      by_cases hlt : op.totalTransferredSize + size < op.buffer.length
      · rw [if_pos hlt, if_pos hlt]
        exact ih _ (Channel.computeSizeToWrite_left_lt hlt) _ _ rfl
      · rw [if_neg hlt, if_neg hlt]
        rfl

/-- `async_write` completes as `write` returns. -/
lemma asyncWrite_iff (ch : Channel) (buffer : Bytes) (code : ErrorCode) (ch' : Channel) :
    AsyncWrite ch buffer code ch' ↔ code = (ch.write buffer).1 ∧ ch' = (ch.write buffer).2 := by
  rw [AsyncWrite, completes_iff]
  exact from_next_iff ⟨.start, buffer, 0⟩ ch

/-- **The asynchronous operations of a channel are its synchronous ones**: they complete, with
the same error, and leave the same buffers and the same channel. -/
theorem async_eq_sync (m : ReadMemory) (message : Bytes) :
    (∀ code m', AsyncRead m code m' ↔ code = m.read.1 ∧ m' = m.read.2) ∧
    ∀ code ch', AsyncWrite m.channel message code ch' ↔
      code = (m.channel.write message).1 ∧ ch' = (m.channel.write message).2 :=
  ⟨asyncRead_iff m, asyncWrite_iff m.channel message⟩

/-! ### Operations that wait for a channel -/

/-- `async_read` of the channel into a buffer, whatever is in `header_buffer_`. -/
def PerformsRead (ch : Channel) (buffer : Bytes) (code : ErrorCode) (ch' : Channel)
    (buffer' : Bytes) : Prop :=
  ∃ headerBuffer m', AsyncRead ⟨ch, headerBuffer, buffer⟩ code m' ∧ m'.channel = ch' ∧
    m'.buffer = buffer'

lemma performsRead_iff {ch ch' : Channel} {buffer buffer' : Bytes} {code : ErrorCode} :
    PerformsRead ch buffer code ch' buffer' ↔
      code = ch.read.2.1 ∧ ch' = ch.read.2.2 ∧ buffer' = ch.read.1 := by
  constructor
  · rintro ⟨headerBuffer, m', h, rfl, rfl⟩
    obtain ⟨rfl, rfl⟩ := (asyncRead_iff _ _ _).mp h
    exact ReadMemory.read_eq ⟨ch, headerBuffer, buffer⟩
  · rintro ⟨rfl, rfl, rfl⟩
    obtain ⟨hc, hch, hb⟩ := ReadMemory.read_eq ⟨ch, [], buffer⟩
    exact ⟨[], _, (asyncRead_iff _ _ _).mpr ⟨hc.symm, rfl⟩, hch, hb⟩

end MysqlAsio.AsyncChannel
