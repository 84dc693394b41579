import MysqlAsio.Framing
import MysqlAsio.Lib.Programs

/-!
Operations on a connection: programs over its channel and the text of the last error.

An operation ends early with an error that callers see. An error they take for success is
dropped where it is tested, as the source goes on with it.
-/

namespace MysqlAsio.Operations

open MysqlAsio.Errors MysqlAsio.Serialization MysqlAsio.Channels MysqlAsio.Framing
open MysqlAsio.Streams MysqlAsio.Lib.Programs

/-- A channel, and the `error_info` an operation was given. -/
structure Conn where
  channel : Channel
  info : ErrorInfo

/-- The connection at the beginning of a session, with a channel just constructed. -/
def Conn.fresh (session : Session) : Conn := ⟨.new session.stream, .clear⟩

abbrev Operation := Program Conn ErrorCode

/-- `if (err) return;`. -/
def outcome (err : ErrorCode) : Except ErrorCode Unit :=
  if err.failed then .error err else .ok ()

/-- What is done to the channel and may fail. -/
def onChannel (f : Channel → ErrorCode × Channel) : Operation Unit := fun c =>
  let (err, channel) := f c.channel
  (outcome err, { c with channel })

/-- What is done to the channel and cannot fail. -/
def modifyChannel (f : Channel → Channel) : Operation Unit := fun c =>
  (.ok (), { c with channel := f c.channel })

/-- `channel.read`, into a buffer of the operation. -/
def read : Operation Bytes := fun c =>
  let (buffer, err, channel) := c.channel.read
  ((outcome err).map fun _ => buffer, { c with channel })

/-- `channel.read`, into the shared buffer. -/
def readShared : Operation Unit :=
  onChannel fun ch =>
    let (buffer, err, ch) := ch.read
    (err, { ch with sharedBuffer := buffer })

def write (buffer : Bytes) : Operation Unit := onChannel fun ch => ch.write buffer

/-- `channel.write` of the shared buffer. -/
def writeShared : Operation Unit := onChannel fun ch => ch.write ch.sharedBuffer

/-- `serialize_message`, into the shared buffer. -/
def serializeShared {α : Type} [Serializable α] (input : α) (caps : Capabilities) :
    Operation Unit :=
  modifyChannel fun ch => { ch with sharedBuffer := serializeMessage input caps ch.sharedBuffer }

/-- A result that may set the text of the error. -/
def report (f : ErrorInfo → ErrorCode × ErrorInfo) : Operation Unit := fun c =>
  let (err, info) := f c.info
  (outcome err, { c with info })

def attempt {α : Type} (result : Except ErrorCode α) : Operation α := fun c => (result, c)

/-- `clear_errors`, before an operation of the user. -/
def cleared {α : Type} (operation : Operation α) : Operation α := fun c =>
  operation { c with info := .clear }

/-! ### What the steps of an operation do -/

lemma outcome_failed {err : ErrorCode} (h : err.failed = true) : outcome err = .error err := by
  rw [outcome, if_pos h]

lemma outcome_ok {err : ErrorCode} (h : err.failed = false) : outcome err = .ok () := by
  rw [outcome, h]
  rfl

@[simp] lemma outcome_success : outcome .success = .ok () := rfl

lemma of_outcome_ok {err : ErrorCode} {c c' : Conn}
    (h : ((outcome err, c) : Except ErrorCode Unit × Conn) = (.ok (), c')) :
    err.failed = false ∧ c' = c := by
  cases he : err.failed with
  | true =>
    rw [outcome_failed he] at h
    cases h
  | false =>
    rw [outcome_ok he] at h
    cases h
    exact ⟨rfl, rfl⟩

lemma of_map_outcome {α : Type} {err : ErrorCode} {a b : α} {c c' : Conn}
    (h : (((outcome err).map fun _ => a, c) : Except ErrorCode α × Conn) = (.ok b, c')) :
    err.failed = false ∧ b = a ∧ c' = c := by
  cases he : err.failed with
  | true =>
    rw [outcome_failed he] at h
    cases h
  | false =>
    rw [outcome_ok he] at h
    cases h
    exact ⟨rfl, rfl, rfl⟩

section Steps

variable {c : Conn}

lemma read_ok {m : Bytes} {ch : Channel} (h : c.channel.read = (m, .success, ch)) :
    read c = (.ok m, { c with channel := ch }) := by
  simp [read, h, Except.map]

lemma readShared_ok {m : Bytes} {ch : Channel} (h : c.channel.read = (m, .success, ch)) :
    readShared c = (.ok (), { c with channel := { ch with sharedBuffer := m } }) := by
  simp [readShared, onChannel, h]

lemma readShared_error {m : Bytes} {ch : Channel} {err : ErrorCode} (he : err.failed = true)
    (h : c.channel.read = (m, err, ch)) :
    readShared c = (.error err, { c with channel := { ch with sharedBuffer := m } }) := by
  simp [readShared, onChannel, h, outcome_failed he]

lemma write_ok {m : Bytes} {ch : Channel} (h : c.channel.write m = (.success, ch)) :
    write m c = (.ok (), { c with channel := ch }) := by
  simp [write, onChannel, h]

lemma writeShared_ok {ch : Channel} (h : c.channel.write c.channel.sharedBuffer = (.success, ch)) :
    writeShared c = (.ok (), { c with channel := ch }) := by
  simp [writeShared, onChannel, h]

lemma report_ok {f : ErrorInfo → ErrorCode × ErrorInfo} {err : ErrorCode} {info : ErrorInfo}
    (h : f c.info = (err, info)) (he : err.failed = false) :
    report f c = (.ok (), { c with info }) := by
  simp [report, h, outcome_ok he]

lemma report_error {f : ErrorInfo → ErrorCode × ErrorInfo} {err : ErrorCode} {info : ErrorInfo}
    (h : f c.info = (err, info)) (he : err.failed = true) :
    report f c = (.error err, { c with info }) := by
  simp [report, h, outcome_failed he]

lemma of_readShared_ok {c' : Conn} (h : readShared c = (.ok (), c')) :
    ∃ m ch, c.channel.read = (m, .success, ch) ∧
      c' = { c with channel := { ch with sharedBuffer := m } } := by
  rcases read_cases c.channel with ⟨m, rest, -, hr⟩ | ⟨m, e, ch, he, -, hr⟩
  · rw [readShared_ok hr] at h
    cases h
    exact ⟨m, _, hr, rfl⟩
  · simp only [readShared, onChannel, hr, outcome_failed he] at h
    cases h

lemma of_writeShared_ok {c' : Conn} (h : writeShared c = (.ok (), c')) :
    ∃ ch, c.channel.write c.channel.sharedBuffer = (.success, ch) ∧
      c' = { c with channel := ch } := by
  rcases hw : c.channel.write c.channel.sharedBuffer with ⟨e, ch⟩
  have he := (write_cases c.channel c.channel.sharedBuffer).2
  rw [hw] at he
  rcases he with rfl | he
  · rw [writeShared_ok hw] at h
    cases h
    exact ⟨ch, rfl, rfl⟩
  · simp only [writeShared, onChannel, hw, outcome_failed he] at h
    cases h

lemma modifyChannel_apply (f : Channel → Channel) :
    modifyChannel f c = (.ok (), { c with channel := f c.channel }) := rfl

lemma composeShared_then {α β : Type} [Serializable α] (input : α) (caps : Capabilities)
    (next : Operation β) :
    (do
      serializeShared input caps
      modifyChannel Channel.resetSequenceNumber
      next : Operation β) c = next { c with channel := Channel.resetSequenceNumber { c.channel with
        sharedBuffer := serializeMessage input caps c.channel.sharedBuffer } } := by
  rw [serializeShared, then_ok (modifyChannel_apply _), then_ok (modifyChannel_apply _)]

end Steps

end MysqlAsio.Operations
