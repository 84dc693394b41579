import MysqlAsio.AsyncChannel
import MysqlAsio.ErrPackets

/-!
Executing a request, synchronously with the error it returns, and asynchronously.

The two go the same way. The error of a response that callers take for success is returned by
the one and not by the other.
-/

namespace MysqlAsio.AsyncExecute

open MysqlAsio.Errors MysqlAsio.Serialization MysqlAsio.CommonMessages MysqlAsio.Streams
open MysqlAsio.Channels MysqlAsio.Framing MysqlAsio.ReadRow MysqlAsio.Resultset
open MysqlAsio.PreparedStatementMessages MysqlAsio.Operations MysqlAsio.ExecuteGeneric
open MysqlAsio.ErrPackets MysqlAsio.AsyncChannel MysqlAsio.Lib.Programs MysqlAsio.Lib.Coroutines

/-! ### The processor -/

/-- `execute_processor`; its channel is passed along. -/
structure ExecuteProcessor where
  deserializer : DeserializeRowFn
  buffer : Bytes
  fieldCount : ℕ
  okPacket : OkPacket
  fields : List FieldMetadata

namespace ExecuteProcessor

def new (deserializer : DeserializeRowFn) : ExecuteProcessor := ⟨deserializer, [], 0, .default, []⟩

def processRequest {α : Type} [Serializable α] (p : ExecuteProcessor) (caps : Capabilities)
    (request : α) : ExecuteProcessor :=
  { p with buffer := serializeMessage request caps p.buffer }

def processResponse (p : ExecuteProcessor) (caps : Capabilities) (info : ErrorInfo) :
    ErrorCode × ErrorInfo × ExecuteProcessor :=
  match deserializeMessageType ⟨p.buffer, caps⟩ with
  | .error err => (err, info, p)
  | .ok (msgType, ctx) =>
    if msgType = okPacketHeader then
      match deserializeMessage (deserializeOkPacket p.okPacket) ctx with
      | .error err => (err, info, p)
      | .ok okPacket => (.success, info, { p with okPacket, fieldCount := 0 })
    else if msgType = errorPacketHeader then
      let (err, info) := processErrorPacket ctx info
      (err, info, p)
    else
      match deserializeMessage deserializeIntLenenc ⟨p.buffer, caps⟩ with
      | .error err => (err, info, p)
      | .ok numFields =>
        let p := { p with fieldCount := numFields.toNat }
        if p.fieldCount = 0 then (makeErrorCode .protocolValueError, info, p)
        else (.success, info, p)

def processFieldDefinition (p : ExecuteProcessor) (caps : Capabilities) :
    ErrorCode × ExecuteProcessor :=
  match deserializeMessage deserializeColumnDefinitionPacket ⟨p.buffer, caps⟩ with
  | .error err => (err, p)
  | .ok fieldDefinition =>
    (.success, { p with fields := p.fields ++ [⟨fieldDefinition⟩], buffer := [] })

def createResultset (p : ExecuteProcessor) : ResultSet :=
  ExecuteGeneric.createResultset p.deserializer p.fieldCount p.okPacket p.fields

end ExecuteProcessor

/-! ### Synchronously -/

/-- What an execution works on. -/
structure Execution where
  conn : Conn
  processor : ExecuteProcessor

namespace Execution

/-- The request is composed by the processor, and gets the number 0. -/
def start {α : Type} [Serializable α] (deserializer : DeserializeRowFn) (request : α) (c : Conn) :
    Execution where
  conn := { c with channel := c.channel.resetSequenceNumber }
  processor := (ExecuteProcessor.new deserializer).processRequest c.channel.currentCaps request

/-- `channel.write` of the buffer of the processor. -/
def write (s : Execution) : ErrorCode × Execution :=
  let (err, channel) := s.conn.channel.write s.processor.buffer
  (err, { s with conn.channel := channel })

/-- `channel.read` into the buffer of the processor. -/
def read (s : Execution) : ErrorCode × Execution :=
  let (buffer, err, channel) := s.conn.channel.read
  (err, { s with conn.channel := channel, processor.buffer := buffer })

def processResponse (s : Execution) : ErrorCode × Execution :=
  let (err, info, processor) :=
    s.processor.processResponse s.conn.channel.currentCaps s.conn.info
  (err, { s with conn.info := info, processor })

def processFieldDefinition (s : Execution) : ErrorCode × Execution :=
  let (err, processor) := s.processor.processFieldDefinition s.conn.channel.currentCaps
  (err, { s with processor })

@[simp] lemma read_fieldCount (s : Execution) :
    s.read.2.processor.fieldCount = s.processor.fieldCount := rfl

@[simp] lemma processFieldDefinition_fieldCount (s : Execution) :
    s.processFieldDefinition.2.processor.fieldCount = s.processor.fieldCount := by
  rw [processFieldDefinition, ExecuteProcessor.processFieldDefinition]
  cases deserializeMessage deserializeColumnDefinitionPacket
    ⟨s.processor.buffer, s.conn.channel.currentCaps⟩ <;> rfl

/-- The loop over the field definitions, from number `i` on, with the last error. -/
def fieldLoop (err : ErrorCode) (i : ℕ) (s : Execution) : ErrorCode × Execution :=
  if i < s.processor.fieldCount then
    let r := s.read
    if r.1.failed then r
    else
      let r := r.2.processFieldDefinition
      if r.1.failed then r else fieldLoop r.1 (i + 1) r.2
  else (err, s)
termination_by s.processor.fieldCount - i
decreasing_by
  simp only [processFieldDefinition_fieldCount, read_fieldCount]
  omega

/-- The body of `execute_generic`, up to where its output is set. -/
def run (s : Execution) : ErrorCode × Execution :=
  let r := s.write
  if r.1.failed then r
  else
    let r := r.2.read
    if r.1.failed then r
    else
      let r := r.2.processResponse
      if r.1.failed then r else r.2.fieldLoop r.1 0

end Execution

/-- The output is set where there is no error. -/
def outputOf (r : ErrorCode × Execution) : Option ResultSet :=
  if r.1.failed then none else some r.2.processor.createResultset

/-- `execute_generic`: the error it returns, its output, and the connection it leaves. -/
def executeGeneric {α : Type} [Serializable α] (deserializer : DeserializeRowFn) (request : α)
    (c : Conn) : ErrorCode × Option ResultSet × Conn :=
  let r := (Execution.start deserializer request c).run
  (r.1, outputOf r, r.2.conn)

/-! ### As an operation -/

namespace Execution

lemma read_conn (s : Execution) :
    Operations.read s.conn = ((outcome s.read.1).map fun _ => s.read.2.processor.buffer,
      s.read.2.conn) := rfl

lemma processFieldDefinition_conn (s : Execution) :
    ExecuteGeneric.processFieldDefinition s.processor.buffer s.conn =
      (.error s.processFieldDefinition.1, s.conn) ∧ s.processFieldDefinition.1.failed = true ∧
        s.processFieldDefinition.2 = s ∨
    ∃ field, ExecuteGeneric.processFieldDefinition s.processor.buffer s.conn = (.ok field, s.conn) ∧
      s.processFieldDefinition = (.success, { s with
        processor.fields := s.processor.fields ++ [field], processor.buffer := [] }) := by
  rw [ExecuteGeneric.processFieldDefinition, get_then]
  rcases hd : deserializeMessage deserializeColumnDefinitionPacket
    ⟨s.processor.buffer, s.conn.channel.currentCaps⟩ with err | fieldDefinition
  · left
    have hp : s.processFieldDefinition = (err, s) := by
      rw [processFieldDefinition, ExecuteProcessor.processFieldDefinition, hd]
    rw [hp]
    exact ⟨rfl, deserializeMessage_error_failed columnDefinition_failsOnly hd, rfl⟩
  · right
    refine ⟨⟨fieldDefinition⟩, rfl, ?_⟩
    rw [processFieldDefinition, ExecuteProcessor.processFieldDefinition, hd]

/-- What the loop over the fields leaves as it is, and the fields it adds. -/
structure Added (s s' : Execution) (fields : List FieldMetadata) : Prop where
  deserializer : s'.processor.deserializer = s.processor.deserializer
  fieldCount : s'.processor.fieldCount = s.processor.fieldCount
  okPacket : s'.processor.okPacket = s.processor.okPacket
  fields : s'.processor.fields = s.processor.fields ++ fields

lemma fieldLoop_cases (n i : ℕ) (s : Execution) (hn : n = s.processor.fieldCount - i)
    {err : ErrorCode} (he : err.failed = false) :
    let r := s.fieldLoop err i
    r.1.failed = true ∧ readFieldDefinitions n s.conn = (.error r.1, r.2.conn) ∨
    r.1.failed = false ∧ ∃ fields, readFieldDefinitions n s.conn = (.ok fields, r.2.conn) ∧
      Added s r.2 fields := by
  induction n generalizing i s err with
  | zero =>
    rw [fieldLoop, if_neg (by omega)]
    exact Or.inr ⟨he, [], rfl, rfl, rfl, rfl, (List.append_nil _).symm⟩
  | succ n ih =>
    rw [fieldLoop, if_pos (by omega), readFieldDefinitions]
    have hread := s.read_conn
    by_cases hr : s.read.1.failed = true
    · rw [outcome_failed hr] at hread
      simp only [if_pos hr]
      exact Or.inl ⟨hr, then_error hread⟩
    rw [outcome_ok (by simpa using hr)] at hread
    simp only [if_neg hr]
    rw [then_ok hread]
    rcases s.read.2.processFieldDefinition_conn with ⟨hf, hd, hs⟩ | ⟨field, hf, hd⟩
    · rw [then_error hf, if_pos hd, hs]
      exact Or.inl ⟨hd, rfl⟩
    · -- the field is behind those that are there, and before those still to come
      rw [then_ok hf, hd]
      simp only [success_failed, Bool.false_eq_true, if_false]
      set s1 : Execution := { s.read.2 with
        processor.fields := s.read.2.processor.fields ++ [field], processor.buffer := [] }
      have hn1 : n = s1.processor.fieldCount - (i + 1) := by
        change n = s.processor.fieldCount - (i + 1)
        omega
      rcases ih (i + 1) s1 hn1 success_failed with ⟨hf1, hl⟩ | ⟨hf1, fields, hl, ha⟩
      · exact Or.inl ⟨hf1, then_error hl⟩
      · refine Or.inr ⟨hf1, field :: fields, then_ok hl, ha.deserializer, ha.fieldCount,
          ha.okPacket, ?_⟩
        rw [ha.fields, ← List.singleton_append, ← List.append_assoc]
        rfl

lemma processResponse_conn (s : Execution) (hc : s.processor.fieldCount = 0)
    (ho : s.processor.okPacket = .default) :
    ExecuteGeneric.processResponse s.processor.buffer s.conn =
      ((outcome s.processResponse.1).map fun _ =>
        (s.processResponse.2.processor.fieldCount, s.processResponse.2.processor.okPacket),
        s.processResponse.2.conn) ∧
    s.processResponse.2.processor.deserializer = s.processor.deserializer ∧
    s.processResponse.2.processor.fields = s.processor.fields := by
  obtain ⟨⟨ch, info⟩, ⟨deserializer, buffer, fieldCount, okPacket, fields⟩⟩ := s
  simp only [] at hc ho
  subst hc ho
  rw [ExecuteGeneric.processResponse, get_then]
  cases buffer with
  | nil => exact ⟨rfl, rfl, rfl⟩
  | cons b s =>
    simp only [processResponse, ExecuteProcessor.processResponse, deserializeMessageType_cons]
    by_cases hok : b = okPacketHeader
    · simp only [if_pos hok]
      rcases hd : deserializeMessage (deserializeOkPacket .default) ⟨s, ch.currentCaps⟩ with
        err | okPacket
      · have hf := deserializeMessage_error_failed (okPacket_failsOnly _) hd
        refine ⟨?_, rfl, rfl⟩
        rw [outcome_failed hf]
        rfl
      · exact ⟨rfl, rfl, rfl⟩
    simp only [if_neg hok]
    by_cases herr : b = errorPacketHeader
    · simp only [if_pos herr, and_self, and_true]
      rcases hp : processErrorPacket ⟨s, ch.currentCaps⟩ info with ⟨err, info'⟩
      cases he : err.failed with
      | true =>
        rw [outcome_failed he]
        exact then_error (report_error hp he)
      | false =>
        rw [outcome_ok he]
        exact then_ok (report_ok hp he)
    simp only [if_neg herr]
    rcases hd : deserializeMessage deserializeIntLenenc ⟨b :: s, ch.currentCaps⟩ with err | numFields
    · have hf := deserializeMessage_error_failed intLenenc_failsOnly hd
      refine ⟨?_, rfl, rfl⟩
      rw [outcome_failed hf]
      rfl
    · by_cases h0 : numFields = 0
      · subst h0
        exact ⟨rfl, rfl, rfl⟩
      · have hn : ¬ numFields.toNat = 0 := fun h => h0 (UInt64.toNat_inj.mp h)
        refine ⟨?_, ?_, ?_⟩
        · simp only [if_neg hn]
          have hnumber : attempt (.ok numFields) ⟨ch, info⟩ = (.ok numFields, ⟨ch, info⟩) := rfl
          rw [then_ok hnumber, if_neg h0]
          rfl
        · simp only [if_neg hn]
        · simp only [if_neg hn]

end Execution

/-- The execution, with the error it returns, is the operation where callers look at no more
than whether that is an error. -/
theorem executeGeneric_operation {α : Type} [Serializable α] (deserializer : DeserializeRowFn)
    (request : α) (c : Conn) :
    ExecuteGeneric.executeGeneric deserializer request c =
      let r := executeGeneric deserializer request c
      (match r.2.1 with
        | some rs => .ok rs
        | none => .error r.1, r.2.2) := by
  set s := Execution.start deserializer request c
  have hr : executeGeneric deserializer request c = (s.run.1, outputOf s.run, s.run.2.conn) := rfl
  rw [hr]
  have hw : Operations.write s.processor.buffer s.conn = (outcome s.write.1, s.write.2.conn) := rfl
  have hstart : ExecuteGeneric.executeGeneric deserializer request c =
      (do
        Operations.write s.processor.buffer
        receiveResultset deserializer : Operation ResultSet) s.conn := rfl
  rw [hstart, Execution.run]
  -- both are followed from one step that may fail to the next
  by_cases hwf : s.write.1.failed = true
  · rw [outcome_failed hwf] at hw
    simp only [if_pos hwf, outputOf]
    exact then_error hw
  rw [outcome_ok (by simpa using hwf)] at hw
  rw [then_ok hw, receiveResultset]
  simp only [if_neg hwf]
  have hread := s.write.2.read_conn
  by_cases hrf : s.write.2.read.1.failed = true
  · rw [outcome_failed hrf] at hread
    simp only [if_pos hrf, outputOf]
    exact then_error hread
  rw [outcome_ok (by simpa using hrf)] at hread
  rw [then_ok hread]
  simp only [if_neg hrf]
  obtain ⟨hresponse, hdes, hfields⟩ := s.write.2.read.2.processResponse_conn rfl rfl
  set r := s.write.2.read.2.processResponse
  by_cases hpf : r.1.failed = true
  · rw [outcome_failed hpf] at hresponse
    simp only [if_pos hpf, outputOf]
    exact then_error hresponse
  rw [outcome_ok (by simpa using hpf)] at hresponse
  rw [then_ok hresponse]
  simp only [if_neg hpf]
  rcases r.2.fieldLoop_cases r.2.processor.fieldCount 0 rfl (by simpa using hpf) with
    ⟨hf, hl⟩ | ⟨hf, fields, hl, ha⟩
  · simp only [outputOf, if_pos hf]
    exact then_error hl
  · rw [then_ok hl]
    simp only [outputOf, hf, Bool.false_eq_true, if_false, ExecuteProcessor.createResultset,
      ha.deserializer, ha.fieldCount, ha.okPacket, ha.fields, hdes, hfields]
    rfl

/-! ### Asynchronously -/

inductive ExecutePoint
  | start | request | response | field
  deriving DecidableEq, Repr

/-- `execute_generic_op`, suspended. What it shares with its awaits, and its processor, are in
the environment. -/
structure ExecuteGenericOp where
  point : ExecutePoint
  remainingFields : ℕ

inductive ExecuteAwait
  | write
  | read

/-- The operations of the channel it waits for, on the buffer of the processor. -/
def ExecuteAwait.Performs : Performs ExecuteAwait ErrorCode Execution
  | .write, s, code, s' => ∃ ch, AsyncWrite s.conn.channel s.processor.buffer code ch ∧
      s' = { s with conn.channel := ch }
  | .read, s, code, s' => ∃ ch buffer,
      PerformsRead s.conn.channel s.processor.buffer code ch buffer ∧
      s' = { s with conn.channel := ch, processor.buffer := buffer }

namespace ExecuteGenericOp

abbrev ExecuteTurn :=
  Turn ExecuteAwait ExecuteGenericOp (ErrorCode × Option ResultSet) × Execution

/-- The loop over the field definitions, and what comes after it. -/
def loop (op : ExecuteGenericOp) (s : Execution) : ExecuteTurn :=
  if 0 < op.remainingFields then (.await .read { op with point := .field }, s)
  else (.complete (.success, some s.processor.createResultset), s)

/-- `execute_generic_op::operator()`. Its `error_info` begins anew at each call. -/
def resume : Coroutine ExecuteGenericOp ErrorCode ExecuteAwait (ErrorCode × Option ResultSet)
    Execution := fun op err s =>
  if err.failed then (.complete (err, none), s)
  else
    match op.point with
    | .start => (.await .write { op with point := .request }, s)
    | .request => (.await .read { op with point := .response }, s)
    | .response =>
      let (err, info, processor) := s.processor.processResponse s.conn.channel.currentCaps .clear
      let s := { s with processor }
      if err.failed then (.complete (err, none), { s with conn.info := info })
      else loop { op with remainingFields := processor.fieldCount } s
    | .field =>
      let (err, s) := s.processFieldDefinition
      if err.failed then (.complete (err, none), s)
      else loop { op with remainingFields := op.remainingFields - 1 } s

end ExecuteGenericOp

/-- What `async_execute_generic` completes with, and the connection it leaves. -/
def AsyncExecuteGeneric {α : Type} [Serializable α] (deserializer : DeserializeRowFn) (request : α)
    (c : Conn) (code : ErrorCode) (output : Option ResultSet) (c' : Conn) : Prop :=
  ∃ s, Completes ExecuteGenericOp.resume ExecuteAwait.Performs ⟨.start, 0⟩ .success
    (.start deserializer request c) (code, output) s ∧ s.conn = c'

lemma performs_write_iff {s s' : Execution} {code : ErrorCode} :
    ExecuteAwait.write.Performs s code s' ↔ code = s.write.1 ∧ s' = s.write.2 := by
  simp only [ExecuteAwait.Performs, asyncWrite_iff]
  constructor
  · rintro ⟨ch, ⟨rfl, rfl⟩, rfl⟩
    exact ⟨rfl, rfl⟩
  · rintro ⟨rfl, rfl⟩
    exact ⟨_, ⟨rfl, rfl⟩, rfl⟩

lemma performs_read_iff {s s' : Execution} {code : ErrorCode} :
    ExecuteAwait.read.Performs s code s' ↔ code = s.read.1 ∧ s' = s.read.2 := by
  simp only [ExecuteAwait.Performs, performsRead_iff]
  constructor
  · rintro ⟨ch, buffer, ⟨rfl, rfl, rfl⟩, rfl⟩
    exact ⟨rfl, rfl⟩
  · rintro ⟨rfl, rfl⟩
    exact ⟨_, _, ⟨rfl, rfl, rfl⟩, rfl⟩

/-! ### The two side by side -/

namespace Execution

lemma processFieldDefinition_ok {s : Execution} (h : s.processFieldDefinition.1.failed = false) :
    s.processFieldDefinition.1 = .success := by
  revert h
  rw [processFieldDefinition, ExecuteProcessor.processFieldDefinition]
  rcases hd : deserializeMessage deserializeColumnDefinitionPacket
    ⟨s.processor.buffer, s.conn.channel.currentCaps⟩ with err | fieldDefinition
  · intro h
    rw [deserializeMessage_error_failed columnDefinition_failsOnly hd] at h
    cases h
  · exact fun _ => rfl

lemma read_ok {s : Execution} (h : s.read.1.failed = false) : s.read.1 = .success := by
  rcases read_cases s.conn.channel with ⟨m, rest, -, hr⟩ | ⟨m, err, ch, he, -, hr⟩
  · exact congrArg (fun r => r.2.1) hr
  · rw [read, hr, he] at h
    cases h

lemma write_ok {s : Execution} (h : s.write.1.failed = false) : s.write.1 = .success := by
  rcases (write_cases s.conn.channel s.processor.buffer).2 with hw | hw
  · exact hw
  · exact absurd (hw.symm.trans h) (by decide)

lemma fieldLoop_none {s : Execution} {i : ℕ} (h : ¬ i < s.processor.fieldCount)
    (err : ErrorCode) : s.fieldLoop err i = (err, s) := by
  rw [fieldLoop, if_neg h]

end Execution

variable {code : ErrorCode} {output : Option ResultSet} {e : Execution}

lemma resume_failed {op : ExecuteGenericOp} {err : ErrorCode} (h : err.failed = true)
    (s : Execution) : op.resume err s = (.complete (err, none), s) := by
  rw [ExecuteGenericOp.resume, if_pos h]

lemma complete_failed_iff {r : ErrorCode × Execution} (h : r.1.failed = true) :
    CompletesFrom ExecuteGenericOp.resume ExecuteAwait.Performs (.complete (r.1, none), r.2)
      (code, output) e ↔ (code, output) = (r.1, outputOf r) ∧ e = r.2 := by
  rw [outputOf, if_pos h]
  rfl

lemma resume_field (n : ℕ) (s : Execution) :
    ExecuteGenericOp.resume ⟨.field, n⟩ .success s =
      let r := s.processFieldDefinition
      if r.1.failed then (.complete (r.1, none), r.2) else ExecuteGenericOp.loop ⟨.field, n - 1⟩ r.2 := by
  rw [ExecuteGenericOp.resume, success_failed, if_neg Bool.false_ne_true]

/-- The operation counts the fields down that the loop counts up. -/
lemma from_loop_iff (op : ExecuteGenericOp) (i : ℕ) (s : Execution)
    (h : op.remainingFields = s.processor.fieldCount - i) :
    CompletesFrom ExecuteGenericOp.resume ExecuteAwait.Performs (op.loop s) (code, output) e ↔
      let r := s.fieldLoop .success i
      (code, output) = (r.1, outputOf r) ∧ e = r.2 := by
  obtain ⟨point, n⟩ := op
  induction n generalizing point i s with
  | zero =>
    have hi : ¬ i < s.processor.fieldCount := by
      simp only [] at h
      omega
    rw [ExecuteGenericOp.loop, if_neg (lt_irrefl 0), Execution.fieldLoop_none hi]
    rfl
  | succ n ih =>
    have hi : i < s.processor.fieldCount := by
      simp only [] at h
      omega
    rw [ExecuteGenericOp.loop, if_pos n.succ_pos, Execution.fieldLoop, if_pos hi,
      from_await_iff fun _ _ => performs_read_iff]
    by_cases hr : s.read.1.failed = true
    · simp only [resume_failed hr, if_pos hr]
      exact complete_failed_iff hr
    · simp only [if_neg hr]
      rw [Execution.read_ok (by simpa using hr), resume_field]
      by_cases hd : s.read.2.processFieldDefinition.1.failed = true
      · simp only [if_pos hd]
        exact complete_failed_iff hd
      · simp only [if_neg hd]
        rw [Execution.processFieldDefinition_ok (by simpa using hd)]
        refine ih (i + 1) _ _ ?_
        simp only [Execution.processFieldDefinition_fieldCount, Execution.read_fieldCount] at h ⊢
        omega

/-! ### The response -/

lemma processResponse_err {p : ExecuteProcessor} {packet : ErrPacket} (caps : Capabilities)
    (info : ErrorInfo) (h : errPacketOf p.buffer = some packet) :
    p.processResponse caps info =
      (makeErrorCode (.server packet.errorCode), ⟨packet.errorMessage⟩, p) := by
  obtain ⟨s, hb, hd⟩ := of_errPacketOf h
  have hm : deserializeMessage deserializeErrPacket ⟨s, caps⟩ = .ok packet :=
    deserializeMessage_ok hd
  simp only [ExecuteProcessor.processResponse, hb, deserializeMessageType_cons,
    if_neg errorPacketHeader_ne_ok, if_true, processErrorPacket, hm]

lemma processResponse_cases {p : ExecuteProcessor} (caps : Capabilities) (info : ErrorInfo)
    (h : errPacketOf p.buffer = none) :
    let r := p.processResponse caps info
    r.1.failed = true ∨ r.1 = .success ∧ r.2.1 = info := by
  rcases hb : p.buffer with _ | ⟨b, s⟩
  · left
    rw [ExecuteProcessor.processResponse, hb]
    rfl
  simp only [ExecuteProcessor.processResponse, hb, deserializeMessageType_cons]
  by_cases hok : b = okPacketHeader
  · rw [if_pos hok]
    rcases hd : deserializeMessage (deserializeOkPacket p.okPacket) ⟨s, caps⟩ with err | okPacket
    · exact Or.inl (deserializeMessage_error_failed (okPacket_failsOnly _) hd)
    · exact Or.inr ⟨rfl, rfl⟩
  rw [if_neg hok]
  by_cases herr : b = errorPacketHeader
  · rw [if_pos herr]
    rw [hb, herr, errPacketOf, if_pos rfl] at h
    refine Or.inl ((processErrorPacket_failed_iff s caps info).mpr fun e hd => ?_)
    rw [hd] at h
    cases h
  rw [if_neg herr]
  rcases hd : deserializeMessage deserializeIntLenenc ⟨b :: s, caps⟩ with err | numFields
  · exact Or.inl (deserializeMessage_error_failed intLenenc_failsOnly hd)
  · dsimp only
    split_ifs
    · exact Or.inl rfl
    · exact Or.inr ⟨rfl, rfl⟩

lemma resume_response (n : ℕ) (s : Execution) :
    ExecuteGenericOp.resume ⟨.response, n⟩ .success s =
      let r := s.processor.processResponse s.conn.channel.currentCaps .clear
      if r.1.failed then (.complete (r.1, none), { s with conn.info := r.2.1, processor := r.2.2 })
      else ExecuteGenericOp.loop ⟨.response, r.2.2.fieldCount⟩ { s with processor := r.2.2 } := by
  rw [ExecuteGenericOp.resume, success_failed, if_neg Bool.false_ne_true]

/-- What `execute_generic` does after the response was read. -/
def Execution.afterResponse (s : Execution) : ErrorCode × Execution :=
  let r := s.processResponse
  if r.1.failed then r else r.2.fieldLoop r.1 0

/-- Behind a response that is no ERR packet of number 0, the operation goes on as
`execute_generic` does. -/
lemma from_response_iff (n : ℕ) {s : Execution} (hinfo : s.conn.info = .clear)
    (hz : ∀ packet, errPacketOf s.processor.buffer = some packet → packet.errorCode ≠ 0) :
    CompletesFrom ExecuteGenericOp.resume ExecuteAwait.Performs
      (ExecuteGenericOp.resume ⟨.response, n⟩ .success s) (code, output) e ↔
      let r := s.afterResponse
      (code, output) = (r.1, outputOf r) ∧ e = r.2 := by
  rw [resume_response, Execution.afterResponse, Execution.processResponse, hinfo]
  by_cases hf : (s.processor.processResponse s.conn.channel.currentCaps .clear).1.failed = true
  · simp only [if_pos hf, outputOf]
    rfl
  · cases hp : errPacketOf s.processor.buffer with
    | some packet =>
      rw [processResponse_err _ _ hp] at hf
      exact absurd (by simpa using hf) (hz packet hp)
    | none =>
      obtain ⟨hs, hi⟩ := (processResponse_cases _ _ hp).resolve_left hf
      simp only [hs, hi, success_failed, Bool.false_eq_true, if_false]
      rw [from_loop_iff _ 0 _ rfl, ← hinfo]

/-- Behind an ERR packet of number 0, both return the resultset of an OK, and one of them an
error that callers do not see. -/
lemma from_response_zero (n : ℕ) {s : Execution} (hc : s.processor.fieldCount = 0)
    {packet : ErrPacket}
    (hp : errPacketOf s.processor.buffer = some packet) (h0 : packet.errorCode = 0) :
    (CompletesFrom ExecuteGenericOp.resume ExecuteAwait.Performs
      (ExecuteGenericOp.resume ⟨.response, n⟩ .success s)
      (.success, some s.processor.createResultset) s) ∧
    s.afterResponse.1 = makeErrorCode (.server 0) := by
  have hf : (makeErrorCode (.server 0)).failed = false := rfl
  have hn : ¬ 0 < s.processor.fieldCount := by rw [hc]; exact lt_irrefl 0
  constructor
  · rw [resume_response, processResponse_err _ _ hp, h0]
    simp only [hf, Bool.false_eq_true, if_false]
    rw [ExecuteGenericOp.loop, if_neg hn]
    exact ⟨rfl, rfl⟩
  · rw [Execution.afterResponse, Execution.processResponse, processResponse_err _ _ hp, h0]
    simp only [hf, Bool.false_eq_true, if_false]
    rw [Execution.fieldLoop]
    exact congrArg Prod.fst (if_neg hn)

/-- The request is answered with an ERR packet of number 0. -/
def AnsweredByZero {α : Type} [Serializable α] (request : α) (c : Conn) : Prop :=
  ∃ ch m ch' packet, c.channel.resetSequenceNumber.write
      (serializeMessage request c.channel.currentCaps []) = (.success, ch) ∧
    ch.read = (m, .success, ch') ∧ errPacketOf m = some packet ∧ packet.errorCode = 0

/-- An execution completes asynchronously with the error and the resultset that the synchronous
one returns, and leaves the connection as that does. -/
def ExecutesAlike {α : Type} [Serializable α] (deserializer : DeserializeRowFn) (request : α)
    (c : Conn) : Prop :=
  let r := executeGeneric deserializer request { c with info := .clear }
  ∀ code output c', AsyncExecuteGeneric deserializer request { c with info := .clear } code output c' ↔
    code = r.1 ∧ output = r.2.1 ∧ c' = r.2.2

lemma run_eq (s : Execution) :
    s.run =
      if s.write.1.failed then s.write
      else if s.write.2.read.1.failed then s.write.2.read else s.write.2.read.2.afterResponse := rfl

lemma from_start_iff {s : Execution} :
    CompletesFrom ExecuteGenericOp.resume ExecuteAwait.Performs
      (ExecuteGenericOp.resume ⟨.start, 0⟩ .success s) (code, output) e ↔
      if s.write.1.failed then (code, output) = (s.write.1, none) ∧ e = s.write.2
      else if s.write.2.read.1.failed then
        (code, output) = (s.write.2.read.1, none) ∧ e = s.write.2.read.2
      else
        CompletesFrom ExecuteGenericOp.resume ExecuteAwait.Performs
          (ExecuteGenericOp.resume ⟨.response, 0⟩ .success s.write.2.read.2) (code, output) e := by
  have hstart : ExecuteGenericOp.resume ⟨.start, 0⟩ .success s = (.await .write ⟨.request, 0⟩, s) :=
    rfl
  rw [hstart, from_await_iff fun _ _ => performs_write_iff]
  by_cases hw : s.write.1.failed = true
  · rw [resume_failed hw, if_pos hw]
    rfl
  have hrequest : ExecuteGenericOp.resume ⟨.request, 0⟩ .success s.write.2 =
      (.await .read ⟨.response, 0⟩, s.write.2) := rfl
  rw [if_neg hw, Execution.write_ok (by simpa using hw), hrequest,
    from_await_iff fun _ _ => performs_read_iff]
  by_cases hr : s.write.2.read.1.failed = true
  · rw [resume_failed hr, if_pos hr]
    rfl
  · rw [if_neg hr, Execution.read_ok (by simpa using hr)]

section ExecutesAlike

variable {α : Type} [Serializable α] {deserializer : DeserializeRowFn} {request : α} {c : Conn}

lemma written_read {s : Execution} (hs : s = .start deserializer request { c with info := .clear })
    (hw : ¬ s.write.1.failed = true) (hr : ¬ s.write.2.read.1.failed = true) :
    c.channel.resetSequenceNumber.write (serializeMessage request c.channel.currentCaps []) =
      (.success, s.write.2.conn.channel) ∧
    s.write.2.conn.channel.read =
      (s.write.2.read.2.processor.buffer, .success, s.write.2.read.2.conn.channel) := by
  subst hs
  have hw' := Execution.write_ok (by simpa using hw)
  have hr' := Execution.read_ok (by simpa using hr)
  exact ⟨Prod.ext hw' rfl, Prod.ext rfl (Prod.ext hr' rfl)⟩

lemma executesAlike_of_not_zero (h : ¬ AnsweredByZero request c) :
    ExecutesAlike deserializer request c := by
  intro code output c'
  set s : Execution := .start deserializer request { c with info := .clear } with hs
  have hrun : ∀ e, Completes ExecuteGenericOp.resume ExecuteAwait.Performs ⟨.start, 0⟩ .success s
      (code, output) e ↔ (code, output) = (s.run.1, outputOf s.run) ∧ e = s.run.2 := by
    intro e
    rw [completes_iff, from_start_iff, run_eq]
    by_cases hw : s.write.1.failed = true
    · simp only [if_pos hw, outputOf]
    by_cases hr : s.write.2.read.1.failed = true
    · simp only [if_neg hw, if_pos hr, outputOf]
    simp only [if_neg hw, if_neg hr]
    obtain ⟨hw', hr'⟩ := written_read hs hw hr
    exact from_response_iff 0 rfl fun packet hp h0 => h ⟨_, _, _, packet, hw', hr', hp, h0⟩
  constructor
  · rintro ⟨e, he, rfl⟩
    obtain ⟨hres, rfl⟩ := (hrun e).mp he
    cases hres
    exact ⟨rfl, rfl, rfl⟩
  · rintro ⟨rfl, rfl, rfl⟩
    exact ⟨_, (hrun _).mpr ⟨rfl, rfl⟩, rfl⟩

lemma not_zero_of_executesAlike (h : ExecutesAlike deserializer request c) :
    ¬ AnsweredByZero request c := by
  rintro ⟨ch, m, ch', packet, hw, hr, hp, h0⟩
  set s : Execution := .start deserializer request { c with info := .clear } with hs
  have hw' : s.write = (.success, { s with conn.channel := ch }) := by
    simp only [hs, Execution.write, Execution.start, ExecuteProcessor.processRequest,
      ExecuteProcessor.new, hw]
  have hr' : s.write.2.read =
      (.success, { s with conn.channel := ch', processor.buffer := m }) := by
    simp only [hw', Execution.read, hr]
  have hp' : errPacketOf s.write.2.read.2.processor.buffer = some packet := by
    rw [hr']
    exact hp
  obtain ⟨hasync, hsync⟩ := from_response_zero 0 rfl hp' h0
  have hf : s.write.1.failed = false ∧ s.write.2.read.1.failed = false := by
    rw [hr', hw']
    exact ⟨rfl, rfl⟩
  have hc : Completes ExecuteGenericOp.resume ExecuteAwait.Performs ⟨.start, 0⟩ .success s
      (.success, some s.write.2.read.2.processor.createResultset) s.write.2.read.2 := by
    rw [completes_iff, from_start_iff, hf.1, hf.2]
    exact hasync
  obtain ⟨hcode, -, -⟩ := (h _ _ _).mp ⟨_, hc, rfl⟩
  have hrun : s.run.1 = makeErrorCode (.server 0) := by
    rw [run_eq, hf.1, hf.2]
    exact hsync
  cases hcode.trans hrun

end ExecutesAlike

end MysqlAsio.AsyncExecute
