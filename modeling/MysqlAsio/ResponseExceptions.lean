import MysqlAsio.ColumnCounts
import MysqlAsio.Lib.Assertions

/-!
The response to a request again, with the exceptions of the standard library: a vector has a
`max_size()`, and there may be no storage for what is kept.

An exception leaves the processor as a failed assertion would, and nothing comes of the call.
-/

namespace MysqlAsio.ResponseExceptions

open MysqlAsio.Errors MysqlAsio.Serialization MysqlAsio.CommonMessages MysqlAsio.Operations
open MysqlAsio.ExecuteGeneric (errorPacketHeader_ne_ok)
open MysqlAsio.ErrPackets MysqlAsio.ColumnCounts MysqlAsio.Lib.Decoding
open MysqlAsio.Lib.LittleEndian MysqlAsio.Lib.Programs MysqlAsio.Lib.Assertions

/-! ### Memory -/

/-- What a `std::vector` can hold, and for how many elements the allocator has storage. -/
structure VectorLimits where
  elementSize : ℕ
  maxSize : ℕ
  maxSize_le : maxSize ≤ (2 ^ 63 - 1) / elementSize
  hasStorage : ℕ → Bool

/-- `reserve` throws neither `std::length_error` nor `std::bad_alloc`. -/
def VectorLimits.Holds (v : VectorLimits) (count : ℕ) : Prop :=
  count ≤ v.maxSize ∧ v.hasStorage count = true

instance (v : VectorLimits) (count : ℕ) : Decidable (v.Holds count) :=
  inferInstanceAs (Decidable (_ ∧ _))

structure Memory where
  fields : VectorLimits
  fieldBuffers : VectorLimits
  /-- Whether there is storage for a `std::string` of so many characters. -/
  hasText : ℕ → Bool

/-! ### The processor -/

/-- A program that an exception may leave. -/
abbrev Throwing (α : Type) := AssertingProgram Conn ErrorCode α

/-- `std::vector::reserve`. -/
def reserve (v : VectorLimits) (count : ℕ) : Throwing Unit := check (v.Holds count)

/-- `process_error_packet`: the text of the packet becomes a string. -/
def processErrorPacket (memory : Memory) (ctx : DeserializationContext) : Throwing Unit :=
  match deserializeMessage deserializeErrPacket ctx with
  | .error code => unasserted (report fun info => (code, info))
  | .ok packet => do
    check (memory.hasText packet.errorMessage.length = true)
    unasserted (report fun _ => (makeErrorCode (.server packet.errorCode), ⟨packet.errorMessage⟩))

/-- `execute_processor::process_response`. -/
def processResponse (memory : Memory) (buffer : Bytes) : Throwing (ℕ × OkPacket) := do
  let caps := (← get).channel.currentCaps
  match deserializeMessageType ⟨buffer, caps⟩ with
  | .error err => throw err
  | .ok (msgType, ctx) =>
    if msgType = okPacketHeader then
      let okPacket ←
        unasserted (attempt (deserializeMessage (deserializeOkPacket .default) ctx))
      pure (0, okPacket)
    else if msgType = errorPacketHeader then
      processErrorPacket memory ctx
      pure (0, .default)
    else
      let numFields ← unasserted (attempt (deserializeMessage deserializeIntLenenc ⟨buffer, caps⟩))
      if numFields = 0 then throw (makeErrorCode .protocolValueError)
      else
        reserve memory.fields numFields.toNat
        reserve memory.fieldBuffers numFields.toNat
        pure (numFields.toNat, .default)

/-! ### When no exception leaves it -/

/-- There is a place for what the processor keeps of an ERR packet. -/
def TextStored (memory : Memory) (s : Bytes) : Prop :=
  ∀ e, errPacketOf s = some e → memory.hasText e.errorMessage.length = true

/-- The vectors can hold so many elements. -/
def ColumnsStored (memory : Memory) (count : ℕ) : Prop :=
  memory.fields.Holds count ∧ memory.fieldBuffers.Holds count

/-- The message is a number of columns: it says neither OK nor ERR, and is a number in one of its
forms, or the byte that is taken for one. -/
def ColumnCount (s : Bytes) (count : ℕ) : Prop :=
  ¬ SaysOkOrErr s ∧ count ≠ 0 ∧ (Form count s ∨ s = [localInfileHeader] ∧ count = 251)

/-- There is a place for all that the processor keeps of a response. -/
def Stored (memory : Memory) (s : Bytes) : Prop :=
  TextStored memory s ∧ ∀ count, ColumnCount s count → ColumnsStored memory count

/-- The numbers of columns are those the decoder comes to. -/
lemma columnCount_iff {s : Bytes} (h : ¬ SaysOkOrErr s) (count : ℕ) :
    ColumnCount s count ↔
      ∃ v, deserializeIntLenenc s = .ok (v, []) ∧ v ≠ 0 ∧ count = v.toNat := by
  constructor
  · rintro ⟨-, h0, hf | ⟨rfl, rfl⟩⟩
    · have hv : (UInt64.ofNat count).toNat = count := UInt64.toNat_ofNat_of_lt' hf.lt
      refine ⟨.ofNat count, Reads.exact (Form.reads (by rwa [hv])), ?_, hv.symm⟩
      intro hz
      rw [hz] at hv
      exact h0 hv.symm
    · exact ⟨251, intLenenc_reserved (.inl rfl) [], by decide, rfl⟩
  · rintro ⟨v, hv, h0, rfl⟩
    refine ⟨h, fun hz => h0 (UInt64.toNat_inj.mp hz), ?_⟩
    rcases of_intLenenc_ok hv with ⟨w, hw, rfl⟩ | ⟨b, hb | hb, rfl, rfl⟩
    · rw [List.append_nil]
      exact .inl hw
    · rw [hb]
      exact .inr ⟨rfl, rfl⟩
    · exact absurd (.inr (congrArg some hb)) h

section Processor

variable (memory : Memory)

lemma guarded_processErrorPacket (s : Bytes) (caps : Capabilities) :
    Guarded (fun _ => TextStored memory (errorPacketHeader :: s))
      (processErrorPacket memory ⟨s, caps⟩)
      (report (CommonMessages.processErrorPacket ⟨s, caps⟩)) := by
  unfold processErrorPacket CommonMessages.processErrorPacket
  rcases hd : deserializeMessage deserializeErrPacket ⟨s, caps⟩ with code | packet
  · have hnone : errPacketOf (errorPacketHeader :: s) = none := by
      rcases he : errPacketOf (errorPacketHeader :: s) with _ | e
      · rfl
      · obtain ⟨t, ht, hok⟩ := of_errPacketOf he
        cases ht
        rw [deserializeMessage_ok hok] at hd
        cases hd
    refine (safe_unasserted _).guarded.congr fun _ => ⟨fun _ e he => ?_, fun _ => trivial⟩
    rw [hnone] at he
    cases he
  · have hok := of_deserializeMessage_ok hd
    have hsome : errPacketOf (errorPacketHeader :: s) = some packet := by
      simp only [errPacketOf, if_true, hok]
    refine (safe_unasserted _).guarded.after_check.congr fun _ => ?_
    simp [TextStored, hsome]

lemma guarded_reserve (count : ℕ) :
    Guarded (fun _ => ColumnsStored memory count)
      (do
        reserve memory.fields count
        reserve memory.fieldBuffers count
        pure (count, .default) : Throwing (ℕ × OkPacket))
      (pure (count, .default) : Operation (ℕ × OkPacket)) :=
  ((safe_return _).guarded.after_check.after_check).congr fun _ => by
    simp [ColumnsStored]

lemma columnsStored_iff {s : Bytes} (h : ¬ SaysOkOrErr s) (caps : Capabilities) :
    (∀ v, deserializeMessage deserializeIntLenenc ⟨s, caps⟩ = .ok v → v ≠ 0 →
        ColumnsStored memory v.toNat) ↔
      ∀ count, ColumnCount s count → ColumnsStored memory count := by
  constructor
  · intro hv count hc
    obtain ⟨v, hok, h0, rfl⟩ := (columnCount_iff h count).mp hc
    exact hv v (deserializeMessage_ok hok) h0
  · intro hc v hok h0
    exact hc _ ((columnCount_iff h _).mpr ⟨v, of_deserializeMessage_ok hok, h0, rfl⟩)

lemma guarded_countColumns {s : Bytes} (h : ¬ SaysOkOrErr s) (caps : Capabilities) :
    Guarded (fun _ => ∀ count, ColumnCount s count → ColumnsStored memory count)
      (do
        let numFields ← unasserted (attempt (deserializeMessage deserializeIntLenenc ⟨s, caps⟩))
        if numFields = 0 then throw (makeErrorCode .protocolValueError)
        else
          reserve memory.fields numFields.toNat
          reserve memory.fieldBuffers numFields.toNat
          pure (numFields.toNat, .default) : Throwing (ℕ × OkPacket))
      (do
        let numFields ← attempt (deserializeMessage deserializeIntLenenc ⟨s, caps⟩)
        if numFields = 0 then throw (makeErrorCode .protocolValueError)
        else pure (numFields.toNat, .default) : Operation (ℕ × OkPacket)) := by
  have hstep : ∀ v : UInt64, Guarded (fun _ => v ≠ 0 → ColumnsStored memory v.toNat)
      (if v = 0 then throw (makeErrorCode .protocolValueError)
      else do
        reserve memory.fields v.toNat
        reserve memory.fieldBuffers v.toNat
        pure (v.toNat, .default) : Throwing (ℕ × OkPacket))
      (if v = 0 then throw (makeErrorCode .protocolValueError)
      else pure (v.toNat, .default) : Operation (ℕ × OkPacket)) := by
    intro v
    split_ifs with h0
    · exact ⟨fun _ => rfl, fun hn => absurd (fun hne => absurd h0 hne) hn⟩
    · exact (guarded_reserve memory v.toNat).congr fun _ => ⟨fun hc _ => hc, fun hc => hc h0⟩
  refine ((safe_unasserted _).then_guarded hstep).congr fun c => ?_
  rw [← columnsStored_iff memory h caps]
  constructor
  · intro hv v hok
    exact hv v c (by rw [attempt, hok])
  · intro hv v c' hok
    exact hv v (congrArg Prod.fst hok)

/-- **No exception leaves the processor where there is a place for what it keeps, and then it does
what it does without exceptions.** -/
lemma guarded_processResponse (s : Bytes) :
    Guarded (fun _ => Stored memory s) (processResponse memory s)
      (ExecuteGeneric.processResponse s) := by
  unfold processResponse ExecuteGeneric.processResponse
  refine Guarded.get_then fun c => ?_
  cases s with
  | nil =>
    have hs : Stored memory [] := by
      refine ⟨fun e he => ?_, fun count hc => ?_⟩
      · cases he
      · obtain ⟨-, -, hf | ⟨hnil, -⟩⟩ := hc
        · cases hf
        · cases hnil
    exact ⟨fun _ => rfl, fun hn => absurd hs hn⟩
  | cons b t =>
    simp only [deserializeMessageType_cons]
    by_cases hok : b = okPacketHeader
    · subst hok
      have hs : Stored memory (okPacketHeader :: t) := by
        refine ⟨fun e he => ?_, fun count hc => absurd (.inl rfl) hc.1⟩
        rw [errPacketOf_ne errorPacketHeader_ne_ok.symm] at he
        cases he
      rw [if_pos rfl, if_pos rfl]
      exact ((safe_unasserted _).then fun _ => safe_return _).guarded.congr fun _ =>
        ⟨fun _ => hs, fun _ => trivial⟩
    by_cases herr : b = errorPacketHeader
    · subst herr
      rw [if_neg hok, if_pos rfl, if_neg hok, if_pos rfl]
      refine ((guarded_processErrorPacket memory t _).then_safe fun _ => safe_return _).congr
        fun _ => ⟨fun ht => ⟨ht, fun count hc => absurd (.inr rfl) hc.1⟩, And.left⟩
    · have hsays : ¬ SaysOkOrErr (b :: t) := by
        rintro (h | h)
        · exact hok (Option.some.inj h)
        · exact herr (Option.some.inj h)
      rw [if_neg hok, if_neg herr, if_neg hok, if_neg herr]
      refine (guarded_countColumns memory hsays _).congr fun _ => ⟨fun hc => ⟨?_, hc⟩, And.right⟩
      intro e he
      rw [errPacketOf_ne herr] at he
      cases he

end Processor

/-! ### The numbers that are reserved -/

/-- The processor goes on to reserve so many elements. -/
def Reserves (s : Bytes) (c : Conn) (count : ℕ) : Prop :=
  count ≠ 0 ∧ ∃ ok c', ExecuteGeneric.processResponse s c = (.ok (count, ok), c')

lemma Reserves.columnCount {s : Bytes} {c : Conn} {count : ℕ} (h : Reserves s c count) :
    ColumnCount s count := by
  obtain ⟨h0, ok, c', hp⟩ := h
  obtain ⟨hz, -⟩ | ⟨-, hs, v, hv, rfl⟩ := of_processResponse_ok hp
  · exact absurd hz h0
  · refine (columnCount_iff hs _).mpr ⟨v, hv, fun hz => h0 ?_, rfl⟩
    rw [hz]
    rfl

/-- Every problem of a response is reported by its error code, and none by an exception; no more
is reserved than the vectors can have. -/
structure ReportsAll (memory : Memory) (s : Bytes) (c : Conn) : Prop where
  noException : processResponse memory s c ≠ none
  reserves : ∀ count, Reserves s c count →
    count ≤ memory.fields.maxSize ∧ count ≤ memory.fieldBuffers.maxSize

/-- **No exception leaves the processor just where there is a place for the text of an ERR packet
and for as many columns as the message says.** -/
theorem reportsAll_iff (memory : Memory) (s : Bytes) (c : Conn) :
    ReportsAll memory s c ↔
      (∀ e, errPacketOf s = some e → memory.hasText e.errorMessage.length = true) ∧
        ∀ count, ColumnCount s count → ColumnsStored memory count := by
  have hg := guarded_processResponse memory s
  constructor
  · intro h
    by_contra hn
    exact h.noException (hg.fails hn)
  · intro hs
    refine ⟨?_, fun count hr => ?_⟩
    · rw [hg.holds hs]
      exact Option.some_ne_none _
    · obtain ⟨hf, hb⟩ := hs.2 count hr.columnCount
      exact ⟨hf.1, hb.1⟩

/-- The largest number, in the form with eight bytes. -/
def largestCount : Bytes := 0xfe :: List.replicate 8 0xff

/-- A vector that has storage for whatever it may hold. -/
def VectorLimits.unbounded (elementSize : ℕ) : VectorLimits :=
  ⟨elementSize, (2 ^ 63 - 1) / elementSize, le_rfl, fun _ => true⟩

/-- The largest number of columns is more than a vector can have. -/
theorem not_reportsAll :
    ¬ ∀ (memory : Memory) (s : Bytes) (c : Conn), ReportsAll memory s c := by
  intro h
  have hr := h ⟨.unbounded 120, .unbounded 24, fun _ => true⟩ largestCount
    (Conn.fresh ⟨none, [], [], [], [], .success, 0⟩)
  exact hr.noException (by decide +kernel)

end MysqlAsio.ResponseExceptions
