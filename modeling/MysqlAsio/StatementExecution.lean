import MysqlAsio.BinaryRoundTrip

/-!
The message of a statement execution, against the layout the protocol gives it.
-/

namespace MysqlAsio.StatementExecution

open MysqlAsio.Errors MysqlAsio.Serialization MysqlAsio.CommonMessages MysqlAsio.Values
open MysqlAsio.BinarySerialization MysqlAsio.BinaryDeserialization MysqlAsio.NullBitmap
open MysqlAsio.PreparedStatementMessages MysqlAsio.BinaryRoundTrip MysqlAsio.Lib.Decoding

/-! ### Assertions -/

/-- The assertion of `set_null`, at every NULL parameter. -/
def setNullAssertion (p : ComStmtExecutePacket) : Bool :=
  p.params.zipIdx.all fun (v, i) => !v.isNull || i < p.nullBitmapTraits.numFields

/-- All the assertions on the way to the message. -/
def executeAssertions (p : ComStmtExecutePacket) (caps : Capabilities) : Bool :=
  numParamsAssertion p && setNullAssertion p && p.params.all serializeBinaryValueAssertion &&
    serializeMessageAssertion p caps

/-- The message of an execution, where the program gets to it: with the assertions compiled
in (`ndebug` false), one that fails ends the program. -/
def executeMessage (ndebug : Bool) (statementId : UInt32) (params : List Value)
    (caps : Capabilities) (buffer : Bytes) : Option Bytes :=
  let packet := makeStmtExecutePacket statementId params
  if ndebug || executeAssertions packet caps then some (serializeMessage packet caps buffer)
  else none

lemma setNullAssertion_holds (p : ComStmtExecutePacket) : setNullAssertion p = true := by
  simp only [setNullAssertion, List.all_eq_true, Prod.forall]
  intro v i h
  have hi : i < p.params.length := by simpa using (List.mem_zipIdx h).2.1
  simp [ComStmtExecutePacket.nullBitmapTraits, hi]

/-- Of the assertions only the one on the number of parameters can fail. -/
lemma executeAssertions_iff (p : ComStmtExecutePacket) (caps : Capabilities) :
    executeAssertions p caps = true ↔ p.params.length ≤ 255 := by
  have h1 : p.params.all serializeBinaryValueAssertion = true :=
    List.all_eq_true.mpr fun v _ => serializeBinaryValueAssertion_holds v
  have h2 : serializeMessageAssertion p caps = true :=
    decide_eq_true (LawfulSerializable.serialize_length caps p)
  rw [executeAssertions, setNullAssertion_holds, h1, h2]
  simp [numParamsAssertion]

/-! ### The layout -/

/-- A byte of the message that has to be `b`. -/
def expect (b : UInt8) : Deserializer Unit := do
  let got ← deserializeInt1
  if got = b then pure () else throw .protocolValueError

/-- `n` pairs of a type and a sign. -/
def parseTypes : ℕ → Deserializer (List (ProtocolFieldType × Bool))
  | 0 => pure []
  | n + 1 => do
    let type ← deserializeInt1
    let unsigned ← deserializeInt1
    let types ← parseTypes n
    pure ((.ofCode type, unsigned = 0x80) :: types)

/-- The values of the parameters from the `i`-th on: those that are not NULL are encoded, one
after the other. -/
def parseValues (bitmap : Bytes) : ℕ → List (ProtocolFieldType × Bool) → Deserializer (List Value)
  | _, [] => pure []
  | i, (type, unsigned) :: types => do
    let value ← if bitAt bitmap i then pure .null
      else deserializeBinaryValue (typedField type unsigned)
    let values ← parseValues bitmap (i + 1) types
    pure (value :: values)

/-- What a server reads of an execution of a statement with `n` parameters: the statement and
the values, NULL where the bitmap says so. -/
def parseExecution (n : ℕ) : Deserializer (UInt32 × List Value) := do
  expect 0x17
  let statementId ← deserializeInt4
  let _flags ← deserializeInt1
  let _iterationCount ← deserializeInt4
  let bitmap ← deserializeStringFixed ((n + 7) / 8)
  expect 1
  let types ← parseTypes n
  let values ← parseValues bitmap 0 types
  pure (statementId, values)

/-! ### The bitmap -/

lemma bitAt_setNulls {traits : NullBitmapTraits} (ho : traits.offset = 0) {params : List Value}
    {bitmap : Bytes} {i : ℕ} (hlen : i + params.length ≤ 8 * bitmap.length) (j : ℕ) :
    bitAt (setNulls traits i params bitmap) j =
      (bitAt bitmap j || decide (i ≤ j) && (params[j - i]?).any Value.isNull) := by
  induction params generalizing i bitmap with
  | nil => simp [setNulls]
  | cons v params ih =>
    simp only [List.length_cons] at hlen
    have hb : bitAt (if v.isNull then traits.setNull bitmap i else bitmap) j =
        (bitAt bitmap j || decide (i = j) && v.isNull) := by
      cases v.isNull with
      | true => simpa [ho] using bitAt_setNull traits (by omega) j
      | false => simp
    have hl : (if v.isNull then traits.setNull bitmap i else bitmap).length = bitmap.length := by
      split_ifs <;> simp
    rw [setNulls, ih (by rw [hl]; omega), hb]
    rcases lt_trichotomy i j with h | h | h
    · have hj : j - i = (j - (i + 1)) + 1 := by omega
      have h1 : i + 1 ≤ j := h
      rw [hj, List.getElem?_cons_succ]
      simp [h1, h.le, h.ne]
    · subst h
      simp
    · have h1 : ¬ i + 1 ≤ j := by omega
      have h2 : ¬ i ≤ j := by omega
      simp [h1, h2, h.ne']

lemma bitAt_nullBitmap (p : ComStmtExecutePacket) (j : ℕ) :
    bitAt p.nullBitmap j = (p.params[j]?).any Value.isNull := by
  have hlen : 0 + p.params.length ≤
      8 * (List.replicate p.nullBitmapTraits.byteCount (0 : UInt8)).length := by
    simp only [List.length_replicate, NullBitmapTraits.byteCount,
      ComStmtExecutePacket.nullBitmapTraits]
    omega
  have h0 : bitAt (List.replicate p.nullBitmapTraits.byteCount 0) j = false := by
    simp only [bitAt, List.getD_eq_getElem?_getD, List.getElem?_replicate]
    split_ifs <;> simp
  rw [ComStmtExecutePacket.nullBitmap, bitAt_setNulls rfl hlen, h0]
  simp

/-! ### The sections of the message -/

lemma expect_reads (b : UInt8) : Reads (expect b) (serializeInt1 b) () := by
  refine (int1_reads b).bind_pure ?_
  rw [if_pos rfl]
  exact reads_pure ()

/-- The type and the sign a parameter is sent with. -/
def paramType (v : Value) : ProtocolFieldType × Bool := (getProtocolFieldType v, isUnsigned v)

lemma ofCode_getProtocolFieldType (v : Value) :
    .ofCode (getProtocolFieldType v).code = getProtocolFieldType v := by
  cases v <;> rfl

lemma types_read (params : List Value) :
    Reads (parseTypes params.length) (params.flatMap serializeParamMeta)
      (params.map paramType) := by
  induction params with
  | nil => exact reads_pure []
  | cons v params ih =>
    rw [List.flatMap_cons, serializeParamMeta, List.append_assoc]
    refine (int1_reads _).bind ((int1_reads _).bind (ih.bind_pure ?_))
    have hu : decide ((if isUnsigned v then 0x80 else 0 : UInt8) = 0x80) = isUnsigned v := by
      cases isUnsigned v <;> rfl
    rw [ofCode_getProtocolFieldType, hu]
    exact reads_pure _

/-- The value section has nothing for the NULLs, and the bitmap says where they are. -/
lemma values_read {bitmap : Bytes} {params : List Value} {i : ℕ}
    (hr : ∀ v ∈ params, v.InRange)
    (hb : ∀ j, bitAt bitmap (i + j) = (params[j]?).any Value.isNull) :
    Reads (parseValues bitmap i (params.map paramType)) (params.flatMap serializeBinaryValue)
      params := by
  induction params generalizing i with
  | nil => exact reads_pure []
  | cons v params ih =>
    have h0 : bitAt bitmap i = v.isNull := by simpa using hb 0
    have htail : Reads (parseValues bitmap (i + 1) (params.map paramType))
        (params.flatMap serializeBinaryValue) params :=
      ih (fun w hw => hr w (by simp [hw])) fun j => by
        have := hb (j + 1)
        rwa [List.getElem?_cons_succ, show i + (j + 1) = i + 1 + j by omega] at this
    rw [List.flatMap_cons, List.map_cons, paramType, parseValues, h0]
    by_cases hn : v = .null
    · subst hn
      exact (reads_pure Value.null).bind (htail.bind_pure (reads_pure _))
    · rw [if_neg (by simpa [Value.isNull] using hn)]
      have hhead := binaryValue_reads hn (hr v (by simp)) rfl (typedField_isUnsigned _ _)
      exact hhead.bind (htail.bind_pure (reads_pure _))

/-- The message of an execution, read by its layout. -/
lemma execution_reads (statementId : UInt32) {params : List Value} (caps : Capabilities)
    (hr : ∀ v ∈ params, v.InRange) :
    Reads (parseExecution params.length)
      (Serializable.serialize caps (makeStmtExecutePacket statementId params))
      (statementId, params) := by
  set p := makeStmtExecutePacket statementId params with hp
  have hbl : p.nullBitmap.length = (params.length + 7) / 8 := by
    rw [nullBitmap_length]
    rfl
  have hbits : ∀ j, bitAt p.nullBitmap (0 + j) = (params[j]?).any Value.isNull := by
    intro j
    rw [Nat.zero_add]
    exact bitAt_nullBitmap p j
  simp only [Serializable.serialize, List.append_assoc]
  exact (expect_reads _).bind ((int4_reads _).bind ((int1_reads _).bind ((int4_reads _).bind
    ((takeN_reads' _ hbl).bind ((expect_reads _).bind ((types_read params).bind
      ((values_read hr hbits).bind_pure (reads_pure _))))))))

/-- The program gets to a message, and a server reads from it the statement and the values. -/
def ReadBack (ndebug : Bool) (statementId : UInt32) (params : List Value) (caps : Capabilities)
    (buffer : Bytes) : Prop :=
  ∃ message, executeMessage ndebug statementId params caps buffer = some message ∧
    parseExecution params.length message = .ok ((statementId, params), [])

/-- With the assertions compiled in, a message is reached for at most 255 parameters. -/
lemma executeMessage_isSome_iff (ndebug : Bool) (statementId : UInt32) (params : List Value)
    (caps : Capabilities) (buffer : Bytes) :
    (executeMessage ndebug statementId params caps buffer).isSome = true ↔
      ndebug = true ∨ params.length ≤ 255 := by
  have := executeAssertions_iff (makeStmtExecutePacket statementId params) caps
  simp only [makeStmtExecutePacket] at this
  simp [executeMessage, makeStmtExecutePacket, this]

/-- **Executions are read back**, unless the program ends before: it does when its assertions
are compiled in and there are more than 255 parameters. -/
theorem execution_readBack_iff (ndebug : Bool) (statementId : UInt32) {params : List Value}
    (hr : ∀ v ∈ params, v.InRange) (caps : Capabilities) (buffer : Bytes) :
    ReadBack ndebug statementId params caps buffer ↔ ndebug = true ∨ params.length ≤ 255 := by
  rw [← executeMessage_isSome_iff ndebug statementId params caps buffer]
  constructor
  · rintro ⟨message, h, -⟩
    rw [h]
    rfl
  · intro h
    obtain ⟨message, hm⟩ := Option.isSome_iff_exists.mp h
    refine ⟨message, hm, ?_⟩
    have heq : message = Serializable.serialize caps (makeStmtExecutePacket statementId params) := by
      rw [← serializeMessage_eq _ _ buffer]
      simp only [executeMessage, Option.ite_none_right_eq_some, Option.some.injEq] at hm
      exact hm.2.symm
    rw [heq]
    exact (execution_reads statementId caps hr).exact

theorem execution_readBack_iff_null :
    ReadBack false 1 [.null, .int64 5] .none [] ↔
      false = true ∨ [Value.null, .int64 5].length ≤ 255 :=
  execution_readBack_iff false 1 (by decide) .none []

/-- A statement with 256 parameters is not executed: all of them NULL, assertions on. -/
theorem execution_256_not_readBack :
    ¬ ReadBack false 1 (List.replicate 256 .null) .none [] := by
  rintro ⟨message, h, -⟩
  have hle := (executeMessage_isSome_iff false 1 (List.replicate 256 .null) .none []).mp
    (by rw [h]; rfl)
  rw [List.length_replicate] at hle
  rcases hle with h | h
  · cases h
  · omega

end MysqlAsio.StatementExecution
