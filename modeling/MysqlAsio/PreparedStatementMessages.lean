import MysqlAsio.BinarySerialization
import MysqlAsio.NullBitmap

/-!
The commands of a session and the response to a prepare.
-/

namespace MysqlAsio.PreparedStatementMessages

open MysqlAsio.Errors MysqlAsio.Serialization MysqlAsio.CommonMessages MysqlAsio.Values
open MysqlAsio.BinarySerialization MysqlAsio.NullBitmap MysqlAsio.Lib.Decoding

def getProtocolFieldType : Value → ProtocolFieldType
  | .int64 _ | .uint64 _ => .longlong
  | .string _ => .varchar
  | .float _ => .float
  | .double _ => .double
  | .date _ => .date
  | .datetime _ => .datetime
  | .time _ => .time
  | .null => .null

def isUnsigned : Value → Bool
  | .uint64 _ => true
  | _ => false

/-! ### Queries, prepares and closes -/

structure ComQueryPacket where
  query : Bytes
  deriving DecidableEq, Repr

instance : Serializable ComQueryPacket where
  getSize _ p := 1 + sizeStringEof p.query
  serialize _ p := serializeInt1 3 ++ serializeStringEof p.query

instance : LawfulSerializable ComQueryPacket where
  serialize_length _ p := by
    simp [Serializable.serialize, Serializable.getSize, serializeStringEof, sizeStringEof]

structure ComStmtPreparePacket where
  statement : Bytes
  deriving DecidableEq, Repr

instance : Serializable ComStmtPreparePacket where
  getSize _ p := 1 + sizeStringEof p.statement
  serialize _ p := serializeInt1 0x16 ++ serializeStringEof p.statement

instance : LawfulSerializable ComStmtPreparePacket where
  serialize_length _ p := by
    simp [Serializable.serialize, Serializable.getSize, serializeStringEof, sizeStringEof]

structure ComStmtClosePacket where
  statementId : UInt32
  deriving DecidableEq, Repr

instance : Serializable ComStmtClosePacket where
  getSize _ _ := 1 + 4
  serialize _ p := serializeInt1 0x19 ++ serializeInt4 p.statementId

instance : LawfulSerializable ComStmtClosePacket where
  serialize_length _ p := by simp [Serializable.serialize, Serializable.getSize]

structure ComStmtPrepareOkPacket where
  statementId : UInt32
  numColumns : UInt16
  numParams : UInt16
  warningCount : UInt16
  deriving DecidableEq, Repr

def ComStmtPrepareOkPacket.default : ComStmtPrepareOkPacket := ⟨0, 0, 0, 0⟩

def deserializeComStmtPrepareOkPacket : Deserializer ComStmtPrepareOkPacket := do
  let statementId ← deserializeInt4
  let numColumns ← deserializeInt2
  let numParams ← deserializeInt2
  let _reserved ← deserializeInt1
  let warningCount ← deserializeInt2
  pure ⟨statementId, numColumns, numParams, warningCount⟩

/-- The body of a prepare response as a server encodes it, after its header byte. -/
def encodePrepareOk (p : ComStmtPrepareOkPacket) : Bytes :=
  serializeInt4 p.statementId ++ (serializeInt2 p.numColumns ++ (serializeInt2 p.numParams ++
    (serializeInt1 0 ++ serializeInt2 p.warningCount)))

theorem prepareOk_reads (p : ComStmtPrepareOkPacket) :
    Reads deserializeComStmtPrepareOkPacket (encodePrepareOk p) p :=
  (int4_reads _).bind ((int2_reads _).bind ((int2_reads _).bind ((int1_reads 0).bind
    ((int2_reads _).bind_pure (reads_pure p)))))

/-! ### Executions -/

/-- The parameters are those of the iterator range. -/
structure ComStmtExecutePacket where
  statementId : UInt32
  flags : UInt8
  iterationCount : UInt32
  newParamsBindFlag : UInt8
  params : List Value
  deriving DecidableEq, Repr

def ComStmtExecutePacket.nullBitmapTraits (p : ComStmtExecutePacket) : NullBitmapTraits :=
  ⟨stmtExecuteNullBitmapOffset, p.params.length⟩

/-- Mark the NULLs among the parameters from the `i`-th on. -/
def setNulls (traits : NullBitmapTraits) : ℕ → List Value → Bytes → Bytes
  | _, [], bitmap => bitmap
  | i, v :: params, bitmap =>
    setNulls traits (i + 1) params (if v.isNull then traits.setNull bitmap i else bitmap)

def ComStmtExecutePacket.nullBitmap (p : ComStmtExecutePacket) : Bytes :=
  setNulls p.nullBitmapTraits 0 p.params (List.replicate p.nullBitmapTraits.byteCount 0)

/-- `com_stmt_execute_param_meta_packet`. -/
def serializeParamMeta (v : Value) : Bytes :=
  serializeInt1 (getProtocolFieldType v).code ++
    serializeInt1 (if isUnsigned v then 0x80 else 0)

instance : Serializable ComStmtExecutePacket where
  getSize _ p := 1 + (4 + 1 + 4) + p.nullBitmapTraits.byteCount + 1 + 2 * p.params.length +
    (p.params.map getBinaryValueSize).sum
  serialize _ p :=
    serializeInt1 0x17 ++ serializeInt4 p.statementId ++ serializeInt1 p.flags ++
      serializeInt4 p.iterationCount ++ p.nullBitmap ++ serializeInt1 p.newParamsBindFlag ++
      p.params.flatMap serializeParamMeta ++ p.params.flatMap serializeBinaryValue

/-- The assertion on the number of parameters, made both in `get_size_` and in
`serialize_`. -/
def numParamsAssertion (p : ComStmtExecutePacket) : Bool := p.params.length ≤ 255

def makeStmtExecutePacket (statementId : UInt32) (params : List Value) : ComStmtExecutePacket :=
  ⟨statementId, 0, 1, 1, params⟩

@[simp] lemma setNull_length (traits : NullBitmapTraits) (bitmap : Bytes) (i : ℕ) :
    (traits.setNull bitmap i).length = bitmap.length := by
  simp [NullBitmapTraits.setNull]

@[simp] lemma setNulls_length (traits : NullBitmapTraits) (i : ℕ) (params : List Value)
    (bitmap : Bytes) : (setNulls traits i params bitmap).length = bitmap.length := by
  induction params generalizing i bitmap with
  | nil => rfl
  | cons v params ih =>
    rw [setNulls, ih]
    split_ifs <;> simp

@[simp] lemma nullBitmap_length (p : ComStmtExecutePacket) :
    p.nullBitmap.length = p.nullBitmapTraits.byteCount := by
  simp [ComStmtExecutePacket.nullBitmap]

@[simp] lemma serializeParamMeta_length (v : Value) : (serializeParamMeta v).length = 2 := by
  simp [serializeParamMeta]

instance : LawfulSerializable ComStmtExecutePacket where
  serialize_length _ p := by
    have hm : (p.params.map fun v => (serializeParamMeta v).length).sum =
        2 * p.params.length := by
      simp [mul_comm]
    have hv : (p.params.map fun v => (serializeBinaryValue v).length).sum =
        (p.params.map getBinaryValueSize).sum := by
      simp [serializeBinaryValue_length]
    simp only [Serializable.serialize, Serializable.getSize, List.length_append,
      List.length_flatMap, serializeInt1_length, serializeInt4_length, nullBitmap_length, hm, hv]

end MysqlAsio.PreparedStatementMessages
