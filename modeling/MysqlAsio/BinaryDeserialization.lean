import MysqlAsio.BinarySerialization
import MysqlAsio.NullBitmap

/-!
The binary encoding of the rows of a statement's resultset.
-/

namespace MysqlAsio.BinaryDeserialization

open MysqlAsio.Errors MysqlAsio.Serialization MysqlAsio.CommonMessages MysqlAsio.Values
open MysqlAsio.BinarySerialization MysqlAsio.Lib.Civil MysqlAsio.Lib.Decoding
open MysqlAsio.NullBitmap

/-- A fixed-size integer, widened to the 64 bits of its signedness. -/
def deserializeBinaryValueInt {U S : Type} (unsigned : Deserializer U) (signed : Deserializer S)
    (toUInt64 : U → UInt64) (toInt64 : S → Int64) (fieldMeta : FieldMetadata) :
    Deserializer Value :=
  if fieldMeta.isUnsigned then (fun v => .uint64 (toUInt64 v)) <$> unsigned
  else (fun v => .int64 (toInt64 v)) <$> signed

/-- The bytes of a number that must be finite. -/
def deserializeBinaryValueFloat {T : Type} (bits : Deserializer T) (notFinite : T → Bool)
    (value : T → Value) : Deserializer Value := do
  let v ← bits
  if notFinite v then throw .protocolValueError else pure (value v)

def deserializeBinaryYmd : Deserializer YearMonthDay := do
  let year ← deserializeInt2
  let month ← deserializeInt1
  let day ← deserializeInt1
  if year.toNat > maxYear ∨ month.toNat > maxMonth ∨ day.toNat > maxDay then
    throw .protocolValueError
  else
    pure ⟨year.toNat, month.toNat, day.toNat⟩

/-- Zero dates and invalid ones are represented as NULL. -/
def deserializeBinaryValueDate : Deserializer Value := do
  let length ← deserializeInt1
  if length.toNat < dateSz then pure .null
  else
    let ymd ← deserializeBinaryYmd
    if !ymd.ok then pure .null
    else if isOutOfRange (toDays ymd) then throw .protocolValueError
    else pure (.date (toDays ymd))

/-- The components a short form leaves out are zero. The time of day is checked before the
date, so that an invalid date with an invalid time of day is an error. -/
def deserializeBinaryValueDatetime : Deserializer Value := do
  let length ← deserializeInt1
  let ymd ← if length.toNat ≥ datetimeDSz then deserializeBinaryYmd else pure ⟨0, 0, 0⟩
  let (hours, minutes, seconds) ←
    if length.toNat ≥ datetimeDhmsSz then do
      let hours ← deserializeInt1
      let minutes ← deserializeInt1
      let seconds ← deserializeInt1
      pure (hours, minutes, seconds)
    else pure (0, 0, 0)
  let micros ← if length.toNat ≥ datetimeDhmsuSz then deserializeInt4 else pure 0
  if hours.toNat > maxHour ∨ minutes.toNat > maxMin ∨ seconds.toNat > maxSec ∨
      micros.toNat > maxMicro then throw .protocolValueError
  else if !ymd.ok then pure .null
  else if isOutOfRange (toDays ymd) then throw .protocolValueError
  else
    let timeOfDay := hours.toNat * hour + minutes.toNat * minute + seconds.toNat * second +
      micros.toNat
    pure (.datetime (toDays ymd * day + timeOfDay))

def deserializeBinaryValueTime : Deserializer Value := do
  let length ← deserializeInt1
  let (isNegative, days, hours, minutes, seconds) ←
    if length.toNat ≥ timeDhmsSz then do
      let isNegative ← deserializeInt1
      let days ← deserializeInt4
      let hours ← deserializeInt1
      let minutes ← deserializeInt1
      let seconds ← deserializeInt1
      pure (isNegative, days, hours, minutes, seconds)
    else pure (0, 0, 0, 0, 0)
  let microseconds ← if length.toNat ≥ timeDhmsuSz then deserializeInt4 else pure 0
  if days.toNat > timeMaxDays ∨ hours.toNat > maxHour ∨ minutes.toNat > maxMin ∨
      seconds.toNat > maxSec ∨ microseconds.toNat > maxMicro then throw .protocolValueError
  else
    let sum := days.toNat * day + hours.toNat * hour + minutes.toNat * minute +
      seconds.toNat * second + microseconds.toNat
    pure (.time ((if isNegative ≠ 0 then -1 else 1) * (sum : ℤ)))

def deserializeBinaryValue (fieldMeta : FieldMetadata) : Deserializer Value :=
  match fieldMeta.protocolType with
  | .tiny =>
    deserializeBinaryValueInt deserializeInt1 deserializeInt1Signed (·.toUInt64) (·.toInt64)
      fieldMeta
  | .short | .year =>
    deserializeBinaryValueInt deserializeInt2 deserializeInt2Signed (·.toUInt64) (·.toInt64)
      fieldMeta
  | .int24 | .long =>
    deserializeBinaryValueInt deserializeInt4 deserializeInt4Signed (·.toUInt64) (·.toInt64)
      fieldMeta
  | .longlong =>
    deserializeBinaryValueInt deserializeInt8 deserializeInt8Signed id id fieldMeta
  | .float => deserializeBinaryValueFloat deserializeInt4 floatNotFinite .float
  | .double => deserializeBinaryValueFloat deserializeInt8 doubleNotFinite .double
  | .timestamp | .datetime => deserializeBinaryValueDatetime
  | .date => deserializeBinaryValueDate
  | .time => deserializeBinaryValueTime
  -- true string types, and anything the client does not know how to interpret
  | _ => Value.string <$> deserializeStringLenenc

/-- The values of the fields from the `i`-th on; NULLs are in the bitmap only. -/
def deserializeBinaryFields (traits : NullBitmapTraits) (bitmap : Bytes) :
    ℕ → List FieldMetadata → Deserializer (List Value)
  | _, [] => pure []
  | i, field :: fields => do
    let value ← if traits.isNull bitmap i then pure .null else deserializeBinaryValue field
    let values ← deserializeBinaryFields traits bitmap (i + 1) fields
    pure (value :: values)

/-- The first byte is the message type, which the caller has checked to be there. -/
def deserializeBinaryRow (ctx : DeserializationContext) (fields : List FieldMetadata) :
    Except ErrorCode (List Value) :=
  let left := ctx.first.drop 1
  let traits : NullBitmapTraits := ⟨binaryRowNullBitmapOffset, fields.length⟩
  if left.length < traits.byteCount then .error (makeErrorCode .incompleteMessage)
  else
    let bitmap := left.take traits.byteCount
    deserializeMessage (deserializeBinaryFields traits bitmap 0 fields)
      { ctx with first := left.drop traits.byteCount }

end MysqlAsio.BinaryDeserialization
