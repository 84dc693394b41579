import MysqlAsio.Values

/-!
The binary encoding of the parameters of a prepared statement.
-/

namespace MysqlAsio.BinarySerialization

open MysqlAsio.Errors MysqlAsio.Serialization MysqlAsio.CommonMessages MysqlAsio.Values
open MysqlAsio.Lib.Civil

/-! ### `namespace binc` -/

def lengthSz : ℕ := 1
def dateSz : ℕ := 4
def datetimeDSz : ℕ := dateSz
def datetimeDhmsSz : ℕ := datetimeDSz + 3
def datetimeDhmsuSz : ℕ := datetimeDhmsSz + 4
def timeDhmsSz : ℕ := 8
def timeDhmsuSz : ℕ := timeDhmsSz + 4
def timeMaxDays : ℕ := 34

def serializeBinaryYmd (ymd : YearMonthDay) : Bytes :=
  serializeInt2 (.ofInt ymd.year) ++ serializeInt1 (.ofNat ymd.month) ++
    serializeInt1 (.ofNat ymd.day)

def serializeDate (input : ℤ) : Bytes :=
  serializeInt1 (.ofNat dateSz) ++ serializeBinaryYmd (ofDays input)

/-- The days are rounded down, so that the time of day is never negative. -/
def serializeDatetime (input : ℤ) : Bytes :=
  let days := input / day
  let tod := (input - days * day).toNat
  serializeInt1 (.ofNat datetimeDhmsuSz) ++ serializeBinaryYmd (ofDays days) ++
    serializeInt1 (.ofNat (tod / hour)) ++ serializeInt1 (.ofNat (tod % hour / minute)) ++
    serializeInt1 (.ofNat (tod % minute / second)) ++ serializeInt4 (.ofNat (tod % second))

/-- The parts are rounded towards zero, so that they all have the sign of the whole. -/
def serializeTime (input : ℤ) : Bytes :=
  let days := input.tdiv day
  let hours := (input.tmod day).tdiv hour
  let minutes := (input.tmod hour).tdiv minute
  let seconds := (input.tmod minute).tdiv second
  let microseconds := input.tmod second
  serializeInt1 (.ofNat timeDhmsuSz) ++ serializeInt1 (if input < 0 then 1 else 0) ++
    serializeInt4 (.ofNat days.natAbs) ++ serializeInt1 (.ofNat hours.natAbs) ++
    serializeInt1 (.ofNat minutes.natAbs) ++ serializeInt1 (.ofNat seconds.natAbs) ++
    serializeInt4 (.ofNat microseconds.natAbs)

/-- `serialize_visitor`. -/
def serializeBinaryValue : Value → Bytes
  | .null => []
  | .int64 v => serializeInt8Signed v
  | .uint64 v => serializeInt8 v
  | .string v => serializeStringLenenc v
  | .float bits => serializeInt4 bits
  | .double bits => serializeInt8 bits
  | .date d => serializeDate d
  | .datetime t => serializeDatetime t
  | .time t => serializeTime t

/-- `size_visitor`. -/
def getBinaryValueSize : Value → ℕ
  | .null => 0
  | .int64 _ | .uint64 _ | .double _ => 8
  | .float _ => 4
  | .string v => sizeStringLenenc v
  | .date _ => dateSz + lengthSz
  | .datetime _ => datetimeDhmsuSz + lengthSz
  | .time _ => timeDhmsuSz + lengthSz

/-- The assertions on the way: the date of a date or a datetime is one. -/
def serializeBinaryValueAssertion : Value → Bool
  | .date d => (ofDays d).ok
  | .datetime t => (ofDays (t / day)).ok
  | _ => true

@[simp] lemma serializeBinaryYmd_length (ymd : YearMonthDay) :
    (serializeBinaryYmd ymd).length = dateSz := by
  simp [serializeBinaryYmd, dateSz]

/-- **The computed size is the number of bytes written.** -/
theorem serializeBinaryValue_length (v : Value) :
    (serializeBinaryValue v).length = getBinaryValueSize v := by
  cases v with
  | null | int64 | uint64 | float | double => simp [serializeBinaryValue, getBinaryValueSize]
  | string v => exact stringLenenc_length v
  | date | datetime | time =>
    simp [serializeBinaryValue, getBinaryValueSize, serializeDate, serializeDatetime,
      serializeTime, dateSz, datetimeDhmsuSz, datetimeDhmsSz, datetimeDSz, timeDhmsuSz,
      timeDhmsSz, lengthSz]

/-- The assertions hold: every number of days is that of a date. -/
theorem serializeBinaryValueAssertion_holds (v : Value) :
    serializeBinaryValueAssertion v = true := by
  cases v <;> simp [serializeBinaryValueAssertion, (ofDays_ok_toDays _).1]

end MysqlAsio.BinarySerialization
