import MysqlAsio.ReadRow

/-!
The text encoding of the rows of a query's resultset.
-/

namespace MysqlAsio.TextDeserialization

open MysqlAsio.Errors MysqlAsio.Serialization MysqlAsio.CommonMessages MysqlAsio.Values
open MysqlAsio.ReadRow MysqlAsio.Lib.Civil MysqlAsio.Lib.Decoding

/-- `boost::conversion::try_lexical_convert`, to each of the types it is used with. -/
structure LexicalConvert where
  toInt64 : Bytes → Option Int64
  toUInt64 : Bytes → Option UInt64
  /-- The bit pattern of the result. -/
  toFloat : Bytes → Option UInt32
  toDouble : Bytes → Option UInt64

/-! ### `namespace textc` -/

def maxDecimals : ℕ := 6
def dateSz : ℕ := 4 + 2 + 2 + 2
def timeMinSz : ℕ := 2 + 2 + 2 + 2
def datetimeMinSz : ℕ := dateSz + timeMinSz + 1
def timeMaxHour : ℕ := 838

/-! ### `sscanf` -/

/-- What `sscanf` sees of a buffer that ends in NUL. -/
def cString (buffer : Bytes) : Bytes := buffer.takeWhile (· ≠ 0)

def isSpace (b : UInt8) : Bool := b = 0x20 || (9 ≤ b && b ≤ 13)
def isDigit (b : UInt8) : Bool := 0x30 ≤ b && b ≤ 0x39

def digitsValue (digits : Bytes) : ℕ := digits.foldl (fun n b => 10 * n + (b.toNat - 0x30)) 0

/-- `%Nu`: spaces are skipped, and the sign, which counts for the width, may be a minus. -/
def scanUnsigned (width : ℕ) (s : Bytes) : Option (UInt32 × Bytes) :=
  let s := s.dropWhile isSpace
  let field := s.take width
  let sign := field.takeWhile fun b => b = 0x2b || b = 0x2d
  let digits := (field.drop sign.length).takeWhile isDigit
  if digits = [] ∨ 1 < sign.length then none
  else
    let n : UInt32 := .ofNat (digitsValue digits)
    some (if sign = [0x2d] then -n else n, s.drop (sign.length + digits.length))

/-- A character of the format that stands for itself. -/
def scanLiteral (c : UInt8) : Bytes → Option Bytes
  | b :: s => if b = c then some s else none
  | [] => none

/-- Numbers of the given widths, each but the first after its separator, and nothing after
them: `sscanf` converts all of them and has no character left for a final `%c`. -/
def scanNumbers : List (UInt8 × ℕ) → Bytes → Option (List UInt32)
  | [], s => if s = [] then some [] else none
  | (c, width) :: fields, s => do
    let s ← scanLiteral c s
    let (n, s) ← scanUnsigned width s
    let ns ← scanNumbers fields s
    pure (n :: ns)

/-- `sscanf` with a format of numbers, separators and a final `%c`. -/
def sscanf (width : ℕ) (fields : List (UInt8 × ℕ)) (buffer : Bytes) : Option (List UInt32) := do
  let (n, s) ← scanUnsigned width (cString buffer)
  let ns ← scanNumbers fields s
  pure (n :: ns)

def dash : UInt8 := 0x2d
def colon : UInt8 := 0x3a
def dot : UInt8 := 0x2e

/-! ### Values -/

def deserializeTextValueInt (lexical : LexicalConvert) (source : Bytes)
    (fieldMeta : FieldMetadata) : Except Errc Value :=
  if fieldMeta.isUnsigned then
    match lexical.toUInt64 source with
    | some v => .ok (.uint64 v)
    | none => .error .protocolValueError
  else
    match lexical.toInt64 source with
    | some v => .ok (.int64 v)
    | none => .error .protocolValueError

/-- A number that must be finite. -/
def deserializeTextValueFloat {T : Type} (convert : Bytes → Option T) (notFinite : T → Bool)
    (value : T → Value) (source : Bytes) : Except Errc Value :=
  match convert source with
  | some v => if notFinite v then .error .protocolValueError else .ok (value v)
  | none => .error .protocolValueError

def deserializeTextValueString (source : Bytes) : Except Errc Value := .ok (.string source)

def sanitizeDecimals (decimals : ℕ) : ℕ := min decimals maxDecimals

/-- 85 with 2 decimals means 850000 microseconds; the product is that of `unsigned`. -/
def computeMicros (parsedMicros : UInt32) (decimals : ℕ) : UInt32 :=
  parsedMicros * .ofNat (10 ^ (maxDecimals - decimals))

def deserializeTextYmd (source : Bytes) : Except Errc YearMonthDay :=
  if source.length ≠ dateSz then .error .protocolValueError
  else
    match sscanf 4 [(dash, 2), (dash, 2)] source with
    | some [year, month, day] =>
      if year.toNat > maxYear ∨ month.toNat > maxMonth ∨ day.toNat > maxDay then
        .error .protocolValueError
      else .ok ⟨year.toNat, month.toNat, day.toNat⟩
    | _ => .error .protocolValueError

/-- Zero dates and invalid ones are represented as NULL. -/
def deserializeTextValueDate (source : Bytes) : Except Errc Value := do
  let ymd ← deserializeTextYmd source
  if !ymd.ok then pure .null
  else if isOutOfRange (toDays ymd) then throw .protocolValueError
  else pure (.date (toDays ymd))

/-- Hours, minutes, seconds and microseconds; these are there only if there are decimals. -/
def scanTime (hoursWidth decimals : ℕ) (buffer : Bytes) :
    Option (UInt32 × UInt32 × UInt32 × UInt32) :=
  if decimals ≠ 0 then
    match sscanf hoursWidth [(colon, 2), (colon, 2), (dot, 6)] buffer with
    | some [hours, minutes, seconds, micros] =>
      some (hours, minutes, seconds, computeMicros micros decimals)
    | _ => none
  else
    match sscanf hoursWidth [(colon, 2), (colon, 2)] buffer with
    | some [hours, minutes, seconds] => some (hours, minutes, seconds, 0)
    | _ => none

/-- The time of day is checked before the date, so that an invalid date with an invalid time
of day is an error. -/
def deserializeTextValueDatetime (source : Bytes) (fieldMeta : FieldMetadata) :
    Except Errc Value := do
  let decimals := sanitizeDecimals fieldMeta.decimals
  let expectedSize := datetimeMinSz + if decimals ≠ 0 then decimals + 1 else 0
  if source.length ≠ expectedSize then throw .protocolValueError
  let ymd ← deserializeTextYmd (source.take dateSz)
  match scanTime 2 decimals (source.drop (dateSz + 1)) with
  | none => throw .protocolValueError
  | some (hours, minutes, seconds, micros) =>
    if hours.toNat > maxHour ∨ minutes.toNat > maxMin ∨ seconds.toNat > maxSec ∨
        micros.toNat > maxMicro then throw .protocolValueError
    else if !ymd.ok then pure .null
    else if isOutOfRange (toDays ymd) then throw .protocolValueError
    else
      let timeOfDay := hours.toNat * hour + minutes.toNat * minute + seconds.toNat * second +
        micros.toNat
      pure (.datetime (toDays ymd * day + timeOfDay))

def deserializeTextValueTime (source : Bytes) (fieldMeta : FieldMetadata) : Except Errc Value :=
  let decimals := sanitizeDecimals fieldMeta.decimals
  let actualMinSize := timeMinSz + if decimals ≠ 0 then decimals + 1 else 0
  let actualMaxSize := actualMinSize + 1 + 1
  if source.length < actualMinSize ∨ source.length > actualMaxSize then
    .error .protocolValueError
  else
    let isNegative : Bool := source.head? = some dash
    match scanTime 3 decimals (if isNegative then source.drop 1 else source) with
    | none => .error .protocolValueError
    | some (hours, minutes, seconds, micros) =>
      if hours.toNat > timeMaxHour ∨ minutes.toNat > maxMin ∨ seconds.toNat > maxSec ∨
          micros.toNat > maxMicro then .error .protocolValueError
      else
        let res := hours.toNat * hour + minutes.toNat * minute + seconds.toNat * second +
          micros.toNat
        .ok (.time (if isNegative then -(res : ℤ) else res))

def deserializeTextValue (lexical : LexicalConvert) (source : Bytes)
    (fieldMeta : FieldMetadata) : Except Errc Value :=
  match fieldMeta.protocolType with
  | .tiny | .short | .int24 | .long | .year | .longlong =>
    deserializeTextValueInt lexical source fieldMeta
  | .float => deserializeTextValueFloat lexical.toFloat floatNotFinite .float source
  | .double => deserializeTextValueFloat lexical.toDouble doubleNotFinite .double source
  | .timestamp | .datetime => deserializeTextValueDatetime source fieldMeta
  | .date => deserializeTextValueDate source
  | .time => deserializeTextValueTime source fieldMeta
  -- true string types, and anything the client does not know how to interpret
  | _ => deserializeTextValueString source

/-! ### Rows -/

def isNextFieldNull (left : Bytes) : Bool := left.head? = some 0xfb

def deserializeTextFields (lexical : LexicalConvert) :
    List FieldMetadata → Deserializer (List Value)
  | [] => pure []
  | field :: fields => do
    let left ← get
    if isNextFieldNull left then
      let _null ← deserializeInt1
      let values ← deserializeTextFields lexical fields
      pure (.null :: values)
    else
      let valueStr ← deserializeStringLenenc
      let value ← (deserializeTextValue lexical valueStr field : Except Errc Value)
      let values ← deserializeTextFields lexical fields
      pure (value :: values)

def deserializeTextRow (lexical : LexicalConvert) (ctx : DeserializationContext)
    (fields : List FieldMetadata) : Except ErrorCode (List Value) :=
  deserializeMessage (deserializeTextFields lexical fields) ctx

/-- A string is not taken for a NULL. -/
lemma isNextFieldNull_stringLenenc (s rest : Bytes) :
    isNextFieldNull (serializeStringLenenc s ++ rest) = false := by
  obtain ⟨b, t, hb, -, hne, -⟩ := serializeIntLenenc_head (.ofNat s.length)
  simp [isNextFieldNull, serializeStringLenenc, hb, hne]

lemma deserializeTextRow_string (lexical : LexicalConvert) {s : Bytes} (h : s.length < 2 ^ 64)
    (caps : Capabilities) {field : FieldMetadata} (hf : field.protocolType = .varchar) :
    deserializeTextRow lexical ⟨serializeStringLenenc s, caps⟩ [field] = .ok [.string s] := by
  refine deserializeMessage_ok ?_
  have hn := isNextFieldNull_stringLenenc s []
  rw [List.append_nil] at hn
  have hv : deserializeTextValue lexical s field = .ok (.string s) := by
    rw [deserializeTextValue, hf]
    rfl
  rw [deserializeTextFields, get_bind, hn, if_neg (by decide), bind_ok (stringLenenc_reads h).exact,
    hv]
  rfl

end MysqlAsio.TextDeserialization
