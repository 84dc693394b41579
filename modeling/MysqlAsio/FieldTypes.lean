import MysqlAsio.Lives
import MysqlAsio.TemporalRanges

/-!
The types of fields, and the values of the rows of a resultset.

The documentation of the values lists, for each type of field, the alternative its values have.
Rows are decoded by the type of the protocol instead; fields are typed by that and their flags.
-/

namespace MysqlAsio.FieldTypes

open MysqlAsio.Errors MysqlAsio.Serialization MysqlAsio.CommonMessages MysqlAsio.Auth
open MysqlAsio.Values MysqlAsio.PreparedStatementMessages MysqlAsio.BinaryDeserialization
open MysqlAsio.TextDeserialization MysqlAsio.Temporal MysqlAsio.TemporalRanges MysqlAsio.Channels
open MysqlAsio.Framing MysqlAsio.ReadRow MysqlAsio.Resultset MysqlAsio.Operations
open MysqlAsio.ExecuteGeneric MysqlAsio.Connection MysqlAsio.Reconnect MysqlAsio.Calls
open MysqlAsio.NullBitmap MysqlAsio.BinaryRoundTrip MysqlAsio.Streams MysqlAsio.ServerRows
open MysqlAsio.Dialogue MysqlAsio.Sessions MysqlAsio.Lives MysqlAsio.RowEncodings
open MysqlAsio.BinaryRows MysqlAsio.TemporalAgreement MysqlAsio.Lib.Decoding MysqlAsio.Lib.Programs
open MysqlAsio.Lib.Machines

/-! ### Types of fields -/

/-- `enum class field_type`. -/
inductive FieldType
  | tinyint | smallint | mediumint | int | bigint | float | double | decimal | bit | year | time
  | date | datetime | timestamp | char | varchar | binary | varbinary | text | blob | enum | set
  | geometry | unknown
  deriving DecidableEq, Repr

/-! #### `namespace column_flags` -/

def columnFlagBinary : UInt16 := 128
def columnFlagEnum : UInt16 := 256
def columnFlagSet : UInt16 := 2048

def computeFieldTypeString (flags : UInt16) : FieldType :=
  if flags &&& columnFlagSet ≠ 0 then .set
  else if flags &&& columnFlagEnum ≠ 0 then .enum
  else if flags &&& columnFlagBinary ≠ 0 then .binary
  else .char

def computeFieldTypeVarString (flags : UInt16) : FieldType :=
  if flags &&& columnFlagBinary ≠ 0 then .varbinary else .varchar

def computeFieldTypeBlob (flags : UInt16) : FieldType :=
  if flags &&& columnFlagBinary ≠ 0 then .blob else .text

def computeFieldType (protocolType : ProtocolFieldType) (flags : UInt16) : FieldType :=
  match protocolType with
  | .decimal | .newdecimal => .decimal
  | .geometry => .geometry
  | .tiny => .tinyint
  | .short => .smallint
  | .int24 => .mediumint
  | .long => .int
  | .longlong => .bigint
  | .float => .float
  | .double => .double
  | .bit => .bit
  | .date => .date
  | .datetime => .datetime
  | .timestamp => .timestamp
  | .time => .time
  | .year => .year
  | .string => computeFieldTypeString flags
  | .varString => computeFieldTypeVarString flags
  | .blob => computeFieldTypeBlob flags
  | _ => .unknown

/-- `field_metadata::type`, which is computed once. -/
def fieldType (f : FieldMetadata) : FieldType := computeFieldType f.protocolType f.msg.flags

/-! ### Alternatives -/

/-- The alternatives of `value::variant_type`, but for that of NULL. -/
inductive Alternative
  | int64 | uint64 | string | float | double | date | datetime | time
  deriving DecidableEq, Repr

/-- The alternative a value has, unless it is NULL. -/
def alternative : Value → Option Alternative
  | .null => none
  | .int64 _ => some .int64
  | .uint64 _ => some .uint64
  | .string _ => some .string
  | .float _ => some .float
  | .double _ => some .double
  | .date _ => some .date
  | .datetime _ => some .datetime
  | .time _ => some .time

/-- The alternative documented for a type of field. A YEAR is documented as a `std::uint32_t`, which
is none of them; it is unsigned. -/
def documentedAlternative (type : FieldType) (isUnsigned : Bool) : Alternative :=
  match type with
  | .tinyint | .smallint | .mediumint | .int | .bigint => if isUnsigned then .uint64 else .int64
  | .year => .uint64
  | .float => .float
  | .double => .double
  | .date => .date
  | .datetime | .timestamp => .datetime
  | .time => .time
  | .decimal | .bit | .char | .varchar | .binary | .varbinary | .text | .blob | .enum | .set
  | .geometry | .unknown => .string

/-- An integer of so many bytes, in two's complement if it is signed. -/
def OfWidth (size : ℕ) (isUnsigned : Bool) (n : ℤ) : Prop :=
  if isUnsigned then 0 ≤ n ∧ n < (256 ^ size : ℕ)
  else -(256 ^ size : ℕ) ≤ 2 * n ∧ 2 * n < (256 ^ size : ℕ)

/-- The integers documented for a type of field. -/
def DocumentedInteger (type : FieldType) (isUnsigned : Bool) (n : ℤ) : Prop :=
  match type with
  | .tinyint => OfWidth 1 isUnsigned n
  | .smallint => OfWidth 2 isUnsigned n
  | .mediumint => OfWidth 3 isUnsigned n
  | .int => OfWidth 4 isUnsigned n
  | .bigint => OfWidth 8 isUnsigned n
  | .year => n = 0 ∨ 1901 ≤ n ∧ n ≤ 2155
  | _ => False

/-- The documented range of a value for a field. -/
def Sound (f : FieldMetadata) : Value → Prop
  | .null | .string _ => True
  | .int64 v => DocumentedInteger (fieldType f) f.isUnsigned v.toInt
  | .uint64 v => DocumentedInteger (fieldType f) f.isUnsigned v.toNat
  | .float bits => floatNotFinite bits = false
  | .double bits => doubleNotFinite bits = false
  | .date d => minDate ≤ d ∧ d ≤ maxDate
  | .datetime t => minDatetime ≤ t ∧ t ≤ maxDatetime
  | .time t => minTime ≤ t ∧ t ≤ maxTime

/-- NULL, or a value of this alternative that is within limits. -/
def Holds (within : Value → Prop) (a : Alternative) (v : Value) : Prop :=
  v = .null ∨ alternative v = some a ∧ within v

/-- A value of a field as is documented. -/
def Documented (f : FieldMetadata) (v : Value) : Prop :=
  Holds (Sound f) (documentedAlternative (fieldType f) f.isUnsigned) v

/-- A value that is not: a YEAR whose field is not flagged as unsigned; an integer that is too large
for its type, as only texts have them, MEDIUMINTs and YEARs; or a TIME of the binary protocol, less
than an hour out of its range. -/
inductive Excepted (encoding : RowEncoding) (f : FieldMetadata) : Value → Prop
  | year {v : Int64} (ht : fieldType f = .year) (hu : f.isUnsigned = false) :
      Excepted encoding f (.int64 v)
  | signed {v : Int64} (hu : f.isUnsigned = false)
      (hr : ¬ DocumentedInteger (fieldType f) f.isUnsigned v.toInt)
      (he : encoding = .text ∨ fieldType f = .mediumint) : Excepted encoding f (.int64 v)
  | unsigned {v : UInt64} (hu : f.isUnsigned = true)
      (hr : ¬ DocumentedInteger (fieldType f) f.isUnsigned v.toNat)
      (he : encoding = .text ∨ fieldType f = .mediumint ∨ fieldType f = .year) :
      Excepted encoding f (.uint64 v)
  | time {t : ℤ} (ht : fieldType f = .time) (he : encoding = .binary)
      (hr : ¬ (minTime ≤ t ∧ t ≤ maxTime)) (hl : minTime - hour < t ∧ t < maxTime + hour) :
      Excepted encoding f (.time t)

/-- A value of a field, as it is documented or with an exception. -/
def WellTyped (encoding : RowEncoding) (f : FieldMetadata) (v : Value) : Prop :=
  Documented f v ∨ Excepted encoding f v

lemma wellTyped_null (encoding : RowEncoding) (f : FieldMetadata) : WellTyped encoding f .null :=
  Or.inl (Or.inl rfl)

/-! ### What the decoders ensure -/

/-- The alternative a value is decoded to. -/
def decodedAlternative (protocolType : ProtocolFieldType) (isUnsigned : Bool) : Alternative :=
  match protocolType with
  | .float => .float
  | .double => .double
  | .date => .date
  | .time => .time
  | .timestamp | .datetime => .datetime
  | .tiny | .short | .int24 | .long | .year | .longlong => if isUnsigned then .uint64 else .int64
  | _ => .string

/-- The type of a field documents what its values are decoded to, whichever flags are set, but for
YEAR. -/
lemma documented_eq_decoded {protocolType : ProtocolFieldType} (hy : protocolType ≠ .year)
    (flags : UInt16) (isUnsigned : Bool) :
    documentedAlternative (computeFieldType protocolType flags) isUnsigned =
      decodedAlternative protocolType isUnsigned := by
  cases protocolType with
  | string =>
    simp only [computeFieldType, computeFieldTypeString]
    split_ifs <;> rfl
  | varString =>
    simp only [computeFieldType, computeFieldTypeVarString]
    split_ifs <;> rfl
  | blob =>
    simp only [computeFieldType, computeFieldTypeBlob]
    split_ifs <;> rfl
  | year => exact absurd rfl hy
  | _ => rfl

/-- The limits of decoded values: integers have the width of their bytes, where they are not
texts. -/
def Within (encoding : RowEncoding) (f : FieldMetadata) : Value → Prop
  | .null | .string _ => True
  | .int64 v => encoding = .binary → ∀ size, intSize f.protocolType = some size →
      OfWidth size f.isUnsigned v.toInt
  | .uint64 v => encoding = .binary → ∀ size, intSize f.protocolType = some size →
      OfWidth size f.isUnsigned v.toNat
  | .float bits => floatNotFinite bits = false
  | .double bits => doubleNotFinite bits = false
  | .date d => minDate ≤ d ∧ d ≤ maxDate
  | .datetime t => minDatetime ≤ t ∧ t ≤ maxDatetime
  | .time t => (minTime - hour < t ∧ t < maxTime + hour) ∧
      (encoding = .text → minTime ≤ t ∧ t ≤ maxTime)

/-- Integers are decoded of the types that have a width, and by the flag of their field. -/
lemma decoded_integer {protocolType : ProtocolFieldType} {isUnsigned : Bool}
    (h : decodedAlternative protocolType isUnsigned = .int64 ∨
      decodedAlternative protocolType isUnsigned = .uint64) :
    isUnsigned = decide (decodedAlternative protocolType isUnsigned = .uint64) ∧
      ∃ size, intSize protocolType = some size := by
  revert h
  cases protocolType <;> cases isUnsigned <;> simp [decodedAlternative, intSize]

lemma decoded_time {protocolType : ProtocolFieldType} {isUnsigned : Bool}
    (h : decodedAlternative protocolType isUnsigned = .time) (flags : UInt16) :
    computeFieldType protocolType flags = .time := by
  cases protocolType <;> cases isUnsigned <;> first | rfl | cases h

section Decoded

variable {encoding : RowEncoding} {f : FieldMetadata}

/-- An integer of another type is not decoded from bytes out of its range. -/
lemma text_or_mediumint {n : ℤ} (hy : f.protocolType ≠ .year)
    (hi : ∃ size, intSize f.protocolType = some size)
    (hw : encoding = .binary → ∀ size, intSize f.protocolType = some size →
      OfWidth size f.isUnsigned n)
    (hr : ¬ DocumentedInteger (fieldType f) f.isUnsigned n) :
    encoding = .text ∨ fieldType f = .mediumint := by
  cases encoding with
  | text => exact Or.inl rfl
  | binary =>
    refine Or.inr ?_
    obtain ⟨size, hsize⟩ := hi
    have hn := hw rfl size hsize
    rw [fieldType] at hr ⊢
    cases hp : f.protocolType <;> rw [hp] at hsize hr <;> cases hsize
    -- a MEDIUMINT has four bytes here, and three in its documentation
    case binary.int24.refl => rfl
    case binary.year.refl => exact absurd hp hy
    all_goals exact absurd hn hr

/-- A YEAR is documented as unsigned, and decoded so where its field is flagged. -/
lemma wellTyped_of_year {v : Value} (hy : f.protocolType = .year)
    (ha : alternative v = some (decodedAlternative f.protocolType f.isUnsigned)) :
    WellTyped encoding f v := by
  have ht : fieldType f = .year := by rw [fieldType, hy]; rfl
  rw [hy] at ha
  cases hu : f.isUnsigned with
  | true =>
    cases v <;> simp only [alternative, decodedAlternative, hu, if_true, Option.some.injEq,
      reduceCtorEq] at ha
    case uint64 v =>
      by_cases hr : DocumentedInteger (fieldType f) f.isUnsigned v.toNat
      · exact Or.inl (Or.inr ⟨by rw [ht]; rfl, hr⟩)
      · exact Or.inr (.unsigned hu hr (Or.inr (Or.inr ht)))
  | false =>
    cases v <;> simp only [alternative, decodedAlternative, hu, Bool.false_eq_true, if_false,
      Option.some.injEq, reduceCtorEq] at ha
    exact Or.inr (.year ht hu)

lemma wellTyped_of_decoded {v : Value}
    (h : Holds (Within encoding f) (decodedAlternative f.protocolType f.isUnsigned) v) :
    WellTyped encoding f v := by
  obtain rfl | ⟨ha, hw⟩ := h
  · exact wellTyped_null encoding f
  by_cases hy : f.protocolType = .year
  · exact wellTyped_of_year hy ha
  have hdoc : documentedAlternative (fieldType f) f.isUnsigned = _ :=
    documented_eq_decoded hy f.msg.flags f.isUnsigned
  have hleft (hs : Sound f v) : Documented f v := Or.inr ⟨hdoc ▸ ha, hs⟩
  cases v with
  | null => cases ha
  | int64 v =>
    have hd := (Option.some.inj ha).symm
    obtain ⟨hu, hi⟩ := decoded_integer (Or.inl hd)
    by_cases hr : DocumentedInteger (fieldType f) f.isUnsigned v.toInt
    · exact Or.inl (hleft hr)
    · exact Or.inr (.signed (by rw [hu, hd]; rfl) hr (text_or_mediumint hy hi hw hr))
  | uint64 v =>
    have hd := (Option.some.inj ha).symm
    obtain ⟨hu, hi⟩ := decoded_integer (Or.inr hd)
    by_cases hr : DocumentedInteger (fieldType f) f.isUnsigned v.toNat
    · exact Or.inl (hleft hr)
    · exact Or.inr (.unsigned (by rw [hu, hd]; rfl) hr
        ((text_or_mediumint hy hi hw hr).imp_right Or.inl))
  | time t =>
    have ht : fieldType f = .time := decoded_time (Option.some.inj ha).symm f.msg.flags
    by_cases hr : minTime ≤ t ∧ t ≤ maxTime
    · exact Or.inl (hleft hr)
    · cases encoding with
      | text => exact absurd (hw.2 rfl) hr
      | binary => exact Or.inr (.time ht rfl hr hw.1)
  | string | float | double | date | datetime => exact Or.inl (hleft hw)

end Decoded

/-! ### Values -/

section Values

variable {f : FieldMetadata} {s t : Bytes} {v : Value}

lemma textInt_holds {lexical : LexicalConvert} (h : deserializeTextValueInt lexical s f = .ok v) :
    Holds (Within .text f) (if f.isUnsigned then .uint64 else .int64) v := by
  unfold deserializeTextValueInt at h
  split_ifs at h ⊢ with hu
  · split at h <;> cases h
    exact Or.inr ⟨rfl, nofun⟩
  · split at h <;> cases h
    exact Or.inr ⟨rfl, nofun⟩

lemma binaryInt_holds {U S : Type} {unsigned : Deserializer U} {signed : Deserializer S}
    {toUInt64 : U → UInt64} {toInt64 : S → Int64} {size : ℕ}
    (hs : intSize f.protocolType = some size)
    (hU : ∀ u, OfWidth size true (toUInt64 u).toNat)
    (hS : ∀ z, OfWidth size false (toInt64 z).toInt)
    (h : deserializeBinaryValueInt unsigned signed toUInt64 toInt64 f s = .ok (v, t)) :
    Holds (Within .binary f) (if f.isUnsigned then .uint64 else .int64) v := by
  unfold deserializeBinaryValueInt at h
  split_ifs at h ⊢ with hu
  · obtain ⟨n, -, rfl⟩ := of_map_ok h
    refine Or.inr ⟨rfl, fun _ size' hs' => ?_⟩
    rw [hs, Option.some.injEq] at hs'
    rw [hu, ← hs']
    exact hU n
  · obtain ⟨n, -, rfl⟩ := of_map_ok h
    refine Or.inr ⟨rfl, fun _ size' hs' => ?_⟩
    rw [hs, Option.some.injEq] at hs'
    rw [Bool.eq_false_iff.mpr hu, ← hs']
    exact hS n

lemma textFloat_holds {T : Type} {convert : Bytes → Option T} {notFinite : T → Bool}
    {value : T → Value} {a : Alternative} {within : Value → Prop}
    (ha : ∀ x, notFinite x = false → Holds within a (value x))
    (h : deserializeTextValueFloat convert notFinite value s = .ok v) : Holds within a v := by
  unfold deserializeTextValueFloat at h
  split at h
  · next x _ =>
    split_ifs at h with hf
    cases h
    exact ha x (Bool.eq_false_iff.mpr hf)
  · cases h

lemma binaryFloat_holds {T : Type} {bits : Deserializer T} {notFinite : T → Bool}
    {value : T → Value} {a : Alternative} {within : Value → Prop}
    (ha : ∀ x, notFinite x = false → Holds within a (value x))
    (h : deserializeBinaryValueFloat bits notFinite value s = .ok (v, t)) : Holds within a v := by
  obtain ⟨x, s', -, h⟩ := of_bind_ok h
  split_ifs at h with hf
  · cases h
  · cases h
    exact ha x (Bool.eq_false_iff.mpr hf)

section Within

variable {encoding : RowEncoding}

lemma float_holds (x : UInt32) (h : floatNotFinite x = false) :
    Holds (Within encoding f) .float (.float x) := Or.inr ⟨rfl, h⟩

lemma double_holds (x : UInt64) (h : doubleNotFinite x = false) :
    Holds (Within encoding f) .double (.double x) := Or.inr ⟨rfl, h⟩

lemma dateValue_holds {d : DateParts} (h : dateValue d = .ok v) :
    Holds (Within encoding f) .date v := by
  have hr := dateValue_inRange h
  unfold dateValue at h
  split_ifs at h <;> cases h
  · exact Or.inr ⟨rfl, hr⟩
  · exact Or.inl rfl

lemma datetimeValue_holds {d : DateParts} {p : TimeParts} (h : datetimeValue d p = .ok v) :
    Holds (Within encoding f) .datetime v := by
  have hr := datetimeValue_inRange h
  unfold datetimeValue at h
  split_ifs at h <;> cases h
  · exact Or.inr ⟨rfl, hr⟩
  · exact Or.inl rfl

lemma signedTime_holds {p : TimeParts} (h : p.total < 840 * hour) (isNegative : Bool)
    (ht : encoding = .text → (signedTime isNegative p).InRange) :
    Holds (Within encoding f) .time (signedTime isNegative p) := by
  refine Or.inr ⟨rfl, ?_, ht⟩
  simp only [minTime, maxTime]
  split <;> omega

end Within

lemma timeValue_holds {isNegative : Bool} {p : TimeParts} (h : timeValue isNegative p = .ok v) :
    Holds (Within .text f) .time v := by
  have hr := timeValue_inRange h
  unfold timeValue at h
  split_ifs at h with hl
  cases h
  refine signedTime_holds ?_ _ fun _ => hr
  obtain ⟨h1, h2, h3, h4⟩ := hl
  simp only [timeMaxHour, maxMin, maxSec, maxMicro] at h1 h2 h3 h4
  simp only [TimeParts.total, hour, minute, second]
  omega

lemma binaryTime_holds (h : deserializeBinaryValueTime s = .ok (v, t)) :
    Holds (Within .binary f) .time v := by
  obtain ⟨p, -, hv⟩ := of_time_ok h
  unfold TimeFields.value at hv
  split_ifs at hv with hl
  cases hv
  refine signedTime_holds ?_ _ nofun
  obtain ⟨h0, h1, h2, h3, h4⟩ := hl
  simp only [BinarySerialization.timeMaxDays, maxHour, maxMin, maxSec, maxMicro] at *
  simp only [TimeFields.time, TimeParts.total, hour, minute, second]
  omega

lemma textValue_holds {lexical : LexicalConvert} (h : deserializeTextValue lexical s f = .ok v) :
    Holds (Within .text f) (decodedAlternative f.protocolType f.isUnsigned) v := by
  unfold deserializeTextValue at h
  unfold decodedAlternative
  split at h
  case h_7 ht =>
    rw [ht]
    exact textFloat_holds float_holds h
  case h_8 ht =>
    rw [ht]
    exact textFloat_holds double_holds h
  case h_9 ht | h_10 ht =>
    rw [ht]
    rw [textDatetime_eq] at h
    obtain ⟨p, -, hp⟩ := orValueError_ok h
    exact datetimeValue_holds hp
  case h_11 ht =>
    rw [ht]
    rw [textDate_eq] at h
    obtain ⟨d, -, hd⟩ := orValueError_ok h
    exact dateValue_holds hd
  case h_12 ht =>
    rw [ht]
    rw [textTime_eq] at h
    obtain ⟨p, -, hp⟩ := orValueError_ok h
    exact timeValue_holds hp
  case h_13 =>
    cases h
    split <;> first | contradiction | exact Or.inr ⟨rfl, trivial⟩
  all_goals
    next ht =>
    rw [ht]
    exact textInt_holds h

lemma uint_ofWidth {size n : ℕ} (h : n < 256 ^ size) : OfWidth size true n :=
  ⟨Int.natCast_nonneg n, by exact_mod_cast h⟩

lemma uint8_ofWidth (u : UInt8) : OfWidth 1 true u.toUInt64.toNat :=
  uint_ofWidth (by rw [UInt8.toNat_toUInt64]; exact u.toNat_lt)

lemma uint16_ofWidth (u : UInt16) : OfWidth 2 true u.toUInt64.toNat :=
  uint_ofWidth (by rw [UInt16.toNat_toUInt64]; exact u.toNat_lt)

lemma uint32_ofWidth (u : UInt32) : OfWidth 4 true u.toUInt64.toNat :=
  uint_ofWidth (by rw [UInt32.toNat_toUInt64]; exact u.toNat_lt)

lemma int_ofWidth {size : ℕ} {z : ℤ} (h : -(256 ^ size : ℕ) ≤ 2 * z ∧ 2 * z < (256 ^ size : ℕ)) :
    OfWidth size false z := h

lemma int8_ofWidth (z : Int8) : OfWidth 1 false z.toInt64.toInt := by
  have hlo := z.le_toInt
  have hhi := z.toInt_lt
  rw [Int8.toInt_toInt64]
  exact int_ofWidth (by omega)

lemma int16_ofWidth (z : Int16) : OfWidth 2 false z.toInt64.toInt := by
  have hlo := z.le_toInt
  have hhi := z.toInt_lt
  rw [Int16.toInt_toInt64]
  exact int_ofWidth (by omega)

lemma int32_ofWidth (z : Int32) : OfWidth 4 false z.toInt64.toInt := by
  have hlo := z.le_toInt
  have hhi := z.toInt_lt
  rw [Int32.toInt_toInt64]
  exact int_ofWidth (by omega)

lemma int64_ofWidth (z : Int64) : OfWidth 8 false z.toInt := by
  have hlo := z.le_toInt
  have hhi := z.toInt_lt
  exact int_ofWidth (by omega)

lemma binaryValue_holds (h : deserializeBinaryValue f s = .ok (v, t)) :
    Holds (Within .binary f) (decodedAlternative f.protocolType f.isUnsigned) v := by
  generalize hd : deserializeBinaryValue f = d at h
  unfold deserializeBinaryValue at hd
  unfold decodedAlternative
  split at hd <;> subst hd
  case h_1 ht =>
    rw [ht]
    exact binaryInt_holds (by rw [ht]; rfl) uint8_ofWidth int8_ofWidth h
  case h_2 ht | h_3 ht =>
    rw [ht]
    exact binaryInt_holds (by rw [ht]; rfl) uint16_ofWidth int16_ofWidth h
  case h_4 ht | h_5 ht =>
    rw [ht]
    exact binaryInt_holds (by rw [ht]; rfl) uint32_ofWidth int32_ofWidth h
  case h_6 ht =>
    rw [ht]
    exact binaryInt_holds (by rw [ht]; rfl) (fun u => uint_ofWidth u.toNat_lt) int64_ofWidth h
  case h_7 ht =>
    rw [ht]
    exact binaryFloat_holds float_holds h
  case h_8 ht =>
    rw [ht]
    exact binaryFloat_holds double_holds h
  case h_9 ht | h_10 ht =>
    rw [ht]
    obtain ⟨p, -, hp⟩ := of_datetime_ok h
    exact datetimeValue_holds hp
  case h_11 ht =>
    rw [ht]
    obtain ⟨p, -, hp⟩ := of_date_ok h
    exact dateValue_holds hp
  case h_12 ht =>
    rw [ht]
    exact binaryTime_holds h
  case h_13 =>
    obtain ⟨x, -, rfl⟩ := of_map_ok h
    split <;> first | contradiction | exact Or.inr ⟨rfl, trivial⟩

/-- A YEAR that is not flagged as unsigned, and a time of 839 hours and a second. -/
example : deserializeBinaryValue (typedField .year false) [0xda, 0x07] = .ok (.int64 2010, []) :=
  rfl

example : deserializeBinaryValue (typedField .time false) [8, 0, 34, 0, 0, 0, 23, 0, 1] =
    .ok (.time (maxTime + 1000000), []) := rfl

end Values

/-! ### Rows -/

/-- As many values as there are fields, each as is documented for its own, or an exception. -/
abbrev TypedRow (encoding : RowEncoding) (fields : List FieldMetadata) (row : Row) : Prop :=
  List.Forall₂ (WellTyped encoding) fields row

lemma of_lift_ok {α : Type} {result : Except Errc α} {s t : Bytes} {a : α}
    (h : (result : Deserializer α) s = .ok (a, t)) : result = .ok a := by
  cases result with
  | error e => cases h
  | ok b =>
    cases h
    rfl

lemma textFields_typed {lexical : LexicalConvert} {fields : List FieldMetadata} {s t : Bytes}
    {row : Row} (h : deserializeTextFields lexical fields s = .ok (row, t)) :
    TypedRow .text fields row := by
  induction fields generalizing s row with
  | nil =>
    cases h
    exact .nil
  | cons field fields ih =>
    rw [deserializeTextFields, get_bind] at h
    split_ifs at h with hn
    · obtain ⟨null, s1, -, h⟩ := of_bind_ok h
      obtain ⟨values, s2, hv, h⟩ := of_bind_ok h
      cases h
      exact .cons (wellTyped_null .text field) (ih hv)
    · obtain ⟨valueStr, s1, -, h⟩ := of_bind_ok h
      obtain ⟨value, s2, h1, h⟩ := of_bind_ok h
      obtain ⟨values, s3, hv, h⟩ := of_bind_ok h
      cases h
      exact .cons (wellTyped_of_decoded (textValue_holds (of_lift_ok h1))) (ih hv)

lemma binaryFields_typed {traits : NullBitmapTraits} {bitmap : Bytes} {i : ℕ}
    {fields : List FieldMetadata} {s t : Bytes} {row : Row}
    (h : deserializeBinaryFields traits bitmap i fields s = .ok (row, t)) :
    TypedRow .binary fields row := by
  induction fields generalizing i s row with
  | nil =>
    cases h
    exact .nil
  | cons field fields ih =>
    rw [deserializeBinaryFields] at h
    split_ifs at h
    · rw [pure_bind] at h
      obtain ⟨values, s1, hv, h⟩ := of_bind_ok h
      cases h
      exact .cons (wellTyped_null .binary field) (ih hv)
    · obtain ⟨value, s1, hb, h⟩ := of_bind_ok h
      obtain ⟨values, s2, hv, h⟩ := of_bind_ok h
      cases h
      exact .cons (wellTyped_of_decoded (binaryValue_holds hb)) (ih hv)

/-- A deserializer of rows as are documented. -/
def TypedDeserializer (encoding : RowEncoding) (deserializer : DeserializeRowFn)
    (fields : List FieldMetadata) : Prop :=
  ∀ ctx row, deserializer ctx fields = .ok row → TypedRow encoding fields row

lemma textRow_typed (lexical : LexicalConvert) (fields : List FieldMetadata) :
    TypedDeserializer .text (deserializeTextRow lexical) fields :=
  fun _ _ h => textFields_typed (of_deserializeMessage_ok h)

lemma binaryRow_typed (fields : List FieldMetadata) :
    TypedDeserializer .binary deserializeBinaryRow fields := by
  intro ctx row h
  rw [deserializeBinaryRow] at h
  split_ifs at h
  exact binaryFields_typed (of_deserializeMessage_ok h)

/-! ### Resultsets -/

/-- What a resultset is read with gives rows as are documented. -/
def TypedResultSet (encoding : RowEncoding) (rs : ResultSet) : Prop :=
  TypedDeserializer encoding rs.deserializer rs.fields

/-- The resultset of an OK has no fields, and rows without values. -/
lemma createResultset_typed {encoding : RowEncoding} {deserializer : DeserializeRowFn}
    (h : ∀ fields, TypedDeserializer encoding deserializer fields) (fieldCount : ℕ)
    (okPacket : OkPacket) (fields : List FieldMetadata) :
    TypedResultSet encoding (createResultset deserializer fieldCount okPacket fields) := by
  unfold createResultset
  split_ifs
  · intro ctx row hr
    cases hr
    exact .nil
  · exact h fields

lemma received_deserializer (rs : ResultSet) (result : ReadRowResult) :
    (rs.received result).deserializer = rs.deserializer := by cases result <;> rfl

lemma received_fields (rs : ResultSet) (result : ReadRowResult) :
    (rs.received result).fields = rs.fields := by cases result <;> rfl

lemma received_typed {encoding : RowEncoding} {rs : ResultSet} (h : TypedResultSet encoding rs)
    (result : ReadRowResult) : TypedResultSet encoding (rs.received result) := by
  rw [TypedResultSet, received_deserializer, received_fields]
  exact h

lemma of_processReadMessage_row {deserializer : DeserializeRowFn} {caps : Capabilities}
    {fields : List FieldMetadata} {message : Bytes} {okPacket : OkPacket} {info info' : ErrorInfo}
    {row : Row} {err : ErrorCode}
    (h : processReadMessage deserializer caps fields message okPacket info =
      (.row row, err, info')) : deserializer ⟨message, caps⟩ fields = .ok row := by
  unfold processReadMessage at h
  split at h
  · cases h
  · split_ifs at h
    · split at h <;> cases h
    · cases h
    · split at h <;> cases h
      assumption

lemma readRow_typed {encoding : RowEncoding} {rs : ResultSet} (h : TypedResultSet encoding rs)
    {ch ch' : Channel} {okPacket : OkPacket} {info info' : ErrorInfo} {row : Row} {err : ErrorCode}
    (hr : readRow rs.deserializer ch rs.fields okPacket info = (.row row, err, info', ch')) :
    TypedRow encoding rs.fields row := by
  rcases hread : ch.read with ⟨buffer, e, ch1⟩
  simp only [readRow, hread] at hr
  split_ifs at hr
  · cases hr
  rcases hp : processReadMessage rs.deserializer ch1.currentCaps rs.fields buffer okPacket info with
    ⟨result, e', info1⟩
  rw [hp] at hr
  cases hr
  exact h _ _ (of_processReadMessage_row hp)

/-- What a fetch leaves of the fields, and the rows it returns. -/
structure FetchedTyped (encoding : RowEncoding) (rs : ResultSet)
    (r : Fetched × ResultSet × Channel) : Prop where
  rows : ∀ row ∈ r.1.rows, TypedRow encoding rs.fields row
  fields : r.2.1.fields = rs.fields
  typed : TypedResultSet encoding r.2.1

lemma fetchLoop_typed {encoding : RowEncoding} (count : ℕ) {rs : ResultSet}
    (h : TypedResultSet encoding rs) (ch : Channel) (info : ErrorInfo) :
    FetchedTyped encoding rs (rs.fetchLoop count ch info) := by
  induction count generalizing rs ch info with
  | zero => exact ⟨fun _ hr => absurd hr List.not_mem_nil, rfl, h⟩
  | succ count ih =>
    rw [ResultSet.fetchLoop]
    rcases hr : readRow rs.deserializer ch rs.fields rs.okPacket info with ⟨result, err, info', ch'⟩
    have hreceived := received_typed h result
    cases result with
    | row row =>
      obtain ⟨hrows, hfields, htyped⟩ := ih hreceived ch' info'
      refine ⟨?_, hfields, htyped⟩
      intro row' hmem
      rcases List.mem_cons.mp hmem with rfl | hmem
      · exact readRow_typed h hr
      · exact hrows row' hmem
    | eof okPacket => exact ⟨fun _ hr => absurd hr List.not_mem_nil, rfl, hreceived⟩
    | error => exact ⟨fun _ hr => absurd hr List.not_mem_nil, rfl, hreceived⟩

lemma fetch_typed {encoding : RowEncoding} {rs : ResultSet} (h : TypedResultSet encoding rs)
    (ch : Channel) (call : FetchCall) : FetchedTyped encoding rs (rs.fetch ch call) := by
  rw [fetch_eq, ResultSet.fetchMany]
  split_ifs
  · exact ⟨fun _ hr => absurd hr List.not_mem_nil, rfl, h⟩
  · exact fetchLoop_typed call.count h ch .clear

/-! ### Lives -/

/-- What is known of the resultsets in the variables: the encoding of their rows, and their fields
as their users have been told. -/
abbrev Columns := ℕ → Option (RowEncoding × List FieldMetadata)

/-- The variable a call sets, and how the rows of the resultset in it are encoded. -/
def into : LifeCall → Option (ℕ × RowEncoding)
  | .session (.query into _) => some (into, .text)
  | .session (.execute into _ _) => some (into, .binary)
  | _ => none

/-- The fields of what a call has obtained. -/
def obtainedFields : LifeOutcome → Option (List FieldMetadata)
  | .session (.resultSet fields _) => some fields
  | _ => none

/-- The rows of an outcome are those of these fields. -/
def TypedOutcome (columns : Option (RowEncoding × List FieldMetadata)) : LifeOutcome → Prop
  | .session (.fetched fetched _) =>
    ∃ p, columns = some p ∧ ∀ row ∈ fetched.rows, TypedRow p.1 p.2 row
  | _ => True

/-- The resultset a call fetches from. -/
def source : LifeCall → Option ℕ
  | .session (.fetch source _) => some source
  | _ => none

/-- What is fetched is held against the fields the user was told when the resultset was obtained. -/
def typing : Monitor Columns LifeCall LifeOutcome where
  next columns call o := (into call).elim columns fun p =>
    Function.update columns p.1 ((obtainedFields o).map fun fields => (p.2, fields))
  accepts columns call o := TypedOutcome ((source call).bind columns) o

/-- The fields that were told are those of the resultsets, which are read as is documented. -/
def Told (c : Client) (columns : Columns) : Prop :=
  ∀ v rs, c.resultSets v = some rs →
    ∃ encoding, columns v = some (encoding, rs.fields) ∧ TypedResultSet encoding rs

namespace Told

variable {c : Client} {columns : Columns}

lemma withConn (h : Told c columns) (conn : Conn) : Told { c with conn } columns := h

lemma update (h : Told c columns) (conn : Conn) (v : ℕ) {rs : Option ResultSet}
    {p : Option (RowEncoding × List FieldMetadata)}
    (ht : ∀ r, rs = some r →
      ∃ encoding, p = some (encoding, r.fields) ∧ TypedResultSet encoding r) :
    Told ⟨conn, Function.update c.resultSets v rs⟩ (Function.update columns v p) := by
  intro w r hr
  by_cases hw : w = v
  · subst hw
    obtain ⟨encoding, hp, hr⟩ := ht r (by simpa using hr)
    exact ⟨encoding, by simpa using hp, hr⟩
  · obtain ⟨encoding, hp, hr⟩ := h w r (by simpa [hw] using hr)
    exact ⟨encoding, by simpa [hw] using hp, hr⟩

lemma fetched (h : Told c columns) (conn : Conn) {v : ℕ} {encoding : RowEncoding}
    {rs rs' : ResultSet} (hv : columns v = some (encoding, rs.fields)) (hf : rs'.fields = rs.fields)
    (ht : TypedResultSet encoding rs') :
    Told ⟨conn, Function.update c.resultSets v (some rs')⟩ columns := by
  rw [← hf] at hv
  have hu := @update _ _ h conn v (some rs') _ fun r hr => by
    rw [← Option.some.inj hr]
    exact ⟨encoding, hv, ht⟩
  rwa [Function.update_eq_self] at hu

lemma obtained (h : Told c columns) (v : ℕ) {encoding : RowEncoding}
    {r : Except ErrorCode ResultSet × Conn} (ht : ∀ rs, r.1 = .ok rs → TypedResultSet encoding rs) :
    Told (c.obtained v r).2 (Function.update columns v
      ((obtainedFields (.session (c.obtained v r).1)).map fun fields => (encoding, fields))) := by
  obtain ⟨err | rs, conn⟩ := r
  · exact h.update conn v nofun
  · refine h.update conn v fun r hr => ?_
    rw [← Option.some.inj hr]
    exact ⟨encoding, rfl, ht rs rfl⟩

end Told

lemma executeGeneric_typed {α : Type} [Serializable α] {request : α}
    {encoding : RowEncoding} {deserializer : DeserializeRowFn}
    (hd : ∀ fields, TypedDeserializer encoding deserializer fields) {c c' : Conn} {rs : ResultSet}
    (h : ExecuteGeneric.executeGeneric deserializer request c = (.ok rs, c')) :
    TypedResultSet encoding rs := by
  obtain ⟨_, c1, h1, h⟩ := of_then_ok h
  obtain ⟨_, c2, h2, h⟩ := of_then_ok h
  obtain ⟨_, c3, h3, h⟩ := of_then_ok h
  obtain ⟨buffer, c4, h4, h⟩ := of_then_ok h
  obtain ⟨⟨fieldCount, okPacket⟩, c5, h5, h⟩ := of_then_ok h
  obtain ⟨fields, c6, h6, h⟩ := of_then_ok h
  cases h
  exact createResultset_typed hd fieldCount okPacket fields

lemma execute_typed {statement : ComStmtPrepareOkPacket} {params : List Value} {c c' : Conn}
    {rs : ResultSet} (h : execute statement params c = (.ok rs, c')) :
    TypedResultSet .binary rs := by
  obtain ⟨_, c1, h1, h⟩ := of_then_ok h
  exact executeGeneric_typed binaryRow_typed h

section Perform

variable (hashes : Hashes) (lexical : LexicalConvert)

lemma obtained_accepted {c : Client} {v : ℕ}
    (columns : Option (RowEncoding × List FieldMetadata)) (r : Except ErrorCode ResultSet × Conn) :
    TypedOutcome columns (.session (c.obtained v r).1) := by
  obtain ⟨err | rs, conn⟩ := r <;> exact trivial

lemma performed_told {c d : Client} {columns : Columns} (h : Told c columns) {call : Calls.Call}
    {o : Outcome} (hp : c.performed lexical call = some (o, d)) :
    typing.accepts columns (.session call) (.session o) ∧
      Told d (typing.next columns (.session call) (.session o)) := by
  cases call with
  | query into queryString =>
    obtain ⟨rfl, rfl⟩ := Prod.ext_iff.mp (Option.some.inj hp)
    exact ⟨obtained_accepted _ _, h.obtained into fun rs hr =>
      executeGeneric_typed (textRow_typed lexical) (Prod.ext hr rfl)⟩
  | execute into statement params =>
    obtain ⟨rfl, rfl⟩ := Prod.ext_iff.mp (Option.some.inj hp)
    exact ⟨obtained_accepted _ _, h.obtained into fun rs hr => execute_typed (Prod.ext hr rfl)⟩
  | prepare statement =>
    rw [performed_prepare] at hp
    rcases hr : prepare statement c.conn with ⟨err | response, conn⟩ <;> rw [hr] at hp <;> cases hp
    · exact ⟨trivial, h.withConn conn⟩
    · exact ⟨trivial, h.withConn conn⟩
  | close statement =>
    rw [performed_close] at hp
    rcases hr : ExecuteGeneric.close statement c.conn with ⟨err | _, conn⟩ <;> rw [hr] at hp <;>
      cases hp
    · exact ⟨trivial, h.withConn conn⟩
    · exact ⟨trivial, h.withConn conn⟩
  | fetch source call =>
    obtain ⟨rs, hrs, hf⟩ := Option.map_eq_some_iff.mp hp
    obtain ⟨encoding, hv, ht⟩ := h source rs hrs
    obtain ⟨hrows, hfields, htyped⟩ := fetch_typed ht c.conn.channel call
    cases hf
    exact ⟨⟨_, hv, hrows⟩, h.fetched _ hv hfields htyped⟩

lemma perform_watched : Watches Told typing (perform hashes lexical) := by
  intro c columns call o d h hp
  cases call with
  | session call =>
    obtain ⟨⟨o', c'⟩, hc, ho⟩ := Option.map_eq_some_iff.mp hp
    cases ho
    exact performed_told lexical h hc
  | _ =>
    cases hp
    exact ⟨trivial, h.withConn _⟩

/-- **Every row that is fetched in the life of a connection is as is documented**, whatever the
server sends and whichever way the calls are made: it has a value for each field its user was
told when the resultset was obtained, and that is NULL or of the alternative and in the range
documented for the type of the field, but for the exceptions. -/
theorem rows_asDocumented {makings : List Made} {outcomes : List LifeOutcome} {c : Client}
    (hr : (Makes hashes lexical).Runs newClient makings outcomes c) :
    typing.Accepts (fun _ => none) (makings.map Made.call) outcomes := by
  obtain ⟨d, hd, -⟩ := (makes_given hashes lexical).run sameClient_newClient hr
  exact (perform_watched hashes lexical).run (fun _ _ h => by cases h) hd

end Perform

/-! ### A date -/

def dateColumn : ColumnDefinitionPacket := (typedField .date false).msg

/-- `1970-01-02`. -/
def dateText : Bytes := [0x31, 0x39, 0x37, 0x30, 0x2d, 0x30, 0x31, 0x2d, 0x30, 0x32]

/-- A query for one row, and its fetch. -/
def dateSession : List Exchange :=
  [⟨.query 0 [0x41], .resultset [dateColumn]
      [(encodeTextFields [(some dateText, .date 1)], [.date 1])]
      (.eof .default true)⟩,
    ⟨.fetch 0 .all, ()⟩]

def dateOutcomes : List Outcome :=
  [.resultSet [⟨dateColumn⟩] none, .fetched ⟨[[.date 1]], .success, .clear⟩ (some .default)]

lemma dateSession_conforming : ∀ e ∈ dateSession, e.Conforming decimalIntegers .none := by
  let c : Components := ⟨⟨1970, 1, 2⟩, ⟨0, 0, 0, 0⟩, 0, by decide, by decide, by decide, by decide,
    by decide, by decide, by decide, by decide, by decide⟩
  have ht : c.dateText = dateText := by decide
  have hv : orNull c.date.ymd.ok (.date (Lib.Civil.toDays c.date.ymd)) = .date 1 := by decide
  have hcell : TextCell decimalIntegers ⟨dateColumn⟩ (some dateText, .date 1) := by
    rw [← ht, ← hv]
    exact .date rfl (by decide)
  have hrow : IsTextRow decimalIntegers [⟨dateColumn⟩]
      (encodeTextFields [(some dateText, .date 1)]) [.date 1] := .mk (.cons hcell .nil)
  intro e he
  simp only [dateSession, List.mem_cons, List.not_mem_nil, or_false] at he
  rcases he with rfl | rfl
  · refine ⟨⟨nofun, by decide, ?_, ?_, ⟨by decide, fun _ => rfl⟩⟩, by decide, by decide⟩
    · intro c hc
      rw [List.mem_singleton.mp hc]
      constructor <;> decide
    · intro p hp
      rw [List.mem_singleton.mp hp]
      exact hrow
  · exact ⟨trivial, by decide, by decide⟩

def dateArrivals : List Arrival :=
  (Exchange.mk (.query 0 [0x41]) (.resultset [dateColumn]
    [(encodeTextFields [(some dateText, .date 1)], [.date 1])]
    (.eof .default true))).arrivals .none

def dateMakings : List Made :=
  [.sync (.physicalConnect (quietSession dateArrivals)), .sync (.session (.query 0 [0x41])),
    .sync (.session (.fetch 0 .all))]

def dateLife : List LifeOutcome := .returned (.ok ()) :: dateOutcomes.map .session

lemma arrived_fetch (c : Client) (source : ℕ) (call : FetchCall) :
    arrived c ⟨.fetch source call, ()⟩ = c := by
  have h : (Exchange.mk (.fetch source call) ()).arrivals c.conn.channel.currentCaps = [] := rfl
  rw [arrived, h, deliver_pending]

lemma date_lived :
    ∃ c, (Makes zeroHashes decimalIntegers).Runs newClient dateMakings dateLife c := by
  have hE : ∀ e ∈ dateSession,
      e.Conforming decimalIntegers .none ∧ (true = true ∨ e.call.ParamsFit) :=
    fun e he => ⟨dateSession_conforming e he, Or.inl rfl⟩
  have hspec : (specified .none).run (.start []) dateSession = some (dateOutcomes,
      ⟨frame 0 [0x03, 0x41], Function.update (Function.update (fun _ => none) 0 none) 0
        (some .default), none⟩) := rfl
  obtain ⟨d, hrun, -⟩ := (exchange_refines true decimalIntegers_converts .none).run
    (@inStep_start _ (quietClient []) ⟨rfl, rfl⟩ rfl) hE hspec
  obtain ⟨o1, c1, os, h1, hrun', ho⟩ := of_run_cons hrun
  obtain ⟨o2, c2, os', h2, hrun'', rfl⟩ := of_run_cons hrun'
  cases hrun''
  cases ho
  have hquery : perform zeroHashes decimalIntegers (quietClient dateArrivals)
      (.session (.query 0 [0x41])) = some (.session (.resultSet [⟨dateColumn⟩] none), c1) :=
    exchange_iff.mp h1
  have hfetch := (@exchange_iff _ zeroHashes _ _ _ _).mp h2
  rw [arrived_fetch] at hfetch
  exact ⟨_, .cons rfl (.cons hquery (.cons hfetch (.nil _)))⟩

theorem rows_asDocumented_date :
    typing.Accepts (fun _ => none) (dateMakings.map Made.call) dateLife :=
  have ⟨_, hc⟩ := date_lived
  rows_asDocumented zeroHashes decimalIntegers hc

end MysqlAsio.FieldTypes
