import MysqlAsio.ServerRows
import MysqlAsio.TemporalLengths
import MysqlAsio.WireTypes

/-!
The rows of the binary protocol, as the protocol writes them: read back, cut short, and followed
by more.
-/

namespace MysqlAsio.BinaryRows

open MysqlAsio.Errors MysqlAsio.Serialization MysqlAsio.CommonMessages MysqlAsio.Values
open MysqlAsio.BinaryDeserialization MysqlAsio.BinaryRoundTrip MysqlAsio.NullBitmap
open MysqlAsio.ServerRows MysqlAsio.TemporalLengths MysqlAsio.WireTypes
open MysqlAsio.Lib.Decoding

/-! ### What the protocol writes for a value -/

/-- The bytes of an integer column. -/
def intSize : ProtocolFieldType → Option ℕ
  | .tiny => some 1
  | .short | .year => some 2
  | .int24 | .long => some 4
  | .longlong => some 8
  | _ => none

/-- An integer of `size` bytes, little-endian, in two's complement if it is signed. -/
inductive EncodesInt (isUnsigned : Bool) (size : ℕ) : Value → Bytes → Prop
  | uint64 {v : UInt64} (hu : isUnsigned = true) (hv : v.toNat < 256 ^ size) :
      EncodesInt isUnsigned size (.uint64 v) (serializeFixedSizeInt size v.toNat)
  | int64 {v : Int64} (hu : isUnsigned = false)
      (hv : -(256 ^ size : ℕ) ≤ 2 * v.toInt ∧ 2 * v.toInt < (256 ^ size : ℕ)) :
      EncodesInt isUnsigned size (.int64 v)
        (serializeFixedSizeInt size (v.toInt % (256 ^ size : ℕ)).toNat)

/-- The types whose values are sent as strings. -/
def IsStringLike (type : ProtocolFieldType) : Prop :=
  intSize type = none ∧ temporalForm type = none ∧ type ≠ .float ∧ type ≠ .double

/-- A value of a column that is not NULL, and its bytes. -/
inductive Encodes (field : FieldMetadata) : Value → Bytes → Prop
  | int {size : ℕ} {v : Value} {w : Bytes} (ht : intSize field.protocolType = some size)
      (h : EncodesInt field.isUnsigned size v w) : Encodes field v w
  | float {bits : UInt32} (ht : field.protocolType = .float) (hf : floatNotFinite bits = false) :
      Encodes field (.float bits) (serializeInt4 bits)
  | double {bits : UInt64} (ht : field.protocolType = .double)
      (hf : doubleNotFinite bits = false) : Encodes field (.double bits) (serializeInt8 bits)
  | temporal {form : TemporalForm} (ht : temporalForm field.protocolType = some form)
      (f : form.Fields) (hs : (form.length f).toNat ∈ form.sizes) (hl : form.InLimits f) :
      Encodes field (form.valueOf f) (form.bytes f)
  | string {s : Bytes} (ht : IsStringLike field.protocolType) (hs : s.length < 2 ^ 64) :
      Encodes field (.string s) (serializeStringLenenc s)

/-! ### Each is read back, and not from less -/

lemma bmod_word {z : ℤ} (size : ℕ)
    (h : -(256 ^ size : ℕ) ≤ 2 * z ∧ 2 * z < (256 ^ size : ℕ)) :
    ((z % (256 ^ size : ℕ)).toNat : ℤ).bmod (256 ^ size) = z := by
  have hpos : (0 : ℤ) < (256 ^ size : ℕ) := by positivity
  rw [Int.toNat_of_nonneg (Int.emod_nonneg _ hpos.ne'), Int.emod_bmod]
  exact Int.bmod_eq_of_le (by omega) (by omega)

lemma word_lt (z : ℤ) (size : ℕ) : (z % (256 ^ size : ℕ)).toNat < 256 ^ size := by
  have hpos : (0 : ℤ) < (256 ^ size : ℕ) := by positivity
  have h0 := Int.emod_nonneg z hpos.ne'
  have h1 := Int.emod_lt_of_pos z hpos
  omega

lemma fixedSizeInt_delimits {T : Type} {f : ℕ → T} {size n : ℕ} (h : n < 256 ^ size) :
    Delimits (f <$> deserializeFixedSizeInt size) (serializeFixedSizeInt size n) (f n)
      .incompleteMessage :=
  ⟨fixedSizeInt_reads h rfl, fixedSizeInt_short⟩

/-- The types of integers differ in the type the number is kept in. -/
lemma valueInt_delimits {U S : Type} {size : ℕ} (ofNat : ℕ → U) (toSigned : U → S)
    (toUInt64 : U → UInt64) (toInt64 : S → Int64) {field : FieldMetadata} {v : Value} {w : Bytes}
    (hu : ∀ v : UInt64, v.toNat < 256 ^ size → toUInt64 (ofNat v.toNat) = v)
    (hs : ∀ z : ℤ, (toInt64 (toSigned (ofNat (z % (256 ^ size : ℕ)).toNat))).toInt =
      ((z % (256 ^ size : ℕ)).toNat : ℤ).bmod (256 ^ size))
    (h : EncodesInt field.isUnsigned size v w) :
    Delimits (deserializeBinaryValueInt (ofNat <$> deserializeFixedSizeInt size)
      (toSigned <$> (ofNat <$> deserializeFixedSizeInt size)) toUInt64 toInt64 field) w v
      .incompleteMessage := by
  unfold deserializeBinaryValueInt
  cases h with
  | @uint64 v hunsigned hv =>
    rw [if_pos hunsigned]
    have hd := (fixedSizeInt_delimits (f := ofNat) hv).map fun v => Value.uint64 (toUInt64 v)
    rwa [hu v hv] at hd
  | @int64 v hsigned hv =>
    rw [if_neg (Bool.eq_false_iff.mp hsigned)]
    have hd := ((fixedSizeInt_delimits (f := ofNat) (word_lt v.toInt size)).map toSigned).map
      fun v => Value.int64 (toInt64 v)
    have hv' := (hs v.toInt).trans (bmod_word size hv)
    rwa [Int64.toInt_inj.mp hv'] at hd

lemma int_delimits {field : FieldMetadata} {size : ℕ} {v : Value} {w : Bytes}
    (ht : intSize field.protocolType = some size) (h : EncodesInt field.isUnsigned size v w) :
    Delimits (deserializeBinaryValue field) w v .incompleteMessage := by
  have h1 (h : EncodesInt field.isUnsigned 1 v w) :=
    valueInt_delimits UInt8.ofNat UInt8.toInt8 (·.toUInt64) (·.toInt64)
      (fun v hv => by rw [← UInt64.toNat_inj, UInt8.toNat_toUInt64, UInt8.toNat_ofNat_of_lt' hv])
      (fun z => by rw [Int8.toInt_toInt64, UInt8.toInt8_ofNat', Int8.toInt_ofNat']; rfl) h
  have h2 (h : EncodesInt field.isUnsigned 2 v w) :=
    valueInt_delimits UInt16.ofNat UInt16.toInt16 (·.toUInt64) (·.toInt64)
      (fun v hv => by rw [← UInt64.toNat_inj, UInt16.toNat_toUInt64, UInt16.toNat_ofNat_of_lt' hv])
      (fun z => by rw [Int16.toInt_toInt64, UInt16.toInt16_ofNat', Int16.toInt_ofNat']; rfl) h
  have h4 (h : EncodesInt field.isUnsigned 4 v w) :=
    valueInt_delimits UInt32.ofNat UInt32.toInt32 (·.toUInt64) (·.toInt64)
      (fun v hv => by rw [← UInt64.toNat_inj, UInt32.toNat_toUInt64, UInt32.toNat_ofNat_of_lt' hv])
      (fun z => by rw [Int32.toInt_toInt64, UInt32.toInt32_ofNat', Int32.toInt_ofNat']; rfl) h
  have h8 (h : EncodesInt field.isUnsigned 8 v w) :=
    valueInt_delimits UInt64.ofNat UInt64.toInt64 id id (fun v _ => UInt64.ofNat_toNat)
      (fun z => by rw [id, UInt64.toInt64_ofNat', Int64.toInt_ofNat']; rfl) h
  unfold deserializeBinaryValue
  cases hp : field.protocolType <;> rw [hp] at ht <;> cases ht
  case tiny => exact h1 h
  case short | year => exact h2 h
  case int24 | long => exact h4 h
  case longlong => exact h8 h

lemma deserializeBinaryValue_string {field : FieldMetadata}
    (ht : IsStringLike field.protocolType) :
    deserializeBinaryValue field = Value.string <$> deserializeStringLenenc := by
  obtain ⟨h1, h2, h3, h4⟩ := ht
  unfold deserializeBinaryValue
  cases hp : field.protocolType <;> rw [hp] at h1 h2 h3 h4
  case tiny | short | year | int24 | long | longlong => cases h1
  case date | datetime | timestamp | time => cases h2
  case float => exact absurd rfl h3
  case double => exact absurd rfl h4

/-- A value is read back from its bytes, whatever follows them, and not from less. -/
lemma value_delimits {field : FieldMetadata} {v : Value} {w : Bytes} (h : Encodes field v w) :
    Delimits (deserializeBinaryValue field) w v .incompleteMessage := by
  cases h with
  | int ht h => exact int_delimits ht h
  | @float bits ht hf =>
    rw [deserializeBinaryValue, ht]
    exact ⟨float_reads (int4_reads bits) hf, (int4_short bits).bind_any _⟩
  | @double bits ht hf =>
    have hs : Short deserializeInt8 (serializeInt8 bits) .incompleteMessage := fixedSizeInt_short
    rw [deserializeBinaryValue, ht]
    exact ⟨float_reads (int8_reads bits) hf, hs.bind_any _⟩
  | @temporal form ht f _ hl =>
    rw [temporalForm_deserialize ht]
    exact ⟨form.reads f hl, form.short f hl⟩
  | @string s ht hs =>
    rw [deserializeBinaryValue_string ht]
    exact (stringLenenc_exact hs).delimits.map Value.string

/-! ### Rows -/

/-- A cell of a row: NULL, or a value. -/
inductive BinaryCell (field : FieldMetadata) : Option Bytes × Value → Prop
  | null : BinaryCell field (none, .null)
  | value {w : Bytes} {v : Value} (h : Encodes field v w) : BinaryCell field (some w, v)

lemma BinaryCell.field {field : FieldMetadata} {cell : Option Bytes × Value}
    (h : BinaryCell field cell) : BinaryField field cell := by
  cases h with
  | null => exact .null
  | value h => exact .value (value_delimits h).reads

def encodeBinaryRow (bitmap : Bytes) (cells : List (Option Bytes × Value)) : Bytes :=
  0x00 :: (bitmap ++ encodeBinaryFields cells)

lemma binaryFields_short {traits : NullBitmapTraits} {bitmap : Bytes} {fields : List FieldMetadata}
    {cells : List (Option Bytes × Value)} (h : List.Forall₂ BinaryCell fields cells) {i : ℕ}
    (hb : ∀ j (hj : j < cells.length),
      traits.isNull bitmap (i + j) = (cells.get ⟨j, hj⟩).1.isNone) :
    Short (deserializeBinaryFields traits bitmap i fields) (encodeBinaryFields cells)
      .incompleteMessage := by
  induction h generalizing i with
  | nil => exact short_nil _ _
  | @cons field cell fields cells hcell _ ih =>
    have h0 : traits.isNull bitmap i = cell.1.isNone := hb 0 (Nat.succ_pos _)
    have htail : Short (deserializeBinaryFields traits bitmap (i + 1) fields)
        (encodeBinaryFields cells) .incompleteMessage := ih fun j hj => by
      have := hb (j + 1) (Nat.succ_lt_succ hj)
      rwa [show i + (j + 1) = i + 1 + j by omega] at this
    rw [encodeBinaryFields, List.flatMap_cons, deserializeBinaryFields, h0]
    cases hcell with
    | null => exact (short_nil _ _).bind (reads_pure Value.null) (htail.bind_any _)
    | value h =>
      have hv := value_delimits h
      exact hv.short.bind hv.reads (htail.bind_any _)

/-- What lacks a part of a row has a cut bitmap, or a cut field. -/
lemma binaryRow_short {fields : List FieldMetadata} {cells : List (Option Bytes × Value)}
    {bitmap : Bytes} (h : List.Forall₂ BinaryCell fields cells) (hb : RowBitmap cells bitmap)
    (caps : Capabilities) {p : Bytes} (hp : p <+: bitmap ++ encodeBinaryFields cells)
    (hne : p ≠ bitmap ++ encodeBinaryFields cells) :
    deserializeBinaryRow ⟨0x00 :: p, caps⟩ fields =
      .error (makeErrorCode .incompleteMessage) := by
  have hlen := hb.byteCount h.length_eq
  rcases prefix_append_cases hp hne with ⟨hp, hne⟩ | ⟨q, rfl, hq, hne⟩
  · have hlt : p.length < bitmap.length :=
      lt_of_le_of_ne hp.length_le fun hl => hne (hp.eq_of_length hl)
    rw [hlen] at hlt
    rw [deserializeBinaryRow]
    exact if_pos hlt
  · rw [deserializeBinaryRow_bitmap hlen]
    exact deserializeMessage_short (binaryFields_short h (hb.isNull fields.length)) hq hne caps

/-- **A row of the binary protocol is read back**, whatever its columns are, a part of it is
incomplete, and what follows it is extra. -/
theorem binaryRow_delimited {fields : List FieldMetadata} {cells : List (Option Bytes × Value)}
    {bitmap : Bytes} (h : List.Forall₂ BinaryCell fields cells) (hb : RowBitmap cells bitmap)
    (caps : Capabilities) :
    deserializeBinaryRow ⟨encodeBinaryRow bitmap cells, caps⟩ fields =
      .ok (cells.map Prod.snd) ∧
    (∀ p, p <+: encodeBinaryRow bitmap cells → p ≠ [] → p ≠ encodeBinaryRow bitmap cells →
      deserializeBinaryRow ⟨p, caps⟩ fields = .error (makeErrorCode .incompleteMessage)) ∧
    ∀ extra, extra ≠ [] → deserializeBinaryRow ⟨encodeBinaryRow bitmap cells ++ extra, caps⟩
      fields = .error (makeErrorCode .extraBytes) := by
  have hf : List.Forall₂ BinaryField fields cells := h.imp fun _ _ hc => hc.field
  refine ⟨binaryRow_decodes (.mk hf hb) caps, fun p hp hnil hne => ?_, fun extra hne => ?_⟩
  · obtain ⟨b, p, rfl⟩ := List.exists_cons_of_ne_nil hnil
    obtain ⟨rfl, hp'⟩ := List.cons_prefix_cons.mp hp
    exact binaryRow_short h hb caps hp' fun he => hne (by rw [he, encodeBinaryRow])
  · rw [encodeBinaryRow, List.cons_append, List.append_assoc,
      deserializeBinaryRow_bitmap (hb.byteCount h.length_eq)]
    exact deserializeMessage_extra (binaryFields_read hf (hb.isNull fields.length)) hne caps

/-- A date that lost its time of day, after a NULL. -/
theorem binaryRow_delimited_shortForm :
    deserializeBinaryRow ⟨encodeBinaryRow [0x04]
        [(none, .null), (some [4, 0xe5, 0x07, 0x02, 0x1c], .datetime (18686 * 86400000000))], ⟨0⟩⟩
      [typedField .double false, typedField .timestamp false] =
      .ok [.null, .datetime (18686 * 86400000000)] := by
  have h : Encodes (typedField .timestamp false) (.datetime (18686 * 86400000000))
      [4, 0xe5, 0x07, 0x02, 0x1c] :=
    @Encodes.temporal _ datetimeForm rfl
      ⟨⟨4, 0x07e5, 0x02, 0x1c, fun h => absurd h (by decide)⟩, 0, 0, 0, 0, fun _ => ⟨rfl, rfl, rfl⟩,
        fun _ => rfl⟩ (by decide) ⟨by decide, by decide⟩
  exact (binaryRow_delimited (.cons .null (.cons (.value h) .nil)) ⟨rfl, by decide⟩ ⟨0⟩).1

end MysqlAsio.BinaryRows
