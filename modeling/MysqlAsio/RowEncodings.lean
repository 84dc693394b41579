import MysqlAsio.TemporalAgreement
import MysqlAsio.TextRows

/-!
How a server encodes the rows of a table: as text, or in the binary protocol.
-/

namespace MysqlAsio.RowEncodings

open MysqlAsio.Errors MysqlAsio.Serialization MysqlAsio.CommonMessages MysqlAsio.Values
open MysqlAsio.BinaryDeserialization MysqlAsio.TextDeserialization MysqlAsio.BinaryRoundTrip
open MysqlAsio.Temporal MysqlAsio.TemporalAgreement MysqlAsio.Scanning MysqlAsio.Channels
open MysqlAsio.ReadRow MysqlAsio.Resultset MysqlAsio.Fetching MysqlAsio.ServerRows
open MysqlAsio.BinaryRows MysqlAsio.TextRows MysqlAsio.Lib.Civil MysqlAsio.Lib.Decoding
open MysqlAsio.Lib.Decimal

/-! ### Texts -/

/-- The text of an integer, its digits in a width that may be more than it needs. -/
def integerText (width : ℕ) (n : ℤ) : Bytes :=
  (if n < 0 then [dash] else []) ++ decimal width n.natAbs

/-- Decimal texts of integers of 64 bits are converted to them. -/
structure ConvertsIntegers (lexical : LexicalConvert) : Prop where
  toUInt64 : ∀ (v : UInt64) (width : ℕ), 0 < width → v.toNat < 10 ^ width →
    lexical.toUInt64 (integerText width v.toNat) = some v
  toInt64 : ∀ (v : Int64) (width : ℕ), 0 < width → v.toInt.natAbs < 10 ^ width →
    lexical.toInt64 (integerText width v.toInt) = some v

/-- NULL, where the parts of a date are not one. -/
def orNull (isDate : Bool) (v : Value) : Value := if isDate then v else .null

/-- A cell of a text row: its text, and its value. A number with a fraction is sent as a text that
converts to it. -/
inductive TextCell (lexical : LexicalConvert) (field : FieldMetadata) : Option Bytes × Value → Prop
  | null : TextCell lexical field (none, .null)
  | uint64 {size width : ℕ} {v : UInt64} (ht : intSize field.protocolType = some size)
      (hu : field.isUnsigned = true) (hv : v.toNat < 256 ^ size) (h0 : 0 < width)
      (hw : v.toNat < 10 ^ width) (hl : width < 2 ^ 32) :
      TextCell lexical field (some (integerText width v.toNat), .uint64 v)
  | int64 {size width : ℕ} {v : Int64} (ht : intSize field.protocolType = some size)
      (hu : field.isUnsigned = false)
      (hv : -(256 ^ size : ℕ) ≤ 2 * v.toInt ∧ 2 * v.toInt < (256 ^ size : ℕ)) (h0 : 0 < width)
      (hw : v.toInt.natAbs < 10 ^ width) (hl : width < 2 ^ 32) :
      TextCell lexical field (some (integerText width v.toInt), .int64 v)
  | float {bits : UInt32} {s : Bytes} (ht : field.protocolType = .float)
      (hf : floatNotFinite bits = false) (hs : lexical.toFloat s = some bits)
      (hl : s.length < 2 ^ 64) : TextCell lexical field (some s, .float bits)
  | double {bits : UInt64} {s : Bytes} (ht : field.protocolType = .double)
      (hf : doubleNotFinite bits = false) (hs : lexical.toDouble s = some bits)
      (hl : s.length < 2 ^ 64) : TextCell lexical field (some s, .double bits)
  | date {c : Components} (ht : field.protocolType = .date) (hl : c.date.InLimits) :
      TextCell lexical field (some c.dateText, orNull c.date.ymd.ok (.date (toDays c.date.ymd)))
  | datetime {c : Components}
      (ht : field.protocolType = .datetime ∨ field.protocolType = .timestamp)
      (hd : field.decimals = c.decimals) (hl : c.date.InLimits ∧ c.time.InLimits maxHour) :
      TextCell lexical field (some c.datetimeText,
        orNull c.date.ymd.ok (.datetime (toDays c.date.ymd * Values.day + c.time.total)))
  | time {d : Duration} {width : ℕ} (ht : field.protocolType = .time)
      (hd : field.decimals = d.decimals) (hw : d.HoursWidth width) :
      TextCell lexical field (some (d.text width), signedTime d.isNegative d.time)
  | string {s : Bytes} (ht : IsStringLike field.protocolType) (hl : s.length < 2 ^ 64) :
      TextCell lexical field (some s, .string s)

section Cells

variable {lexical : LexicalConvert} {field : FieldMetadata} {v : Value}

lemma integerText_length (width : ℕ) (n : ℤ) : (integerText width n).length ≤ width + 1 := by
  rw [integerText, List.length_append, decimal_length]
  split_ifs
  · simp only [List.length_singleton]
    omega
  · simp

lemma deserializeTextValue_int {size : ℕ} (ht : intSize field.protocolType = some size)
    (s : Bytes) :
    deserializeTextValue lexical s field = deserializeTextValueInt lexical s field := by
  unfold deserializeTextValue
  cases hp : field.protocolType <;> rw [hp] at ht <;> cases ht

/-- Valid parts come to the same value in both protocols. -/
lemma of_agree {text : Except Errc Value} {binary : Except Errc (Value × Bytes)} {rest : Bytes}
    {valid : Prop} {isDate : Bool} (h : Agree text binary rest valid (isDate = true) v)
    (hv : valid) : text = .ok (orNull isDate v) ∧ binary = .ok (orNull isDate v, rest) := by
  cases h with
  | invalid hn => exact absurd hv hn
  | null _ hd ht hb => rw [orNull, if_neg hd]; exact ⟨ht, hb⟩
  | value _ hd ht hb => rw [orNull, if_pos hd]; exact ⟨ht, hb⟩

lemma fractionSz_le {decimals : ℕ} (h : decimals ≤ 6) : fractionSz decimals ≤ 7 := by
  unfold fractionSz
  split_ifs <;> omega

/-- The text of a cell is decoded to its value. -/
lemma TextCell.read (hc : ConvertsIntegers lexical) {cell : Option Bytes × Value}
    (h : TextCell lexical field cell) : TextField lexical field cell := by
  have hlen (width : ℕ) (n : ℤ) (hl : width < 2 ^ 32) : (integerText width n).length < 2 ^ 64 :=
    (integerText_length width n).trans_lt (by omega)
  cases h with
  | null => exact .null
  | @uint64 size width v ht hu hv h0 hw hl =>
    refine .text (hlen width _ hl) ?_
    rw [deserializeTextValue_int ht, deserializeTextValueInt, if_pos hu, hc.toUInt64 v width h0 hw]
  | @int64 size width v ht hu hv h0 hw hl =>
    refine .text (hlen width _ hl) ?_
    rw [deserializeTextValue_int ht, deserializeTextValueInt, hu, if_neg (by decide),
      hc.toInt64 v width h0 hw]
  | @float bits s ht hf hs hl =>
    refine .text hl ?_
    rw [deserializeTextValue, ht]
    simp only [deserializeTextValueFloat, hs, hf, Bool.false_eq_true, if_false]
  | @double bits s ht hf hs hl =>
    refine .text hl ?_
    rw [deserializeTextValue, ht]
    simp only [deserializeTextValueFloat, hs, hf, Bool.false_eq_true, if_false]
  | @date c ht hl =>
    refine .text ?_ (of_agree (date_agree ht (.inl rfl) []) hl).1
    simp [Components.dateText, TextReadings.dateText]
  | @datetime c ht hd hl =>
    refine .text ?_ (of_agree (datetime_agree ht hd (.inl rfl) []) hl).1
    have hf := fractionSz_le c.decimals_le
    simp only [Components.datetimeText, List.length_append, List.length_cons, clockOf_length,
      Components.dateText, TextReadings.dateText, decimal_length]
    omega
  | @time d width ht hd hw =>
    refine .text ?_ (time_agree ht hd (.inl rfl) hw []).1
    have hf := fractionSz_le d.decimals_le
    have hw3 : width ≤ 3 := by
      obtain ⟨rfl | rfl, -⟩ := hw <;> decide
    have hsign : (if d.isNegative then [dash] else [] : Bytes).length ≤ 1 := by split <;> decide
    simp only [Duration.text, List.length_append, clockOf_length]
    omega
  | string ht hl => exact .text hl (deserializeTextValue_string ht _)

end Cells

/-! ### Rows -/

/-- The cells of a text row, one after the other. -/
inductive IsTextRow (lexical : LexicalConvert) (fields : List FieldMetadata) : Bytes → Row → Prop
  | mk {cells : List (Option Bytes × Value)} (h : List.Forall₂ (TextCell lexical) fields cells) :
      IsTextRow lexical fields (encodeTextFields cells) (cells.map Prod.snd)

/-- The cells of a binary row, behind a bitmap of those that are NULL. -/
inductive IsBinaryRow (fields : List FieldMetadata) : Bytes → Row → Prop
  | mk {cells : List (Option Bytes × Value)} {bitmap : Bytes}
      (h : List.Forall₂ BinaryCell fields cells) (hb : RowBitmap cells bitmap) :
      IsBinaryRow fields (encodeBinaryRow bitmap cells) (cells.map Prod.snd)

/-- How the rows of a resultset are encoded. -/
inductive RowEncoding
  | text
  | binary
  deriving DecidableEq

/-- A row of a server: its message, and its values. -/
def RowEncoding.IsRow (lexical : LexicalConvert) :
    RowEncoding → List FieldMetadata → Bytes → Row → Prop
  | .text => IsTextRow lexical
  | .binary => IsBinaryRow

/-- What the client decodes them with. -/
def RowEncoding.deserializer (lexical : LexicalConvert) : RowEncoding → DeserializeRowFn
  | .text => deserializeTextRow lexical
  | .binary => deserializeBinaryRow

section Rows

variable {lexical : LexicalConvert} {fields : List FieldMetadata} {message : Bytes} {row : Row}

lemma IsTextRow.read (hc : ConvertsIntegers lexical) (h : IsTextRow lexical fields message row) :
    TextRow lexical fields message row := by
  cases h with
  | mk h => exact .mk (h.imp fun _ _ hcell => hcell.read hc)

lemma IsBinaryRow.read (h : IsBinaryRow fields message row) : BinaryRow fields message row := by
  cases h with
  | mk h hb => exact .mk (h.imp fun _ _ hcell => hcell.field) hb

lemma RowEncoding.rowMessage (hc : ConvertsIntegers lexical) {encoding : RowEncoding}
    (hne : fields ≠ []) (h : encoding.IsRow lexical fields message row) (caps : Capabilities) :
    RowMessage ⟨encoding.deserializer lexical, caps, fields⟩ message row := by
  cases encoding with
  | text => exact textRow_message caps hne (h.read hc)
  | binary => exact binaryRow_message caps h.read

lemma RowEncoding.not_eof (hc : ConvertsIntegers lexical) {encoding : RowEncoding}
    (hne : fields ≠ []) (h : encoding.IsRow lexical fields message row)
    (hl : message.length < maxPacketSize) : message.head? ≠ some eofPacketHeader := by
  cases encoding with
  | text => exact textRow_not_eof hne (h.read hc) hl
  | binary => exact binaryRow_not_eof h.read

end Rows

/-! ### Integers in decimal digits -/

def ofDigits (s : Bytes) : Option ℕ :=
  if s ≠ [] ∧ s.all isDigit = true then some (digitsValue s) else none

/-- Of the numbers, integers in decimal digits are converted, with a minus where they are
negative. -/
def decimalIntegers : LexicalConvert where
  toUInt64 s := (ofDigits s).bind fun n => if n < 2 ^ 64 then some (.ofNat n) else none
  toInt64 s :=
    if s.head? = some dash then
      (ofDigits s.tail).bind fun n => if n ≤ 2 ^ 63 then some (.ofInt (-n)) else none
    else (ofDigits s).bind fun n => if n < 2 ^ 63 then some (.ofInt n) else none
  toFloat _ := none
  toDouble _ := none

lemma ofDigits_decimal {width n : ℕ} (h0 : 0 < width) (h : n < 10 ^ width) :
    ofDigits (decimal width n) = some n := by
  have hne : decimal width n ≠ [] := by
    intro hnil
    have hl := decimal_length width n
    rw [hnil, List.length_nil] at hl
    omega
  have hall : (decimal width n).all isDigit = true :=
    List.all_eq_true.mpr fun b hb => isDigit_iff.mpr (mem_decimal hb)
  rw [ofDigits, if_pos ⟨hne, hall⟩, digitsValue_decimal h]

lemma decimal_head (width n : ℕ) : (decimal width n).head? ≠ some dash := by
  intro h
  have hb := mem_decimal (List.mem_of_mem_head? h)
  exact absurd hb.1 (by decide)

lemma decimalIntegers_converts : ConvertsIntegers decimalIntegers where
  toUInt64 v width h0 hw := by
    have hn : ¬ (v.toNat : ℤ) < 0 := by omega
    have hv : v.toNat < 2 ^ 64 := v.toNat_lt
    rw [integerText, if_neg hn, List.nil_append, Int.natAbs_natCast]
    simp only [decimalIntegers, ofDigits_decimal h0 hw, Option.bind_some, if_pos hv,
      UInt64.ofNat_toNat]
  toInt64 v width h0 hw := by
    have hlo : -2 ^ 63 ≤ v.toInt := v.le_toInt
    have hhi : v.toInt < 2 ^ 63 := v.toInt_lt
    by_cases hn : v.toInt < 0
    · have habs : (v.toInt.natAbs : ℤ) = -v.toInt := by omega
      have hle : v.toInt.natAbs ≤ 2 ^ 63 := by omega
      rw [integerText, if_pos hn]
      simp only [decimalIntegers, List.cons_append, List.nil_append, List.head?_cons, if_true,
        List.tail_cons, ofDigits_decimal h0 hw, Option.bind_some, if_pos hle, habs, Int.neg_neg,
        Int64.ofInt_toInt]
    · have habs : (v.toInt.natAbs : ℤ) = v.toInt := by omega
      have hlt : v.toInt.natAbs < 2 ^ 63 := by omega
      rw [integerText, if_neg hn]
      simp only [decimalIntegers, List.nil_append, if_neg (decimal_head width _),
        ofDigits_decimal h0 hw, Option.bind_some, if_pos hlt, habs, Int64.ofInt_toInt]

end MysqlAsio.RowEncodings
