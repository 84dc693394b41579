import MysqlAsio.BinaryRows

/-!
The rows of the text protocol: read back, cut short, followed by more, and taken for no others.
-/

namespace MysqlAsio.TextRows

open MysqlAsio.Errors MysqlAsio.Serialization MysqlAsio.CommonMessages MysqlAsio.Values
open MysqlAsio.TextDeserialization MysqlAsio.BinaryRoundTrip MysqlAsio.ReadRow
open MysqlAsio.ServerRows MysqlAsio.WireTypes MysqlAsio.BinaryRows MysqlAsio.TemporalLengths
open MysqlAsio.Lib.Decoding

/-! ### Rows that are cut short -/

section Short

variable {lexical : LexicalConvert} {fields : List FieldMetadata}
  {cells : List (Option Bytes × Value)}

/-- A part of a length is not taken for a NULL. -/
lemma isNextFieldNull_shortened {s p rest : Bytes} (hp : p <+: serializeStringLenenc s ++ rest) :
    isNextFieldNull p = false := by
  cases p with
  | nil => rfl
  | cons b p =>
    obtain ⟨t, ht⟩ := hp
    have hn := isNextFieldNull_stringLenenc s rest
    rw [← ht] at hn
    exact hn

lemma textFields_null (field : FieldMetadata) (p : Bytes) :
    deserializeTextFields lexical (field :: fields) (0xfb :: p) = (do
      let values ← deserializeTextFields lexical fields
      pure (.null :: values) : Deserializer (List Value)) p := by
  have hn : isNextFieldNull (0xfb :: p) = true := rfl
  rw [deserializeTextFields, get_bind, if_pos hn, bind_ok (deserializeInt1_cons 0xfb p)]

lemma textFields_text {field : FieldMetadata} {p : Bytes} (hp : isNextFieldNull p = false) :
    deserializeTextFields lexical (field :: fields) p = (do
      let valueStr ← deserializeStringLenenc
      let value ← (deserializeTextValue lexical valueStr field : Except Errc Value)
      let values ← deserializeTextFields lexical fields
      pure (value :: values) : Deserializer (List Value)) p := by
  rw [deserializeTextFields, get_bind, if_neg (Bool.eq_false_iff.mp hp)]

lemma textValue_reads {field : FieldMetadata} {s : Bytes} {v : Value}
    (hv : deserializeTextValue lexical s field = .ok v) :
    Reads (liftM (deserializeTextValue lexical s field) : Deserializer Value) [] v := by
  intro rest
  rw [hv]
  rfl

/-- The cut is in the first field, which is then not a NULL, or behind it. -/
lemma textFields_short (h : List.Forall₂ (TextField lexical) fields cells) :
    Short (deserializeTextFields lexical fields) (encodeTextFields cells) .incompleteMessage := by
  induction h with
  | nil => exact short_nil _ _
  | @cons field cell fields cells hcell _ ih =>
    intro p hp hne
    rw [encodeTextFields, List.flatMap_cons] at hp hne
    cases hcell with
    | null =>
      cases p with
      | nil => rfl
      | cons b p =>
        obtain ⟨rfl, hp'⟩ := List.cons_prefix_cons.mp hp
        rw [textFields_null]
        exact ih.bind_any _ p hp' fun he => hne (by rw [he]; rfl)
    | @text s v hs hv =>
      have hr := stringLenenc_exact hs
      rw [textFields_text (isNextFieldNull_shortened hp)]
      refine hr.short.bind hr.reads ?_ p hp hne
      exact (short_nil _ _).bind (textValue_reads hv) (ih.bind_any _)

end Short

/-! ### No row is taken for another -/

/-- What a string column has of a cell. -/
def stringOf : Option Bytes → Value
  | none => .null
  | some s => .string s

lemma stringOf_injective : Function.Injective stringOf := by
  intro s t h
  cases s <;> cases t <;> cases h <;> rfl

section Confusion

variable {lexical : LexicalConvert} {fields : List FieldMetadata}
  {cells cells' : List (Option Bytes × Value)}

lemma textFields_asStrings (h : List.Forall₂ (TextField lexical) fields cells) :
    List.Forall₂ (TextField lexical) (fields.map fun _ => typedField .varchar false)
      (cells.map fun cell => (cell.1, stringOf cell.1)) := by
  induction h with
  | nil => exact .nil
  | cons hcell _ ih =>
    refine .cons ?_ ih
    cases hcell with
    | null => exact .null
    | text hs _ => exact .text hs rfl

lemma encodeTextFields_asStrings (cells : List (Option Bytes × Value)) :
    encodeTextFields (cells.map fun cell => (cell.1, stringOf cell.1)) = encodeTextFields cells := by
  rw [encodeTextFields, encodeTextFields, List.flatMap_map]

/-- A row read as strings shows which cells were NULL, and the texts of the others. -/
lemma encodeTextFields_injective (h : List.Forall₂ (TextField lexical) fields cells)
    (h' : List.Forall₂ (TextField lexical) fields cells')
    (he : encodeTextFields cells' = encodeTextFields cells) :
    cells'.map Prod.fst = cells.map Prod.fst := by
  have hr := (textFields_read (textFields_asStrings h)).exact
  have hr' := (textFields_read (textFields_asStrings h')).exact
  rw [encodeTextFields_asStrings] at hr hr'
  rw [he, hr] at hr'
  rw [Except.ok.injEq, Prod.mk.injEq] at hr'
  have hmap : ∀ cells : List (Option Bytes × Value),
      (cells.map fun cell => (cell.1, stringOf cell.1)).map Prod.snd =
        (cells.map Prod.fst).map stringOf := fun cells => by simp [Function.comp_def]
  have hs := hr'.1
  rw [hmap, hmap] at hs
  exact (List.map_injective_iff.mpr stringOf_injective hs).symm

lemma textField_string {field : FieldMetadata} {cell : Option Bytes × Value}
    (h : TextField lexical field cell) (ht : IsStringLike field.protocolType) :
    cell.2 = stringOf cell.1 := by
  cases h with
  | null => rfl
  | @text s v hs hv =>
    obtain ⟨h1, h2, h3, h4⟩ := ht
    unfold deserializeTextValue at hv
    cases hp : field.protocolType <;> rw [hp] at h1 h2 h3 h4 hv
    case tiny | short | year | int24 | long | longlong => cases h1
    case date | datetime | timestamp | time => cases h2
    case float => exact absurd rfl h3
    case double => exact absurd rfl h4
    all_goals
      cases hv
      rfl

lemma deserializeTextValue_string {field : FieldMetadata} (ht : IsStringLike field.protocolType)
    (s : Bytes) : deserializeTextValue lexical s field = .ok (.string s) := by
  obtain ⟨h1, h2, h3, h4⟩ := ht
  unfold deserializeTextValue
  cases hp : field.protocolType <;> rw [hp] at h1 h2 h3 h4
  case tiny | short | year | int24 | long | longlong => cases h1
  case date | datetime | timestamp | time => cases h2
  case float => exact absurd rfl h3
  case double => exact absurd rfl h4
  all_goals rfl

end Confusion

/-- **A row of the text protocol is read back**, whatever its columns are, a part of it is
incomplete, and what follows it is extra; no other row has its bytes, and a string column keeps
NULLs and texts apart. -/
theorem textRow_delimited {lexical : LexicalConvert} {fields : List FieldMetadata}
    {cells : List (Option Bytes × Value)} (h : List.Forall₂ (TextField lexical) fields cells)
    (caps : Capabilities) :
    deserializeTextRow lexical ⟨encodeTextFields cells, caps⟩ fields = .ok (cells.map Prod.snd) ∧
    (∀ p, p <+: encodeTextFields cells → p ≠ encodeTextFields cells →
      deserializeTextRow lexical ⟨p, caps⟩ fields = .error (makeErrorCode .incompleteMessage)) ∧
    (∀ extra, extra ≠ [] → deserializeTextRow lexical ⟨encodeTextFields cells ++ extra, caps⟩
      fields = .error (makeErrorCode .extraBytes)) ∧
    (∀ cells', List.Forall₂ (TextField lexical) fields cells' →
      encodeTextFields cells' = encodeTextFields cells →
      cells'.map Prod.fst = cells.map Prod.fst) ∧
    List.Forall₂ (fun field cell => IsStringLike field.protocolType →
      cell.2 = stringOf cell.1) fields cells :=
  ⟨textRow_decodes (.mk h) caps,
    fun _ hp hne => deserializeMessage_short (textFields_short h) hp hne caps,
    fun _ hne => deserializeMessage_extra (textFields_read h) hne caps,
    fun _ h' he => encodeTextFields_injective h h' he, h.imp fun _ _ hc => textField_string hc⟩

/-- A NULL, an empty string and a string of the byte that stands for a NULL. -/
theorem textRow_delimited_nulls :
    deserializeTextRow ⟨fun _ => none, fun _ => none, fun _ => none, fun _ => none⟩
      ⟨[0xfb, 0x00, 0x01, 0xfb], ⟨0⟩⟩ (List.replicate 3 (typedField .varchar false)) =
      .ok [.null, .string [], .string [0xfb]] :=
  (textRow_delimited (.cons .null (.cons (.text (s := []) (by decide) rfl)
    (.cons (.text (s := [0xfb]) (by decide) rfl) .nil))) ⟨0⟩).1

end MysqlAsio.TextRows
