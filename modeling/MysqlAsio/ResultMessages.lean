import MysqlAsio.PreparedStatementMessages
import MysqlAsio.WireTypes

/-!
The messages that describe results: what a server encodes is decoded to what was encoded, less of
it is incomplete, and more of it has extra bytes. The text of an OK packet may be left out.
-/

namespace MysqlAsio.ResultMessages

open MysqlAsio.Errors MysqlAsio.Serialization MysqlAsio.CommonMessages MysqlAsio.WireTypes
open MysqlAsio.PreparedStatementMessages MysqlAsio.Lib.Decoding

/-! ### Encodings -/

/-- A column definition; the client ignores the length of the fixed fields and the padding. -/
def columnDefinitionBytes (c : ColumnDefinitionPacket) (lengthOfFixedFields : UInt64)
    (finalPadding : UInt16) : Bytes :=
  serializeStringLenenc c.catalog ++ (serializeStringLenenc c.schema ++
    (serializeStringLenenc c.table ++ (serializeStringLenenc c.orgTable ++
      (serializeStringLenenc c.name ++ (serializeStringLenenc c.orgName ++
        (serializeIntLenenc lengthOfFixedFields ++ (serializeInt2 c.characterSet.id ++
          (serializeInt4 c.columnLength ++ (serializeInt1 c.type.code ++
            (serializeInt2 c.flags ++ (serializeInt1 c.decimals ++
              serializeInt2 finalPadding)))))))))))

/-- A prepare response, after its header byte, with the reserved byte. -/
def prepareOkBytes (p : ComStmtPrepareOkPacket) (reserved : UInt8) : Bytes :=
  serializeInt4 p.statementId ++ (serializeInt2 p.numColumns ++ (serializeInt2 p.numParams ++
    (serializeInt1 reserved ++ serializeInt2 p.warningCount)))

/-! ### Messages that end where their fields do -/

/-- A message is decoded to what it encodes, and neither a part of it nor more than it is. -/
structure Inverts {α : Type} (d : Deserializer α) (w : Bytes) (a : α) : Prop where
  whole : ∀ caps, deserializeMessage d ⟨w, caps⟩ = .ok a
  cut : ∀ caps p, p <+: w → p ≠ w →
    deserializeMessage d ⟨p, caps⟩ = .error (makeErrorCode .incompleteMessage)
  extended : ∀ caps extra, extra ≠ [] →
    deserializeMessage d ⟨w ++ extra, caps⟩ = .error (makeErrorCode .extraBytes)

lemma inverts_of_delimits {α : Type} {d : Deserializer α} {w : Bytes} {a : α}
    (h : Delimits d w a .incompleteMessage) : Inverts d w a where
  whole _ := deserializeMessage_ok h.reads.exact
  cut caps _ hp hne := deserializeMessage_short h.short hp hne caps
  extended caps _ hne := deserializeMessage_extra h.reads hne caps

lemma int1_delimits (v : UInt8) :
    Delimits deserializeInt1 (serializeInt1 v) v .incompleteMessage :=
  (fixedSizeInt_exact .int1 v trivial).delimits

lemma int2_delimits (v : UInt16) :
    Delimits deserializeInt2 (serializeInt2 v) v .incompleteMessage :=
  (fixedSizeInt_exact .int2 v trivial).delimits

lemma int4_delimits (v : UInt32) :
    Delimits deserializeInt4 (serializeInt4 v) v .incompleteMessage :=
  (fixedSizeInt_exact .int4 v trivial).delimits

lemma stringLenenc_delimits {s : Bytes} (h : s.length < 2 ^ 64) :
    Delimits deserializeStringLenenc (serializeStringLenenc s) s .incompleteMessage :=
  (stringLenenc_exact h).delimits

lemma columnDefinition_delimits {c : ColumnDefinitionPacket} (h : c.WellFormed)
    (lengthOfFixedFields : UInt64) (finalPadding : UInt16) :
    Delimits deserializeColumnDefinitionPacket
      (columnDefinitionBytes c lengthOfFixedFields finalPadding) c .incompleteMessage := by
  unfold deserializeColumnDefinitionPacket columnDefinitionBytes
  refine (stringLenenc_delimits h.catalog).bind ?_
  refine (stringLenenc_delimits h.schema).bind ?_
  refine (stringLenenc_delimits h.table).bind ?_
  refine (stringLenenc_delimits h.orgTable).bind ?_
  refine (stringLenenc_delimits h.name).bind ?_
  refine (stringLenenc_delimits h.orgName).bind ?_
  refine (intLenenc_exact lengthOfFixedFields).delimits.bind ?_
  refine (int2_delimits c.characterSet.id).bind ?_
  refine (int4_delimits c.columnLength).bind ?_
  refine (int1_delimits c.type.code).bind ?_
  refine (int2_delimits c.flags).bind ?_
  refine (int1_delimits c.decimals).bind ?_
  refine (int2_delimits finalPadding).bind_pure ?_
  rw [h.type]
  exact reads_pure c

lemma prepareOk_delimits (p : ComStmtPrepareOkPacket) (reserved : UInt8) :
    Delimits deserializeComStmtPrepareOkPacket (prepareOkBytes p reserved) p
      .incompleteMessage := by
  unfold deserializeComStmtPrepareOkPacket prepareOkBytes
  refine (int4_delimits p.statementId).bind ?_
  refine (int2_delimits p.numColumns).bind ?_
  refine (int2_delimits p.numParams).bind ?_
  refine (int1_delimits reserved).bind ?_
  exact (int2_delimits p.warningCount).bind_pure (reads_pure p)

/-! ### OK packets -/

section Ok

variable (output ok : OkPacket)

lemma encodeOkPacket_eq :
    encodeOkPacket ok false = encodeOkPacket ok true ++ serializeStringLenenc ok.info := by
  simp [encodeOkPacket]

lemma okPacket_numbers (left : Bytes) :
    deserializeOkPacket output (encodeOkPacket ok true ++ left) =
      (if left = [] then
        pure { output with
          affectedRows := ok.affectedRows, lastInsertId := ok.lastInsertId,
          statusFlags := ok.statusFlags, warnings := ok.warnings }
      else do
        let info ← deserializeStringLenenc
        pure { ok with info } : Deserializer OkPacket) left := by
  unfold deserializeOkPacket encodeOkPacket
  simp only [if_true, List.append_nil, List.append_assoc]
  rw [bind_ok (intLenenc_reads _ _), bind_ok (intLenenc_reads _ _), bind_ok (int2_reads _ _),
    bind_ok (int2_reads _ _), get_bind]

lemma okPacket_numbers_short :
    Short (deserializeOkPacket output) (encodeOkPacket ok true) .incompleteMessage := by
  unfold deserializeOkPacket encodeOkPacket
  rw [if_pos rfl, List.append_nil]
  have ha := (intLenenc_exact ok.affectedRows).delimits
  have hl := (intLenenc_exact ok.lastInsertId).delimits
  have hs := int2_delimits ok.statusFlags
  refine ha.short.bind ha.reads (hl.short.bind hl.reads (hs.short.bind hs.reads ?_))
  exact (int2_delimits ok.warnings).short.bind_any _

variable {ok}

/-- A text that begins has to be there to its end. -/
lemma okPacket_info_short (h : ok.info.length < 2 ^ 64) {p : Bytes}
    (hp : p <+: encodeOkPacket ok false) (hne : p ≠ encodeOkPacket ok false)
    (homit : p ≠ encodeOkPacket ok true) :
    deserializeOkPacket output p = .error .incompleteMessage := by
  rw [encodeOkPacket_eq] at hp hne
  rcases prefix_append_cases hp hne with ⟨h1, h2⟩ | ⟨q, rfl, h1, h2⟩
  · exact okPacket_numbers_short output ok p h1 h2
  · have hq : q ≠ [] := by
      rintro rfl
      exact homit (List.append_nil _)
    rw [okPacket_numbers, if_neg hq]
    exact bind_error ((stringLenenc_delimits h).short q h1 h2)

end Ok

/-! ### All of them -/

/-- An OK packet is decoded to what it encodes, and where its text is omitted `output` keeps its
own, which is empty in a packet that was only declared. A part of it is neither. -/
structure InvertsOk (output ok : OkPacket) : Prop where
  present : ∀ caps, deserializeMessage (deserializeOkPacket output) ⟨encodeOkPacket ok false, caps⟩ =
    .ok ok
  omitted : ∀ caps, deserializeMessage (deserializeOkPacket output) ⟨encodeOkPacket ok true, caps⟩ =
    .ok { ok with info := output.info }
  cut : ∀ caps p, p <+: encodeOkPacket ok false → p ≠ encodeOkPacket ok false →
    p ≠ encodeOkPacket ok true →
    deserializeMessage (deserializeOkPacket output) ⟨p, caps⟩ =
      .error (makeErrorCode .incompleteMessage)

lemma invertsOk (output : OkPacket) {ok : OkPacket} (h : ok.info.length < 2 ^ 64) :
    InvertsOk output ok where
  present _ := deserializeMessage_ok (okPacket_decodes output false h)
  omitted _ := deserializeMessage_ok (okPacket_decodes output true h)
  cut _ p hp hne homit := by
    simp only [deserializeMessage, okPacket_info_short output h hp hne homit]

/-- **Decoding inverts the encoding of the messages that describe results.** -/
theorem resultMessages_inverted :
    (∀ (c : ColumnDefinitionPacket) (lengthOfFixedFields : UInt64) (finalPadding : UInt16),
      c.WellFormed → Inverts deserializeColumnDefinitionPacket
        (columnDefinitionBytes c lengthOfFixedFields finalPadding) c) ∧
    (∀ (p : ComStmtPrepareOkPacket) (reserved : UInt8),
      Inverts deserializeComStmtPrepareOkPacket (prepareOkBytes p reserved) p) ∧
    (∀ output ok : OkPacket, ok.info.length < 2 ^ 64 → InvertsOk output ok) :=
  ⟨fun _ _ _ h => inverts_of_delimits (columnDefinition_delimits h _ _),
    fun p reserved => inverts_of_delimits (prepareOk_delimits p reserved),
    fun output _ h => invertsOk output h⟩

/-- The definition of a column `id`, and an OK packet with a text. -/
theorem resultMessages_inverted_id :
    Inverts deserializeColumnDefinitionPacket
      (columnDefinitionBytes ⟨ascii "def", ascii "db", ascii "t", ascii "t", ascii "id",
        ascii "id", ⟨33⟩, 20, .longlong, 32, 0⟩ 0x0c 0)
      ⟨ascii "def", ascii "db", ascii "t", ascii "t", ascii "id", ascii "id", ⟨33⟩, 20,
        .longlong, 32, 0⟩ ∧
    InvertsOk .default ⟨4, 0, 34, 0, ascii "Rows matched: 5"⟩ :=
  ⟨resultMessages_inverted.1 _ 0x0c 0 ⟨by decide, by decide, by decide, by decide, by decide,
      by decide, rfl⟩,
    resultMessages_inverted.2.2 .default ⟨4, 0, 34, 0, ascii "Rows matched: 5"⟩ (by decide)⟩

end MysqlAsio.ResultMessages
