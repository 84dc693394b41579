import MysqlAsio.BinaryRoundTrip
import MysqlAsio.FieldTypes
import MysqlAsio.InfoOwnership
import MysqlAsio.TextRows

/-!
The strings of rows, which are views of the buffers the rows were read into.

A row that is fetched with others owns its buffer; one that is fetched alone is in the buffer of
the resultset.
-/

namespace MysqlAsio.RowViews

open MysqlAsio.Errors MysqlAsio.Serialization MysqlAsio.CommonMessages MysqlAsio.Values
open MysqlAsio.NullBitmap MysqlAsio.BinaryDeserialization MysqlAsio.BinaryRoundTrip
open MysqlAsio.TextDeserialization
open MysqlAsio.Temporal MysqlAsio.TemporalLengths MysqlAsio.BinaryRows MysqlAsio.TextRows
open MysqlAsio.Channels MysqlAsio.Framing
open MysqlAsio.ReadRow MysqlAsio.Resultset MysqlAsio.FieldTypes MysqlAsio.InfoOwnership
open MysqlAsio.Lib.Decoding MysqlAsio.Lib.Views

/-! ### Where the strings are -/

/-- Where a string is in a message, and how long. -/
abbrev Range := ℕ × ℕ

/-- The deserialization of a `string_lenenc`, of which only a view is made. -/
def stringLenencRange (size : ℕ) : Deserializer (Bytes × Range) := do
  let length ← deserializeIntLenenc
  let here ← get
  let s ← takeN .incompleteMessage length.toNat
  pure (s, size - here.length, length.toNat)

instance (type : ProtocolFieldType) : Decidable (IsStringLike type) :=
  inferInstanceAs (Decidable (_ ∧ _ ∧ _ ∧ _))

/-- The strings of a text row. -/
def textRanges (lexical : LexicalConvert) (size : ℕ) :
    List FieldMetadata → Deserializer (List (Option Range))
  | [] => pure []
  | field :: fields => do
    let left ← get
    if isNextFieldNull left then
      let _null ← deserializeInt1
      let ranges ← textRanges lexical size fields
      pure (none :: ranges)
    else
      let valueStr ← stringLenencRange size
      let _value ← (deserializeTextValue lexical valueStr.1 field : Except Errc Value)
      let ranges ← textRanges lexical size fields
      pure ((if IsStringLike field.protocolType then some valueStr.2 else none) :: ranges)

/-- The string of a binary value. -/
def binaryRange (size : ℕ) (field : FieldMetadata) : Deserializer (Option Range) :=
  if IsStringLike field.protocolType then (fun r => some r.2) <$> stringLenencRange size
  else (fun _ => none) <$> deserializeBinaryValue field

/-- The strings of a binary row, behind its bitmap. -/
def binaryRanges (traits : NullBitmapTraits) (bitmap : Bytes) (size : ℕ) :
    ℕ → List FieldMetadata → Deserializer (List (Option Range))
  | _, [] => pure []
  | i, field :: fields => do
    let range ← if traits.isNull bitmap i then pure none else binaryRange size field
    let ranges ← binaryRanges traits bitmap size (i + 1) fields
    pure (range :: ranges)

/-- How the rows of a resultset are encoded. -/
inductive Encoding
  | text (lexical : LexicalConvert)
  | binary

namespace Encoding

def deserializer : Encoding → DeserializeRowFn
  | .text lexical => deserializeTextRow lexical
  | .binary => deserializeBinaryRow

/-- What is left to deserialize when the strings come. -/
def ranges (encoding : Encoding) (fields : List FieldMetadata) (message : Bytes) :
    List (Option Range) :=
  let deserialized : Except Errc (List (Option Range) × Bytes) :=
    match encoding with
    | .text lexical => textRanges lexical message.length fields message
    | .binary =>
      let left := message.drop 1
      let traits : NullBitmapTraits := ⟨binaryRowNullBitmapOffset, fields.length⟩
      binaryRanges traits (left.take traits.byteCount) message.length 0 fields
        (left.drop traits.byteCount)
  deserialized.toOption.elim [] Prod.fst

end Encoding

/-- What a value of a message refers to: a string to a part of the message. -/
inductive Refers (message : Bytes) : Option Range → Value → Prop
  | string {offset : ℕ} {s : Bytes} (hle : offset + s.length ≤ message.length)
      (hs : (message.drop offset).take s.length = s) :
      Refers message (some (offset, s.length)) (.string s)
  | other {v : Value} (h : alternative v ≠ some .string) : Refers message none v

section Refers

variable {message s t : Bytes} {field : FieldMetadata} {v : Value}

/-- A string that is deserialized is where its view is. -/
lemma stringLenencRange_refers (hs : s <:+ message) {w : Bytes}
    (h : deserializeStringLenenc s = .ok (w, t)) :
    ∃ range, stringLenencRange message.length s = .ok ((w, range), t) ∧ t <:+ message ∧
      Refers message (some range) (.string w) := by
  obtain ⟨length, here, h1, h2⟩ := of_bind_ok h
  obtain ⟨hle, rfl, rfl⟩ := of_takeN_ok h2
  have hhere : here <:+ message := (intLenenc_consumes _ _ _ h1).trans hs
  have hlen : (here.take length.toNat).length = length.toNat := by
    rw [List.length_take]
    omega
  refine ⟨(message.length - here.length, length.toNat), ?_,
    (List.drop_suffix _ _).trans hhere, ?_⟩
  · rw [stringLenencRange, bind_ok h1, get_bind, bind_ok h2]
    rfl
  · obtain ⟨used, rfl⟩ := hhere
    have hr := @Refers.string (used ++ here) used.length (here.take length.toNat)
    rw [hlen] at hr
    rw [List.length_append, Nat.add_sub_cancel]
    refine hr ?_ ?_
    · rw [List.length_append]
      omega
    · rw [List.drop_left]

lemma isStringLike_iff (type : ProtocolFieldType) (isUnsigned : Bool) :
    decodedAlternative type isUnsigned = .string ↔ IsStringLike type := by
  cases type <;> cases isUnsigned <;> simp [decodedAlternative, IsStringLike, intSize, temporalForm]

lemma null_not_string : alternative .null ≠ some .string := by decide

lemma not_string {within : Value → Prop}
    (h : Holds within (decodedAlternative field.protocolType field.isUnsigned) v)
    (ht : ¬ IsStringLike field.protocolType) : alternative v ≠ some .string := by
  rcases h with rfl | ⟨ha, -⟩
  · exact null_not_string
  · rw [ha, ne_eq, Option.some.injEq, isStringLike_iff]
    exact ht

lemma textFields_refer {lexical : LexicalConvert} {fields : List FieldMetadata}
    {values : List Value} (hs : s <:+ message)
    (h : deserializeTextFields lexical fields s = .ok (values, t)) :
    ∃ ranges, textRanges lexical message.length fields s = .ok (ranges, t) ∧
      List.Forall₂ (Refers message) ranges values := by
  induction fields generalizing s values with
  | nil =>
    cases h
    exact ⟨[], rfl, .nil⟩
  | cons field fields ih =>
    rw [deserializeTextFields, get_bind] at h
    rw [textRanges, get_bind]
    by_cases hn : isNextFieldNull s = true
    · rw [if_pos hn] at h ⊢
      obtain ⟨b, s1, h1, h⟩ := of_bind_ok h
      obtain ⟨rest, s2, h2, h⟩ := of_bind_ok h
      cases h
      obtain ⟨ranges, hr, hall⟩ := ih ((fixedSizeInt_consumes _ 1 _ _ _ h1).trans hs) h2
      exact ⟨none :: ranges, by rw [bind_ok h1, bind_ok hr]; rfl, .cons (.other null_not_string) hall⟩
    · rw [if_neg hn] at h ⊢
      obtain ⟨valueStr, s1, h1, h⟩ := of_bind_ok h
      obtain ⟨value, s2, h2, h⟩ := of_bind_ok h
      obtain ⟨rest, s3, h3, h⟩ := of_bind_ok h
      cases h
      have hv := of_lift_ok h2
      obtain rfl : s1 = s2 := by
        rw [hv] at h2
        cases h2
        rfl
      obtain ⟨range, hrange, hs1, hrefers⟩ := stringLenencRange_refers hs h1
      obtain ⟨ranges, hr, hall⟩ := ih hs1 h3
      refine ⟨_, by rw [bind_ok hrange, bind_ok h2, bind_ok hr]; rfl, .cons ?_ hall⟩
      split_ifs with ht
      · rw [deserializeTextValue_string ht] at hv
        cases hv
        exact hrefers
      · exact .other (not_string (textValue_holds hv) ht)

lemma binaryValue_consumes (field : FieldMetadata) : Consumes (deserializeBinaryValue field) := by
  intro s v t h
  have hint {U S : Type} {unsigned : Deserializer U} {signed : Deserializer S} {f : U → UInt64}
      {g : S → Int64} (hu : Consumes unsigned) (hg : Consumes signed)
      (hi : deserializeBinaryValueInt unsigned signed f g field s = .ok (v, t)) : t <:+ s := by
    rcases of_ite_ok hi with ⟨-, h⟩ | ⟨-, h⟩
    · exact hu.map _ _ _ _ h
    · exact hg.map _ _ _ _ h
  have hfloat {T : Type} {bits : Deserializer T} {notFinite : T → Bool} {value : T → Value}
      (hb : Consumes bits)
      (hf : deserializeBinaryValueFloat bits notFinite value s = .ok (v, t)) : t <:+ s := by
    obtain ⟨x, s1, h1, h2⟩ := of_bind_ok hf
    rcases of_ite_ok h2 with ⟨-, h3⟩ | ⟨-, h3⟩ <;> cases h3
    exact hb _ _ _ h1
  generalize hd : deserializeBinaryValue field = d at h
  unfold deserializeBinaryValue at hd
  split at hd <;> subst hd
  case h_7 | h_8 => exact hfloat (fixedSizeInt_consumes _ _) h
  case h_9 | h_10 =>
    obtain ⟨f, rfl, -⟩ := of_datetime_ok h
    exact List.suffix_append _ _
  case h_11 =>
    obtain ⟨f, rfl, -⟩ := of_date_ok h
    exact List.suffix_append _ _
  case h_12 =>
    obtain ⟨f, rfl, -⟩ := of_time_ok h
    exact List.suffix_append _ _
  case h_13 =>
    refine Consumes.map _ ?_ _ _ _ h
    exact intLenenc_consumes.bind fun _ => takeN_consumes _ _
  all_goals
    refine hint ?_ ?_ h
    · exact fixedSizeInt_consumes _ _
    · exact (fixedSizeInt_consumes _ _).map _

lemma binaryRange_refers (hs : s <:+ message) (h : deserializeBinaryValue field s = .ok (v, t)) :
    ∃ range, binaryRange message.length field s = .ok (range, t) ∧ t <:+ message ∧
      Refers message range v := by
  have ht : t <:+ message := (binaryValue_consumes field _ _ _ h).trans hs
  unfold binaryRange
  split_ifs with hstring
  · rw [deserializeBinaryValue_string hstring] at h
    obtain ⟨w, hw, rfl⟩ := of_map_ok h
    obtain ⟨range, hrange, -, hrefers⟩ := stringLenencRange_refers hs hw
    exact ⟨some range, by rw [map_ok hrange], ht, hrefers⟩
  · exact ⟨none, by rw [map_ok h], ht, .other (not_string (binaryValue_holds h) hstring)⟩

lemma binaryFields_refer {traits : NullBitmapTraits} {bitmap : Bytes} {i : ℕ}
    {fields : List FieldMetadata} {values : List Value} (hs : s <:+ message)
    (h : deserializeBinaryFields traits bitmap i fields s = .ok (values, t)) :
    ∃ ranges, binaryRanges traits bitmap message.length i fields s = .ok (ranges, t) ∧
      List.Forall₂ (Refers message) ranges values := by
  induction fields generalizing i s values with
  | nil =>
    cases h
    exact ⟨[], rfl, .nil⟩
  | cons field fields ih =>
    rw [deserializeBinaryFields] at h
    rw [binaryRanges]
    rcases of_ite_ok h with ⟨hn, h⟩ | ⟨hn, h⟩
    · obtain ⟨value, s1, h1, h⟩ := of_bind_ok h
      obtain ⟨rest, s2, h2, h⟩ := of_bind_ok h
      cases h
      cases h1
      obtain ⟨ranges, hr, hall⟩ := ih hs h2
      refine ⟨none :: ranges, ?_, .cons (.other null_not_string) hall⟩
      rw [if_pos hn]
      exact (bind_ok rfl).trans (bind_ok hr)
    · obtain ⟨value, s1, h1, h⟩ := of_bind_ok h
      obtain ⟨rest, s2, h2, h⟩ := of_bind_ok h
      cases h
      obtain ⟨range, hrange, hs1, hrefers⟩ := binaryRange_refers hs h1
      obtain ⟨ranges, hr, hall⟩ := ih hs1 h2
      refine ⟨range :: ranges, ?_, .cons hrefers hall⟩
      rw [if_neg hn]
      exact (bind_ok hrange).trans (bind_ok hr)

/-- The strings of a row that is deserialized are where their views are. -/
lemma row_refers (encoding : Encoding) {caps : Capabilities} {fields : List FieldMetadata}
    {row : Row} (h : encoding.deserializer ⟨message, caps⟩ fields = .ok row) :
    List.Forall₂ (Refers message) (encoding.ranges fields message) row := by
  cases encoding with
  | text lexical =>
    obtain ⟨ranges, hr, hall⟩ :=
      textFields_refer (List.suffix_refl message) (of_deserializeMessage_ok h)
    rw [Encoding.ranges, hr]
    exact hall
  | binary =>
    simp only [Encoding.deserializer, deserializeBinaryRow] at h
    split_ifs at h with hlen
    obtain ⟨ranges, hr, hall⟩ := binaryFields_refer
      ((List.drop_suffix _ _).trans (List.drop_suffix 1 message)) (of_deserializeMessage_ok h)
    simp only [Encoding.ranges, hr]
    exact hall

end Refers

/-! ### What fetches do to the buffers -/

/-- A row is what was deserialized of the message in its buffer. -/
def InBuffer (rs : ResultSet) (heap : Heap Buffer UInt8) (row : FetchedRow) : Prop :=
  ∃ message caps, heap row.2 = some message ∧ rs.deserializer ⟨message, caps⟩ rs.fields = .ok row.1

/-- Rows are read as before. -/
structure SameRows (rs rs' : ResultSet) : Prop where
  deserializer : rs'.deserializer = rs.deserializer
  fields : rs'.fields = rs.fields

lemma sameRows_refl (rs : ResultSet) : SameRows rs rs := ⟨rfl, rfl⟩

lemma SameRows.trans {rs rs' rs'' : ResultSet} (h : SameRows rs rs') (h' : SameRows rs' rs'') :
    SameRows rs rs'' :=
  ⟨h'.deserializer.trans h.deserializer, h'.fields.trans h.fields⟩

lemma received_sameRows (rs : ResultSet) (result : ReadRowResult) :
    SameRows rs (rs.received result) := ⟨received_deserializer rs result, received_fields rs result⟩

lemma SameRows.inBuffer {rs rs' : ResultSet} (h : SameRows rs rs') {heap heap' : Heap Buffer UInt8}
    {row : FetchedRow} (hrow : InBuffer rs' heap row) (hh : heap' row.2 = heap row.2) :
    InBuffer rs heap' row := by
  obtain ⟨message, caps, hm, hd⟩ := hrow
  rw [h.deserializer, h.fields] at hd
  exact ⟨message, caps, hh.trans hm, hd⟩

/-- What reading a row into a buffer does. -/
structure Reads (b : Buffer) (s s' : Held) (result : ReadRowResult) : Prop where
  rs : s'.rs = s.rs
  frame : ∀ b', b' ≠ b → s'.heap b' = s.heap b'
  row : ∀ values, result = .row values → InBuffer s.rs s'.heap (values, b)

lemma readRow_reads (s : Held) (b : Buffer) :
    let r := s.readRow b
    Reads b s r.2.2 r.1 ∧ r.2.2.allocated = s.allocated := by
  rcases hr : s.channel.read with ⟨message, err, channel⟩
  have hframe (b' : Buffer) (hb : b' ≠ b) :
      Function.update s.heap b (some message) b' = s.heap b' := Function.update_of_ne hb _ _
  simp only [Held.readRow, hr]
  cases he : err.failed with
  | true =>
    simp only [if_true]
    exact ⟨⟨rfl, hframe, fun values h => by cases h⟩, trivial⟩
  | false =>
    rcases hp : processReadMessage s.rs.deserializer channel.currentCaps s.rs.fields message
      s.rs.okPacket .clear with ⟨result, err', info⟩
    simp only [Bool.false_eq_true, if_false]
    refine ⟨⟨rfl, hframe, fun values h => ?_⟩, trivial⟩
    obtain rfl : result = .row values := h
    exact ⟨message, channel.currentCaps, Function.update_self b (some message) s.heap,
      of_processReadMessage_row hp⟩

lemma Reads.ofAllocate {s s' : Held} {result : ReadRowResult}
    (h : Reads (.fetched s.allocated) s.allocate.2 s' result) :
    Reads (.fetched s.allocated) s s' result where
  rs := h.rs
  frame b hb := (h.frame b hb).trans (Function.update_of_ne hb _ _)
  row := h.row

/-- Rows are fetched, each into a buffer of its own: those from `lo` on, before `hi`. -/
structure Grows (lo hi : ℕ) (s s' : Held) (rows : List FetchedRow) : Prop where
  sameRows : SameRows s.rs s'.rs
  frame : ∀ b, (∀ k, lo ≤ k → b ≠ .fetched k) → s'.heap b = s.heap b
  distinct : (rows.map Prod.snd).Nodup
  rows : ∀ row ∈ rows, InBuffer s.rs s'.heap row ∧ ∃ k, row.2 = .fetched k ∧ lo ≤ k ∧ k < hi

section Grows

variable {lo hi n : ℕ} {s s' t u : Held} {rows : List FetchedRow} {values : Row}

lemma grows_nil (hs : SameRows s.rs s'.rs)
    (hf : ∀ b, (∀ k, lo ≤ k → b ≠ .fetched k) → s'.heap b = s.heap b) : Grows lo hi s s' [] :=
  ⟨hs, hf, List.nodup_nil, fun _ hr => absurd hr List.not_mem_nil⟩

lemma Grows.cons (h : Grows lo hi t u rows) (hr : Reads (.fetched n) s s' (.row values))
    (hs : SameRows s'.rs t.rs) (hf : ∀ b, (∀ k, lo ≤ k → b ≠ .fetched k) → t.heap b = s'.heap b)
    (hlo : n < lo) (hhi : n < hi) : Grows n hi s u ((values, .fetched n) :: rows) where
  sameRows := by
    rw [← hr.rs]
    exact hs.trans h.sameRows
  frame b hb := by
    have hb' (k : ℕ) (hk : lo ≤ k) : b ≠ .fetched k := hb k (by omega)
    rw [h.frame b hb', hf b hb', hr.frame b (hb n le_rfl)]
  distinct := by
    rw [List.map_cons, List.nodup_cons]
    refine ⟨fun hmem => ?_, h.distinct⟩
    obtain ⟨row, hrow, hb⟩ := List.mem_map.mp hmem
    obtain ⟨-, k, hk, hk', -⟩ := h.rows row hrow
    rw [hk, Buffer.fetched.injEq] at hb
    omega
  rows row hmem := by
    rcases List.mem_cons.mp hmem with rfl | hmem
    · -- the buffer of the first row is older than those of the others
      have hne (k : ℕ) (hk : lo ≤ k) : Buffer.fetched n ≠ .fetched k := by
        rw [ne_eq, Buffer.fetched.injEq]
        omega
      refine ⟨(sameRows_refl _).inBuffer (hr.row values rfl) ?_, n, rfl, le_rfl, hhi⟩
      rw [h.frame _ hne, hf _ hne]
    · obtain ⟨hin, k, hk, hk', hk''⟩ := h.rows row hmem
      rw [← hr.rs]
      exact ⟨hs.inBuffer hin rfl, k, hk, by omega, hk''⟩

lemma Reads.grows_nil {result : ReadRowResult} (hr : Reads (.fetched n) s s' result)
    (hs : SameRows s'.rs t.rs) (hf : ∀ b, b ≠ .fetched n → t.heap b = s'.heap b) :
    Grows n hi s t [] := by
  rw [hr.rs] at hs
  refine RowViews.grows_nil hs fun b hb => ?_
  rw [hf b (hb n le_rfl), hr.frame b (hb n le_rfl)]

end Grows

lemma fetchLoop_grows (count : ℕ) (s : Held) :
    let r := s.fetchLoop count
    s.allocated ≤ r.2.2.allocated ∧ Grows s.allocated r.2.2.allocated s r.2.2 r.1 := by
  induction count generalizing s with
  | zero => exact ⟨le_rfl, grows_nil (sameRows_refl _) fun _ _ => rfl⟩
  | succ count ih =>
    obtain ⟨hreads, hall⟩ := readRow_reads s.allocate.2 s.allocate.1
    rcases hr : s.allocate.2.readRow s.allocate.1 with ⟨result, err, s'⟩
    rw [hr] at hreads hall
    have hreads' : Reads (.fetched s.allocated) s s' result := hreads.ofAllocate
    have hall' : s'.allocated = s.allocated + 1 := hall
    have hlt : s.allocated < s'.allocated := by omega
    have hgone (b : Buffer) (hb : b ≠ .fetched s.allocated) :
        Function.update s'.heap (.fetched s.allocated) none b = s'.heap b :=
      Function.update_of_ne hb _ _
    simp only [Held.fetchLoop, hr]
    cases result with
    | error okPacket =>
      exact ⟨hlt.le, hreads'.grows_nil (received_sameRows s'.rs (.error okPacket)) hgone⟩
    | eof okPacket =>
      exact ⟨hlt.le, hreads'.grows_nil (received_sameRows s'.rs (.eof okPacket)) hgone⟩
    | row values =>
      obtain ⟨hle, hg⟩ := ih { s' with rs := s'.rs.received (.row values) }
      have hs' : SameRows s'.rs (s'.rs.received (.row values)) := received_sameRows _ _
      exact ⟨hlt.le.trans hle, hg.cons hreads' hs' (fun _ _ => rfl) hlt (hlt.trans_le hle)⟩

/-- The loop of `fetch_many_op`, whose last buffer no row has taken. -/
lemma fetchOpLoop_grows (count n : ℕ) (s : Held) (hs : s.allocated = n + 1) :
    let r := s.fetchOpLoop count (.fetched n)
    ∃ m, n ≤ m ∧ r.2.2.2 = .fetched m ∧ r.2.2.1.allocated = m + 1 ∧
      Grows n m s r.2.2.1 r.1 := by
  induction count generalizing n s with
  | zero => exact ⟨n, le_rfl, rfl, hs, grows_nil (sameRows_refl _) fun _ _ => rfl⟩
  | succ count ih =>
    obtain ⟨hreads, hall⟩ := readRow_reads s (.fetched n)
    rcases hr : s.readRow (.fetched n) with ⟨result, err, s'⟩
    rw [hr] at hreads hall
    have hall' : s'.allocated = n + 1 := hall.trans hs
    simp only [Held.fetchOpLoop, hr]
    cases result with
    | error okPacket =>
      have hrs : SameRows s'.rs (AsyncFetch.FetchState.readInto s'.rs (.error okPacket)) :=
        ⟨rfl, rfl⟩
      exact ⟨n, le_rfl, rfl, hall', hreads.grows_nil hrs fun _ _ => rfl⟩
    | eof okPacket =>
      have hrs : SameRows s'.rs (s'.rs.received (.eof okPacket)) := received_sameRows _ _
      exact ⟨n, le_rfl, rfl, hall', hreads.grows_nil hrs fun _ _ => rfl⟩
    | row values =>
      -- the row takes the buffer, and another one is allocated for the next
      obtain ⟨m, hm, hlast, halloc, hg⟩ := ih s'.allocated s'.allocate.2 rfl
      have hf (b : Buffer) (hb : ∀ k, s'.allocated ≤ k → b ≠ .fetched k) :
          s'.allocate.2.heap b = s'.heap b :=
        Function.update_of_ne (hb s'.allocated le_rfl) _ _
      have hlt : n < s'.allocated := by omega
      exact ⟨m, hlt.le.trans hm, hlast, halloc,
        hg.cons hreads (sameRows_refl s'.rs) hf hlt (hlt.trans_le hm)⟩

/-- A buffer that is there. -/
def Live (s : Held) (b : Buffer) : Prop := ∀ k, b = .fetched k → k < s.allocated

/-- What a fetch does to the buffers there are, and where its rows are. -/
structure Fetches (call : FetchCall) (s s' : Held) (rows : List FetchedRow) : Prop where
  sameRows : SameRows s.rs s'.rs
  allocated : s.allocated ≤ s'.allocated
  frame : ∀ b, Live s b → (b = .resultset → call ≠ .one) → s'.heap b = s.heap b
  distinct : (rows.map Prod.snd).Nodup
  rows : ∀ row ∈ rows, InBuffer s.rs s'.heap row ∧ Live s' row.2

section Fetches

variable {s s' t : Held} {rows : List FetchedRow} {call : FetchCall} {n m : ℕ}

lemma fetches_nil (s : Held) (call : FetchCall) : Fetches call s s [] :=
  ⟨sameRows_refl _, le_rfl, fun _ _ _ => rfl, List.nodup_nil,
    fun _ hr => absurd hr List.not_mem_nil⟩

/-- Buffers that were there are none of those a fetch allocates. -/
lemma Live.ne_fetched {b : Buffer} (h : Live s b) (k : ℕ) (hk : s.allocated ≤ k) :
    b ≠ .fetched k := by
  rintro rfl
  have hlt := h k rfl
  omega

lemma Grows.fetches (h : Grows s.allocated m s s' rows) (hs : s.allocated ≤ s'.allocated)
    (hm : m ≤ s'.allocated) : Fetches call s s' rows where
  sameRows := h.sameRows
  allocated := hs
  frame b hb _ := h.frame b hb.ne_fetched
  distinct := h.distinct
  rows row hmem := by
    obtain ⟨hin, k, hk, -, hlt⟩ := h.rows row hmem
    refine ⟨hin, fun k' hk' => ?_⟩
    cases hk.symm.trans hk'
    omega

lemma fetchOne_fetches (s : Held) :
    let r := s.fetchOne
    Fetches .one s r.2.2 r.1 := by
  simp only [Held.fetchOne]
  split_ifs with hc
  · exact fetches_nil s .one
  · obtain ⟨hreads, hall⟩ := readRow_reads s .resultset
    rcases hr : s.readRow .resultset with ⟨result, err, s'⟩
    rw [hr] at hreads hall
    have hall' : s'.allocated = s.allocated := hall
    have hs : SameRows s.rs (s'.rs.received result) := by
      have hrs : s'.rs = s.rs := hreads.rs
      rw [← hrs]
      exact received_sameRows _ _
    have hframe (b : Buffer) (hb : b = .resultset → FetchCall.one ≠ .one) :
        s'.heap b = s.heap b := hreads.frame b fun h => hb h rfl
    have hrow (values : Row) (h : result = .row values) :
        InBuffer s.rs s'.heap (values, .resultset) := hreads.row values h
    simp only []
    cases result with
    | error =>
      exact ⟨hs, hall'.ge, fun b _ => hframe b, List.nodup_nil,
        fun _ h => absurd h List.not_mem_nil⟩
    | eof okPacket =>
      exact ⟨hs, hall'.ge, fun b _ => hframe b, List.nodup_nil,
        fun _ h => absurd h List.not_mem_nil⟩
    | row values =>
      refine ⟨hs, hall'.ge, fun b _ => hframe b, List.pairwise_singleton _ _, fun row h => ?_⟩
      obtain rfl := List.mem_singleton.mp h
      exact ⟨hrow values rfl, fun k hk => by cases hk⟩

/-- The buffer that a `fetch_many_op` is left with is no row's. -/
lemma Grows.destroy (h : Grows n m s s' rows) (hn : n ≤ m) :
    Grows n m s (s'.destroy (.fetched m)) rows where
  sameRows := h.sameRows
  frame b hb := (Function.update_of_ne (hb m hn) _ _).trans (h.frame b hb)
  distinct := h.distinct
  rows row hmem := by
    obtain ⟨hin, k, hk, hk', hlt⟩ := h.rows row hmem
    refine ⟨(sameRows_refl _).inBuffer hin (Function.update_of_ne ?_ _ _), k, hk, hk', hlt⟩
    rw [hk, ne_eq, Buffer.fetched.injEq]
    omega

lemma Grows.ofAllocate (h : Grows s.allocated m s.allocate.2 s' rows) :
    Grows s.allocated m s s' rows :=
  ⟨h.sameRows, fun b hb =>
    (h.frame b hb).trans (Function.update_of_ne (hb s.allocated le_rfl) _ _), h.distinct, h.rows⟩

lemma fetchMany_fetches (count : ℕ) (s : Held) :
    let r := s.fetchMany count
    Fetches call s r.2.2 r.1 := by
  simp only [Held.fetchMany]
  split_ifs with hc
  · exact fetches_nil s call
  · obtain ⟨hle, hg⟩ := fetchLoop_grows count s
    exact hg.fetches hle le_rfl

lemma fetchManyOp_fetches (count : ℕ) (s : Held) :
    let r := s.fetchManyOp count
    Fetches call s r.2.2 r.1 := by
  have hb : s.allocate.1 = .fetched s.allocated := rfl
  simp only [Held.fetchManyOp]
  cases hc : s.allocate.2.rs.complete with
  | true =>
    have hg : Grows s.allocated s.allocated s.allocate.2 s.allocate.2 [] :=
      grows_nil (sameRows_refl _) fun _ _ => rfl
    exact (hg.destroy le_rfl).ofAllocate.fetches (Nat.le_succ _) (Nat.le_succ _)
  | false =>
    obtain ⟨m, hm, hlast, halloc, hg⟩ := fetchOpLoop_grows count s.allocated s.allocate.2 rfl
    simp only [Bool.false_eq_true, if_false, hb, hlast]
    refine (hg.destroy hm).ofAllocate.fetches ?_ ?_
    · exact (hm.trans (Nat.le_succ m)).trans_eq halloc.symm
    · exact (Nat.le_succ m).trans_eq halloc.symm

lemma fetch_fetches (s : Held) (async : Bool) (call : FetchCall) :
    let r := s.fetch async call
    Fetches call s r.2.2 r.1 := by
  have hmany (count : ℕ) :
      let r := if async then s.fetchManyOp count else s.fetchMany count
      Fetches call s r.2.2 r.1 := by
    cases async with
    | false => exact fetchMany_fetches count s
    | true => exact fetchManyOp_fetches count s
  cases call with
  | one => exact fetchOne_fetches s
  | many count => exact hmany count
  | all => exact hmany sizeMax

/-- A buffer is kept by fetch after fetch: that of the resultset while no row is fetched alone. -/
lemma run_frame {b : Buffer} (calls : List (Bool × FetchCall)) (s : Held) (hb : Live s b)
    (hone : b = .resultset → ∀ c ∈ calls, c.2 ≠ .one) : (s.run calls).2.heap b = s.heap b := by
  induction calls generalizing s with
  | nil => rfl
  | cons call calls ih =>
    have hf := fetch_fetches s call.1 call.2
    have hone' (h : b = .resultset) := List.forall_mem_cons.mp (hone h)
    have hlive : Live (s.fetch call.1 call.2).2.2 b := fun k hk => (hb k hk).trans_le hf.allocated
    exact (ih _ hlive fun h => (hone' h).2).trans (hf.frame b hb fun h => (hone' h).1)

lemma run_sameRows (calls : List (Bool × FetchCall)) (s : Held) :
    SameRows s.rs (s.run calls).2.rs := by
  induction calls generalizing s with
  | nil => exact sameRows_refl _
  | cons call calls ih => exact (fetch_fetches s call.1 call.2).sameRows.trans (ih _)

end Fetches

/-! ### Rows can be read -/

/-- The strings of a row that was read into a buffer, as views of it. -/
def Encoding.views (encoding : Encoding) (fields : List FieldMetadata) (b : Buffer)
    (message : Bytes) : List (Option (View Buffer)) :=
  (encoding.ranges fields message).map (Option.map fun range => ⟨b, range.1, range.2⟩)

/-- What a value is, read now: a string through its view, and anything else by itself. -/
inductive Shows (heap : Heap Buffer UInt8) : Option (View Buffer) → Value → Prop
  | string {v : View Buffer} {s : Bytes} (h : v.read heap = some s) :
      Shows heap (some v) (.string s)
  | other {v : Value} (h : alternative v ≠ some .string) : Shows heap none v

lemma Refers.shows {message : Bytes} {range : Option Range} {v : Value} (h : Refers message range v)
    {heap : Heap Buffer UInt8} {b : Buffer} (hb : heap b = some message) :
    Shows heap (range.map fun range => ⟨b, range.1, range.2⟩) v := by
  cases h with
  | string hle hs =>
    refine .string ?_
    rw [View.read_live hb hle, hs]
  | other h => exact .other h

lemma destroyRows_of_notMem {gone : List FetchedRow} {b : Buffer} (hb : b ∉ gone.map Prod.snd)
    (heap : Heap Buffer UInt8) : destroyRows gone heap b = heap b := by
  cases b with
  | resultset => rfl
  | fetched n => exact if_neg hb

/-- **The strings of a row stay what they are**: those of rows that were fetched together for as
long as the row is there, whatever is fetched after it and whichever other rows are destroyed;
those of a row that was fetched alone until the next one is. -/
theorem rows_readable (encoding : Encoding) (fields : List FieldMetadata) (channel : Channel)
    (before after : List (Bool × FetchCall)) (async : Bool) (call : FetchCall) :
    let s := (((Origin.columns fields encoding.deserializer).start channel).run before).2
    let fetched := s.fetch async call
    let s' := (fetched.2.2.run after).2
    (fetched.1.map Prod.snd).Nodup ∧
    ∀ row ∈ fetched.1, (row.2 = .resultset → ∀ c ∈ after, c.2 ≠ .one) →
      ∃ message, fetched.2.2.heap row.2 = some message ∧
        ∀ gone : List FetchedRow, row.2 ∉ gone.map Prod.snd →
          List.Forall₂ (Shows (destroyRows gone s'.heap))
            (encoding.views fields row.2 message) row.1 := by
  intro s fetched s'
  have hf : Fetches call s fetched.2.2 fetched.1 := fetch_fetches s async call
  refine ⟨hf.distinct, fun row hmem hone => ?_⟩
  obtain ⟨⟨message, caps, hm, hd⟩, hlive⟩ := hf.rows row hmem
  have hsame : SameRows (.ofFields fields encoding.deserializer) s.rs :=
    run_sameRows before ((Origin.columns fields encoding.deserializer).start channel)
  rw [hsame.deserializer, hsame.fields] at hd
  refine ⟨message, hm, fun gone hgone => ?_⟩
  have hheap : destroyRows gone s'.heap row.2 = some message := by
    rw [destroyRows_of_notMem hgone]
    exact (run_frame after _ hlive hone).trans hm
  rw [Encoding.views, List.forall₂_map_left_iff]
  exact (row_refers encoding hd).imp fun _ _ h => h.shows hheap

/-- The string "x" of a binary row of a null and of it. -/
example : Encoding.binary.views [typedField .double false, typedField .varString false]
    (.fetched 2) [0, 4, 1, 120] = [none, some ⟨.fetched 2, 3, 1⟩] := by decide

end MysqlAsio.RowViews
