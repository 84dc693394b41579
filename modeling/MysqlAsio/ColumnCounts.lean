import MysqlAsio.ErrPackets

/-!
Length-encoded integers as they are documented, and the number of columns of a response.

Two first bytes are no number: 0xfb, which is a NULL in a row and a LOCAL INFILE request in a
response, and 0xff, which is an ERR packet. The decoder takes both for the number they are.
-/

namespace MysqlAsio.ColumnCounts

open MysqlAsio.Errors MysqlAsio.Serialization MysqlAsio.CommonMessages MysqlAsio.Operations
open MysqlAsio.ExecuteGeneric MysqlAsio.Lib.Decoding MysqlAsio.Lib.LittleEndian
open MysqlAsio.Lib.Programs

/-! ### Length-encoded integers -/

/-- The documented forms of a number: a byte up to 0xfa, or 2, 3 or 8 bytes behind a first byte
that says so. -/
inductive Form : ℕ → Bytes → Prop
  | one (b : UInt8) (h : b ≤ 0xfa) : Form b.toNat [b]
  | two (w : Bytes) (h : w.length = 2) : Form (ofBytes w) (0xfc :: w)
  | three (w : Bytes) (h : w.length = 3) : Form (ofBytes w) (0xfd :: w)
  | eight (w : Bytes) (h : w.length = 8) : Form (ofBytes w) (0xfe :: w)

def localInfileHeader : UInt8 := 0xfb

/-- The first byte of the input is no number. -/
def Reserved (s : Bytes) : Prop :=
  s.head? = some localInfileHeader ∨ s.head? = some errorPacketHeader

section Words

variable {T : Type} {f : ℕ → T} {size : ℕ}

lemma word_reads (f : ℕ → T) {w : Bytes} (h : w.length = size) :
    Reads (f <$> deserializeFixedSizeInt size) w (f (ofBytes w)) :=
  ((takeN_reads' _ h).map ofBytes).map f

lemma of_word_ok {s t : Bytes} {v : T}
    (h : (f <$> deserializeFixedSizeInt size) s = .ok (v, t)) :
    ∃ w, w.length = size ∧ s = w ++ t ∧ v = f (ofBytes w) := by
  obtain ⟨n, hn, rfl⟩ := of_map_ok h
  obtain ⟨w, hw, rfl⟩ := of_map_ok hn
  obtain ⟨hle, rfl, rfl⟩ := of_takeN_ok hw
  exact ⟨s.take size, List.length_take_of_le hle, (List.take_append_drop size s).symm, rfl⟩

end Words

lemma int2_toNat {w : Bytes} (h : w.length = 2) :
    (UInt16.ofNat (ofBytes w)).toUInt64.toNat = ofBytes w := by
  have hlt := ofBytes_lt w
  rw [h] at hlt
  rw [UInt16.toNat_toUInt64]
  exact UInt16.toNat_ofNat_of_lt' hlt

lemma int3_toNat {w : Bytes} (h : w.length = 3) :
    (UInt32.ofNat (ofBytes w)).toUInt64.toNat = ofBytes w := by
  have hlt := ofBytes_lt w
  rw [h] at hlt
  rw [UInt32.toNat_toUInt64]
  exact UInt32.toNat_ofNat_of_lt' (lt_trans hlt (by decide))

lemma int8_toNat {w : Bytes} (h : w.length = 8) :
    (UInt64.ofNat (ofBytes w)).toNat = ofBytes w := by
  have hlt := ofBytes_lt w
  rw [h] at hlt
  exact UInt64.toNat_ofNat_of_lt' hlt

lemma Form.reads {v : UInt64} {w : Bytes} (h : Form v.toNat w) :
    Reads deserializeIntLenenc w v := by
  generalize hn : v.toNat = n at h
  unfold deserializeIntLenenc
  cases h with
  | one b hb =>
    have hne : ∀ c : UInt8, 0xfa < c → b ≠ c := fun c hc he =>
      absurd (he ▸ hb) (UInt8.not_le.mpr hc)
    have hv : b.toUInt64 = v := by
      rw [← UInt64.toNat_inj, UInt8.toNat_toUInt64, hn]
    refine reads_int1_bind ?_
    rw [if_neg (hne _ (by decide)), if_neg (hne _ (by decide)), if_neg (hne _ (by decide)), hv]
    exact reads_pure v
  | two w hw =>
    have hv : (UInt16.ofNat (ofBytes w)).toUInt64 = v := by
      rw [← UInt64.toNat_inj, int2_toNat hw, hn]
    have hr := (word_reads UInt16.ofNat hw).map UInt16.toUInt64
    rw [hv] at hr
    exact reads_int1_bind hr
  | three w hw =>
    have hv : (UInt32.ofNat (ofBytes w)).toUInt64 = v := by
      rw [← UInt64.toNat_inj, int3_toNat hw, hn]
    have hr := (word_reads UInt32.ofNat hw).map UInt32.toUInt64
    rw [hv] at hr
    exact reads_int1_bind hr
  | eight w hw =>
    have hv : UInt64.ofNat (ofBytes w) = v := by
      rw [← UInt64.toNat_inj, int8_toNat hw, hn]
    have hr := word_reads UInt64.ofNat hw
    rw [hv] at hr
    exact reads_int1_bind hr

lemma Form.lt {n : ℕ} {w : Bytes} (h : Form n w) : n < 2 ^ 64 := by
  have hword : ∀ w : Bytes, w.length ≤ 8 → ofBytes w < 2 ^ 64 := fun w hw =>
    lt_of_lt_of_le (ofBytes_lt w) (by
      rw [show (2 : ℕ) ^ 64 = 256 ^ 8 by decide]
      exact Nat.pow_le_pow_right (by decide) hw)
  cases h with
  | one b => exact lt_trans b.toNat_lt (by decide)
  | two w hw | three w hw | eight w hw => exact hword w (by omega)

/-- What is read is a documented form, or a reserved byte. -/
lemma of_intLenenc_ok {s rest : Bytes} {v : UInt64}
    (h : deserializeIntLenenc s = .ok (v, rest)) :
    (∃ w, Form v.toNat w ∧ s = w ++ rest) ∨
      ∃ b, (b = localInfileHeader ∨ b = errorPacketHeader) ∧ s = b :: rest ∧ v = b.toUInt64 := by
  obtain ⟨b, t, hb, hd⟩ := of_bind_ok h
  obtain rfl : s = b :: t := by simpa [serializeInt1_eq] using int1_sound s b t hb
  rcases of_ite_ok hd with ⟨rfl, hd⟩ | ⟨h2, hd⟩
  · obtain ⟨u, hu, rfl⟩ := of_map_ok hd
    obtain ⟨w, hw, rfl, rfl⟩ := of_word_ok hu
    refine .inl ⟨0xfc :: w, ?_, rfl⟩
    rw [int2_toNat hw]
    exact .two w hw
  rcases of_ite_ok hd with ⟨rfl, hd⟩ | ⟨h3, hd⟩
  · obtain ⟨u, hu, rfl⟩ := of_map_ok hd
    obtain ⟨w, hw, rfl, rfl⟩ := of_word_ok hu
    refine .inl ⟨0xfd :: w, ?_, rfl⟩
    rw [int3_toNat hw]
    exact .three w hw
  rcases of_ite_ok hd with ⟨rfl, hd⟩ | ⟨h8, hd⟩
  · obtain ⟨w, hw, rfl, rfl⟩ := of_word_ok hd
    refine .inl ⟨0xfe :: w, ?_, rfl⟩
    rw [int8_toNat hw]
    exact .eight w hw
  -- any other byte is taken for a number
  cases hd
  by_cases hr : b = localInfileHeader ∨ b = errorPacketHeader
  · exact .inr ⟨b, hr, rfl, rfl⟩
  · have hle : b ≤ 0xfa := by
      rw [not_or] at hr
      simp only [← UInt8.toNat_inj, localInfileHeader, errorPacketHeader, UInt8.reduceToNat]
        at h2 h3 h8 hr
      rw [UInt8.le_iff_toNat_le]
      have := b.toNat_lt
      simp only [UInt8.reduceToNat]
      omega
    refine .inl ⟨[b], ?_, rfl⟩
    rw [UInt8.toNat_toUInt64]
    exact .one b hle

lemma Form.not_reserved {n : ℕ} {w : Bytes} (h : Form n w) (rest : Bytes) :
    ¬ Reserved (w ++ rest) := by
  cases h with
  | one b hb =>
    rintro (he | he) <;>
    · cases he
      exact absurd hb (by decide)
  | two w hw => rintro (he | he) <;> cases he
  | three w hw => rintro (he | he) <;> cases he
  | eight w hw => rintro (he | he) <;> cases he

/-- The input is decoded just where a documented form stands at its front, to the number of this
form, and what follows the form is left. -/
def DecodesForms (s : Bytes) : Prop :=
  ∀ v rest, deserializeIntLenenc s = .ok (v, rest) ↔ ∃ w, Form v.toNat w ∧ s = w ++ rest

lemma intLenenc_reserved {b : UInt8} (hb : b = localInfileHeader ∨ b = errorPacketHeader)
    (rest : Bytes) : deserializeIntLenenc (b :: rest) = .ok (b.toUInt64, rest) := by
  rw [deserializeIntLenenc, bind_ok (deserializeInt1_cons b rest)]
  obtain rfl | rfl := hb <;> rfl

lemma decodesForms_iff (s : Bytes) : DecodesForms s ↔ ¬ Reserved s := by
  constructor
  · intro h hr
    obtain ⟨b, rest, hb, rfl⟩ : ∃ b rest, (b = localInfileHeader ∨ b = errorPacketHeader) ∧
        s = b :: rest := by
      cases s with
      | nil => rcases hr with hr | hr <;> cases hr
      | cons b rest => exact ⟨b, rest, hr.imp Option.some.inj Option.some.inj, rfl⟩
    obtain ⟨w, hw, he⟩ := (h _ _).mp (intLenenc_reserved hb rest)
    exact hw.not_reserved rest (he ▸ hr)
  · intro hr v rest
    constructor
    · intro h
      rcases of_intLenenc_ok h with hf | ⟨b, hb, rfl, -⟩
      · exact hf
      · exact absurd (hb.imp (congrArg some) (congrArg some)) hr
    · rintro ⟨w, hw, rfl⟩
      exact hw.reads rest

/-! ### The number of columns -/

/-- The first byte of the message says OK or ERR. -/
def SaysOkOrErr (s : Bytes) : Prop :=
  s.head? = some okPacketHeader ∨ s.head? = some errorPacketHeader

/-- What is done with a message that says neither. -/
def countColumns (s : Bytes) (caps : Capabilities) : Except ErrorCode (ℕ × OkPacket) :=
  match deserializeMessage deserializeIntLenenc ⟨s, caps⟩ with
  | .error err => .error err
  | .ok numFields =>
    if numFields = 0 then .error (makeErrorCode .protocolValueError)
    else .ok (numFields.toNat, .default)

lemma processResponse_other {b : UInt8} {s : Bytes} (h : ¬ SaysOkOrErr (b :: s)) (c : Conn) :
    processResponse (b :: s) c = (countColumns (b :: s) c.channel.currentCaps, c) := by
  have hb : b ≠ okPacketHeader ∧ b ≠ errorPacketHeader :=
    ⟨fun he => h (.inl (congrArg some he)), fun he => h (.inr (congrArg some he))⟩
  rw [processResponse, get_then, countColumns]
  simp only [deserializeMessageType_cons, if_neg hb.1, if_neg hb.2]
  rcases hd : deserializeMessage deserializeIntLenenc ⟨b :: s, c.channel.currentCaps⟩ with e | n
  · rw [then_error (show attempt _ c = (.error e, c) from rfl)]
  · rw [then_ok (show attempt _ c = (.ok n, c) from rfl)]
    simp only []
    split_ifs <;> rfl

/-- An OK packet that decodes, and an ERR packet that callers do not see, have no columns. -/
lemma processResponse_okOrErr {s : Bytes} (h : SaysOkOrErr s) {c c' : Conn} {n : ℕ} {ok : OkPacket}
    (hp : processResponse s c = (.ok (n, ok), c')) : n = 0 := by
  obtain ⟨b, t, rfl⟩ : ∃ b t, s = b :: t := by
    cases s with
    | nil => rcases h with h | h <;> cases h
    | cons b t => exact ⟨b, t, rfl⟩
  rcases h with h | h
  · cases h
    rw [processResponse, get_then] at hp
    simp only [deserializeMessageType_cons, if_true] at hp
    obtain ⟨ok', c'', -, hp⟩ := of_then_ok hp
    cases hp
    rfl
  · cases h
    rw [processResponse_err, reportErr, get_then] at hp
    obtain ⟨u, c'', -, hp⟩ := of_then_ok hp
    cases hp
    rfl

lemma of_processResponse_ok {s : Bytes} {c c' : Conn} {n : ℕ} {ok : OkPacket}
    (hp : processResponse s c = (.ok (n, ok), c')) :
    (n = 0 ∧ SaysOkOrErr s) ∨
      (1 ≤ n ∧ ¬ SaysOkOrErr s ∧ ∃ v, deserializeIntLenenc s = .ok (v, []) ∧ n = v.toNat) := by
  by_cases h : SaysOkOrErr s
  · exact .inl ⟨processResponse_okOrErr h hp, h⟩
  cases s with
  | nil => cases hp
  | cons b t =>
    rw [processResponse_other h, countColumns] at hp
    split at hp
    · cases hp
    · next v hd =>
      split_ifs at hp with h0
      · cases hp
      · cases hp
        have hv : v.toNat ≠ 0 := fun hz => h0 (UInt64.toNat_inj.mp hz)
        exact .inr ⟨Nat.one_le_iff_ne_zero.mpr hv, h, v, of_deserializeMessage_ok hd, rfl⟩

/-- A response is accepted as a number of columns only where it is this number in one of its
forms, and is an error where it is a LOCAL INFILE request. -/
structure CountsForms (s : Bytes) (c : Conn) : Prop where
  counts : ∀ n ok c', processResponse s c = (.ok (n, ok), c') →
    (n = 0 ∧ SaysOkOrErr s) ∨ (1 ≤ n ∧ Form n s)
  localInfile : ∀ filename, s = localInfileHeader :: filename →
    ∃ err, err.failed = true ∧ processResponse s c = (.error err, c)

lemma not_saysOkOrErr_localInfile (filename : Bytes) :
    ¬ SaysOkOrErr (localInfileHeader :: filename) := by
  rintro (h | h) <;> cases h

/-- A request for the file without a name is a response with 251 columns. -/
lemma processResponse_noName (c : Conn) :
    processResponse [localInfileHeader] c = (.ok (251, .default), c) := by
  have hd : deserializeMessage deserializeIntLenenc ⟨[localInfileHeader], c.channel.currentCaps⟩ =
      .ok 251 := deserializeMessage_ok (intLenenc_reserved (.inl rfl) [])
  rw [processResponse_other (not_saysOkOrErr_localInfile []), countColumns]
  simp only [hd]
  rfl

/-- The name of a file is not left unread. -/
lemma processResponse_name {filename : Bytes} (h : filename ≠ []) (c : Conn) :
    processResponse (localInfileHeader :: filename) c =
      (.error (makeErrorCode .extraBytes), c) := by
  have hd : deserializeMessage deserializeIntLenenc
      ⟨localInfileHeader :: filename, c.channel.currentCaps⟩ =
        .error (makeErrorCode .extraBytes) := by
    simp only [deserializeMessage, intLenenc_reserved (.inl rfl) filename, if_neg h]
  rw [processResponse_other (not_saysOkOrErr_localInfile filename), countColumns]
  simp only [hd]

lemma countsForms_iff (s : Bytes) (c : Conn) :
    CountsForms s c ↔ s ≠ [localInfileHeader] := by
  constructor
  · rintro h rfl
    obtain ⟨err, -, he⟩ := h.localInfile [] rfl
    rw [processResponse_noName] at he
    cases he
  · intro hne
    refine ⟨fun n ok c' hp => ?_, fun filename hs => ?_⟩
    · rcases of_processResponse_ok hp with h | ⟨h1, hs, v, hv, rfl⟩
      · exact .inl h
      · rcases of_intLenenc_ok hv with ⟨w, hw, rfl⟩ | ⟨b, hb | hb, rfl, -⟩
        · rw [List.append_nil]
          exact .inr ⟨h1, hw⟩
        · exact absurd (congrArg (fun b => [b]) hb) hne
        · exact absurd (.inr (congrArg some hb)) hs
    · subst hs
      refine ⟨_, rfl, processResponse_name ?_ c⟩
      rintro rfl
      exact hne rfl

/-- **The decoder accepts just the documented forms where the input does not begin with a reserved
byte, and responses are counted as documented but for a LOCAL INFILE request without a name.** -/
theorem lenencForms_iff (s : Bytes) (c : Conn) :
    (DecodesForms s ∧ CountsForms s c ↔
      s.head? ≠ some localInfileHeader ∧ s.head? ≠ some errorPacketHeader) ∧
    (CountsForms s c ↔ s ≠ [localInfileHeader]) := by
  refine ⟨?_, countsForms_iff s c⟩
  rw [decodesForms_iff, countsForms_iff, Reserved, not_or]
  refine ⟨And.left, fun h => ⟨h, ?_⟩⟩
  rintro rfl
  exact h.1 rfl

/-- The byte 0xfb is decoded to 251, and as a response it is 251 columns. -/
theorem not_lenencForms : ¬ ∀ (s : Bytes) (c : Conn), DecodesForms s ∧ CountsForms s c := by
  intro h
  have hc := (h [localInfileHeader] (Conn.fresh ⟨none, [], [], [], [], .success, 0⟩)).2
  obtain ⟨err, -, he⟩ := hc.localInfile [] rfl
  rw [processResponse_noName] at he
  cases he

end MysqlAsio.ColumnCounts
