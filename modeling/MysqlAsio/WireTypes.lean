import Mathlib.Data.List.TakeWhile
import MysqlAsio.CommonMessages

/-!
The primitive wire types: what is written has the computed size, reads back, and is rejected
when it is cut short.
-/

namespace MysqlAsio.WireTypes

open MysqlAsio.Errors MysqlAsio.Serialization MysqlAsio.CommonMessages MysqlAsio.Lib.Decoding

/-- `serialization_traits` of a type, three functions that are written separately. -/
structure Traits (α : Type) where
  deserialize : Deserializer α
  serialize : α → Bytes
  getSize : α → ℕ

/-- The three functions agree on a value. -/
structure Traits.Exact {α : Type} (c : Traits α) (x : α) : Prop where
  size : (c.serialize x).length = c.getSize x
  reads : Reads c.deserialize (c.serialize x) x
  short : Short c.deserialize (c.serialize x) .incompleteMessage

lemma Traits.Exact.delimits {α : Type} {c : Traits α} {x : α} (h : c.Exact x) :
    Delimits c.deserialize (c.serialize x) x .incompleteMessage := ⟨h.reads, h.short⟩

/-! ### Integers of a fixed size -/

inductive FixedSizeInt
  | int1
  | int2
  | int3
  | int4
  | int6
  | int8
  | int1Signed
  | int2Signed
  | int4Signed
  | int8Signed
  deriving DecidableEq, Repr

abbrev FixedSizeInt.Value : FixedSizeInt → Type
  | .int1 => UInt8
  | .int2 => UInt16
  | .int3 => UInt32
  | .int4 => UInt32
  | .int6 => UInt64
  | .int8 => UInt64
  | .int1Signed => Int8
  | .int2Signed => Int16
  | .int4Signed => Int32
  | .int8Signed => Int64

/-- `get_int_size`: the size of the type, but for the two of odd width. -/
def getIntSize : FixedSizeInt → ℕ
  | .int3 => 3
  | .int6 => 6
  | .int1 | .int1Signed => 1
  | .int2 | .int2Signed => 2
  | .int4 | .int4Signed => 4
  | .int8 | .int8Signed => 8

def FixedSizeInt.traits : (t : FixedSizeInt) → Traits t.Value
  | .int1 => ⟨deserializeInt1, serializeInt1, fun _ => getIntSize .int1⟩
  | .int2 => ⟨deserializeInt2, serializeInt2, fun _ => getIntSize .int2⟩
  | .int3 => ⟨deserializeInt3, serializeInt3, fun _ => getIntSize .int3⟩
  | .int4 => ⟨deserializeInt4, serializeInt4, fun _ => getIntSize .int4⟩
  | .int6 => ⟨deserializeInt6, serializeInt6, fun _ => getIntSize .int6⟩
  | .int8 => ⟨deserializeInt8, serializeInt8, fun _ => getIntSize .int8⟩
  | .int1Signed => ⟨deserializeInt1Signed, serializeInt1Signed, fun _ => getIntSize .int1Signed⟩
  | .int2Signed => ⟨deserializeInt2Signed, serializeInt2Signed, fun _ => getIntSize .int2Signed⟩
  | .int4Signed => ⟨deserializeInt4Signed, serializeInt4Signed, fun _ => getIntSize .int4Signed⟩
  | .int8Signed => ⟨deserializeInt8Signed, serializeInt8Signed, fun _ => getIntSize .int8Signed⟩

/-- The values of the types of odd width that fit. -/
def FixedSizeInt.Representable : (t : FixedSizeInt) → t.Value → Prop
  | .int3, v => v.toNat < 2 ^ 24
  | .int6, v => v.toNat < 2 ^ 48
  | _, _ => True

/-- All of them are little-endian words of a number, and differ in the width and in the type
the number is kept in. -/
lemma exact_of_word {T : Type} {f : ℕ → T} {g : T → ℕ} {size : ℕ} {v : T}
    (hlt : g v < 256 ^ size) (hf : f (g v) = v) :
    Traits.Exact ⟨f <$> deserializeFixedSizeInt size, fun v => serializeFixedSizeInt size (g v),
      fun _ => size⟩ v where
  size := serializeFixedSizeInt_length size (g v)
  reads := fixedSizeInt_reads hlt hf
  short := fixedSizeInt_short

/-- The traits of a type that another one is the representation of. -/
def Traits.cast {α γ : Type} (c : Traits α) (wrap : α → γ) (unwrap : γ → α) : Traits γ where
  deserialize := wrap <$> c.deserialize
  serialize x := c.serialize (unwrap x)
  getSize x := c.getSize (unwrap x)

lemma Traits.Exact.cast {α γ : Type} {c : Traits α} {wrap : α → γ} {unwrap : γ → α} {x : γ}
    (h : c.Exact (unwrap x)) (hx : wrap (unwrap x) = x) : (c.cast wrap unwrap).Exact x where
  size := h.size
  reads := by
    have hr := h.reads.map wrap
    rwa [hx] at hr
  short := h.short.map wrap

lemma fixedSizeInt_exact (t : FixedSizeInt) (x : t.Value) (h : t.Representable x) :
    t.traits.Exact x := by
  have h1 : ∀ v : UInt8, FixedSizeInt.int1.traits.Exact v := fun v =>
    exact_of_word v.toNat_lt UInt8.ofNat_toNat
  have h2 : ∀ v : UInt16, FixedSizeInt.int2.traits.Exact v := fun v =>
    exact_of_word v.toNat_lt UInt16.ofNat_toNat
  have h4 : ∀ v : UInt32, FixedSizeInt.int4.traits.Exact v := fun v =>
    exact_of_word v.toNat_lt UInt32.ofNat_toNat
  have h8 : ∀ v : UInt64, FixedSizeInt.int8.traits.Exact v := fun v =>
    exact_of_word v.toNat_lt UInt64.ofNat_toNat
  cases t with
  | int1 => exact h1 x
  | int2 => exact h2 x
  | int3 => exact exact_of_word h UInt32.ofNat_toNat
  | int4 => exact h4 x
  | int6 => exact exact_of_word h UInt64.ofNat_toNat
  | int8 => exact h8 x
  -- the signed types are the unsigned ones, cast
  | int1Signed => exact (h1 x.toUInt8).cast (Int8.toInt8_toUInt8 x)
  | int2Signed => exact (h2 x.toUInt16).cast (Int16.toInt16_toUInt16 x)
  | int4Signed => exact (h4 x.toUInt32).cast (Int32.toInt32_toUInt32 x)
  | int8Signed => exact (h8 x.toUInt64).cast (Int64.toInt64_toUInt64 x)

/-! ### Length-encoded integers -/

/-- The forms of a length-encoded integer: the number itself, or 2, 3 or 8 bytes behind a
first byte that says so. -/
inductive IntLenencForm
  | one
  | three
  | four
  | nine
  deriving DecidableEq, Repr

def IntLenencForm.size : IntLenencForm → ℕ
  | .one => 1
  | .three => 3
  | .four => 4
  | .nine => 9

def IntLenencForm.Holds : IntLenencForm → UInt64 → Prop
  | .one, v => v.toNat < 251
  | .three, v => v.toNat < 2 ^ 16
  | .four, v => v.toNat < 2 ^ 24
  | .nine, _ => True

def IntLenencForm.bytes : IntLenencForm → UInt64 → Bytes
  | .one, v => serializeInt1 v.toUInt8
  | .three, v => 0xfc :: serializeInt2 v.toUInt16
  | .four, v => 0xfd :: serializeInt3 v.toUInt32
  | .nine, v => 0xfe :: serializeInt8 v

/-- Of the forms that hold a number, the shortest is written. -/
def WritesShortest (v : UInt64) : Prop :=
  ∃ form : IntLenencForm, form.Holds v ∧ serializeIntLenenc v = form.bytes v ∧
    sizeIntLenenc v = form.size ∧
    ∀ form' : IntLenencForm, form'.Holds v → form.size ≤ form'.size

lemma intLenenc_writesShortest (v : UInt64) : WritesShortest v := by
  have h1 : v < 251 ↔ v.toNat < 251 := UInt64.lt_iff_toNat_lt
  have h2 : v < 0x10000 ↔ v.toNat < 2 ^ 16 := UInt64.lt_iff_toNat_lt
  have h3 : v < 0x1000000 ↔ v.toNat < 2 ^ 24 := UInt64.lt_iff_toNat_lt
  unfold WritesShortest serializeIntLenenc sizeIntLenenc
  split_ifs with hv1 hv2 hv3
  · refine ⟨.one, h1.mp hv1, rfl, rfl, fun form _ => ?_⟩
    cases form <;> decide
  · rw [h1] at hv1
    refine ⟨.three, h2.mp hv2, rfl, rfl, fun form hf => ?_⟩
    cases form with
    | one => exact absurd hf hv1
    | three | four | nine => decide
  · rw [h1] at hv1
    rw [h2] at hv2
    refine ⟨.four, h3.mp hv3, rfl, rfl, fun form hf => ?_⟩
    cases form with
    | one => exact absurd hf hv1
    | three => exact absurd hf hv2
    | four | nine => decide
  · rw [h1] at hv1
    rw [h2] at hv2
    rw [h3] at hv3
    refine ⟨.nine, trivial, rfl, rfl, fun form hf => ?_⟩
    cases form with
    | one => exact absurd hf hv1
    | three => exact absurd hf hv2
    | four => exact absurd hf hv3
    | nine => decide

lemma short_int1_bind {α : Type} {f : UInt8 → Deserializer α} {b : UInt8} {w : Bytes}
    (h : Short (f b) w .incompleteMessage) :
    Short (deserializeInt1 >>= f) (b :: w) .incompleteMessage := by
  have hs : Short deserializeInt1 (serializeInt1 b) .incompleteMessage := fixedSizeInt_short
  have hb := hs.bind (int1_reads b) h
  rwa [serializeInt1_eq] at hb

lemma intLenenc_short (v : UInt64) :
    Short deserializeIntLenenc (serializeIntLenenc v) .incompleteMessage := by
  unfold serializeIntLenenc
  split_ifs
  · rw [serializeInt1_eq]
    exact short_int1_bind (short_nil _ _)
  · exact short_int1_bind (fixedSizeInt_short.map _)
  · exact short_int1_bind (fixedSizeInt_short.map _)
  · exact short_int1_bind fixedSizeInt_short

def intLenencTraits : Traits UInt64 := ⟨deserializeIntLenenc, serializeIntLenenc, sizeIntLenenc⟩

lemma intLenenc_exact (v : UInt64) : intLenencTraits.Exact v :=
  ⟨intLenenc_length v, intLenenc_reads v, intLenenc_short v⟩

/-! ### Strings -/

def stringFixedTraits (n : ℕ) : Traits Bytes := ⟨deserializeStringFixed n, id, fun _ => n⟩

def stringNullTraits : Traits Bytes := ⟨deserializeStringNull, serializeStringNull, sizeStringNull⟩

def stringLenencTraits : Traits Bytes :=
  ⟨deserializeStringLenenc, serializeStringLenenc, sizeStringLenenc⟩

lemma stringFixed_exact {s : Bytes} {n : ℕ} (h : s.length = n) : (stringFixedTraits n).Exact s :=
  ⟨h, takeN_reads' _ h, takeN_short _ h⟩

def NoNul (s : Bytes) : Prop := 0 ∉ s

instance (s : Bytes) : Decidable (NoNul s) := inferInstanceAs (Decidable (0 ∉ s))

lemma takeWhile_of_noNul {s : Bytes} (h : NoNul s) (rest : Bytes) :
    (s ++ 0 :: rest).takeWhile (· ≠ 0) = s := by
  rw [List.takeWhile_append_of_pos (by
    intro b hb
    simpa using fun h0 : b = 0 => h (h0 ▸ hb))]
  simp

lemma stringNull_exact {s : Bytes} (h : NoNul s) : stringNullTraits.Exact s where
  size := by simp [stringNullTraits, serializeStringNull, sizeStringNull]
  reads := by
    intro rest
    have ht := takeWhile_of_noNul h rest
    simp only [stringNullTraits, serializeStringNull, deserializeStringNull, List.append_assoc,
      List.singleton_append, ht]
    simp
  short := by
    intro p hp hne
    have hps : p <+: s := (List.prefix_concat_iff.mp hp).resolve_left hne
    have hp0 : 0 ∉ p := fun h0 => h (hps.subset h0)
    have ht : p.takeWhile (· ≠ 0) = p := by
      rw [List.takeWhile_eq_self_iff]
      intro b hb
      simpa using fun h0 : b = 0 => hp0 (h0 ▸ hb)
    simp only [stringNullTraits, deserializeStringNull, ht, if_true]

lemma noNul_takeWhile (s : Bytes) : NoNul (s.takeWhile (· ≠ 0)) := fun h => by
  simpa using List.mem_takeWhile_imp h

lemma eq_takeWhile_append {s : Bytes} (h : (s.takeWhile (· ≠ 0)).length ≠ s.length) :
    ∃ rest, s = s.takeWhile (· ≠ 0) ++ 0 :: rest := by
  have hs := List.takeWhile_append_dropWhile (p := fun b : UInt8 => decide (b ≠ 0)) (l := s)
  cases hd : s.dropWhile fun b => decide (b ≠ 0) with
  | nil =>
    rw [hd, List.append_nil] at hs
    exact absurd (congrArg List.length hs) h
  | cons b rest =>
    have hb := List.head?_dropWhile_not (fun b : UInt8 => decide (b ≠ 0)) s
    rw [hd] at hs hb
    obtain rfl : b = 0 := by simpa using hb
    exact ⟨rest, hs.symm⟩

lemma stringNull_ok_iff {s value rest : Bytes} :
    deserializeStringNull s = .ok (value, rest) ↔
      NoNul value ∧ s = serializeStringNull value ++ rest := by
  constructor
  · intro h
    obtain ⟨hlen, rfl⟩ : (s.takeWhile (· ≠ 0)).length ≠ s.length ∧ s.takeWhile (· ≠ 0) = value := by
      rw [deserializeStringNull] at h
      split_ifs at h with hlen
      cases h
      exact ⟨hlen, rfl⟩
    obtain ⟨t, ht⟩ := eq_takeWhile_append hlen
    have hs : s = serializeStringNull (s.takeWhile (· ≠ 0)) ++ t := by
      rwa [serializeStringNull, List.append_assoc]
    have hr := (stringNull_exact (noNul_takeWhile s)).reads t
    have hd : deserializeStringNull s = .ok (s.takeWhile (· ≠ 0), t) := by
      conv_lhs => rw [hs]
      exact hr
    rw [h] at hd
    cases hd
    exact ⟨noNul_takeWhile s, hs⟩
  · rintro ⟨h, rfl⟩
    exact (stringNull_exact h).reads rest

lemma stringLenenc_exact {s : Bytes} (h : s.length < 2 ^ 64) : stringLenencTraits.Exact s where
  size := stringLenenc_length s
  reads := stringLenenc_reads h
  short := (intLenenc_short _).bind (intLenenc_reads _) (takeN_short _ (by
    rw [UInt64.toNat_ofNat', Nat.mod_eq_of_lt h]))

/-! ### Enumerations -/

/-- An enumeration, its underlying type, and `static_cast` between the two. -/
structure Enumeration where
  underlying : FixedSizeInt
  Enum : Type
  ofUnderlying : underlying.Value → Enum
  toUnderlying : Enum → underlying.Value
  ofUnderlying_toUnderlying : ∀ x, ofUnderlying (toUnderlying x) = x

def Enumeration.traits (e : Enumeration) : Traits e.Enum :=
  e.underlying.traits.cast e.ofUnderlying e.toUnderlying

def Enumeration.Representable (e : Enumeration) (x : e.Enum) : Prop :=
  e.underlying.Representable (e.toUnderlying x)

lemma enumeration_exact (e : Enumeration) (x : e.Enum) (h : e.Representable x) :
    e.traits.Exact x :=
  (fixedSizeInt_exact _ _ h).cast (e.ofUnderlying_toUnderlying x)

def collation : Enumeration where
  underlying := .int2
  Enum := Collation
  ofUnderlying := Collation.mk
  toUnderlying := Collation.id
  ofUnderlying_toUnderlying _ := rfl

example (x : Collation) : collation.traits.Exact x := enumeration_exact collation x trivial

/-! ### Frame headers -/

/-- The sizes of the fields are added. -/
def packetHeaderTraits : Traits PacketHeader where
  deserialize := deserializePacketHeader
  serialize := serializePacketHeader
  getSize h := FixedSizeInt.int3.traits.getSize h.packetSize +
    FixedSizeInt.int1.traits.getSize h.sequenceNumber

lemma packetHeader_exact {h : PacketHeader} (hs : h.packetSize.toNat < 2 ^ 24) :
    packetHeaderTraits.Exact h where
  size := serializePacketHeader_length h
  reads := packetHeader_reads hs
  short := by
    have h3 : Short deserializeInt3 (serializeInt3 h.packetSize) .incompleteMessage :=
      fixedSizeInt_short
    have h1 : Short deserializeInt1 (serializeInt1 h.sequenceNumber) .incompleteMessage :=
      fixedSizeInt_short
    exact h3.bind (int3_reads hs) (h1.bind_any _)

/-! ### All the wire types -/

inductive WireType : Type 1
  | fixedSizeInt (t : FixedSizeInt)
  | intLenenc
  | stringFixed (n : ℕ)
  | stringNull
  | stringLenenc
  | enumeration (e : Enumeration)
  | packetHeader

def WireType.Value : WireType → Type
  | .fixedSizeInt t => t.Value
  | .intLenenc => UInt64
  | .stringFixed _ | .stringNull | .stringLenenc => Bytes
  | .enumeration e => e.Enum
  | .packetHeader => PacketHeader

def WireType.traits : (t : WireType) → Traits t.Value
  | .fixedSizeInt t => t.traits
  | .intLenenc => intLenencTraits
  | .stringFixed n => stringFixedTraits n
  | .stringNull => stringNullTraits
  | .stringLenenc => stringLenencTraits
  | .enumeration e => e.traits
  | .packetHeader => packetHeaderTraits

/-- The values a type can write. -/
def WireType.Representable : (t : WireType) → t.Value → Prop
  | .fixedSizeInt t, x => t.Representable x
  | .intLenenc, _ => True
  | .stringFixed n, s => List.length s = n
  | .stringNull, s => NoNul s
  | .stringLenenc, s => List.length s < 2 ^ 64
  | .enumeration e, x => e.Representable x
  | .packetHeader, h => (PacketHeader.packetSize h).toNat < 2 ^ 24

/-- Only one of the types has several forms. -/
def WireType.Shortest : (t : WireType) → t.Value → Prop
  | .intLenenc, v => WritesShortest v
  | _, _ => True

/-- **The three functions of every wire type agree on every value it can write.** -/
theorem wireType_exact (t : WireType) (x : t.Value) (h : t.Representable x) :
    t.traits.Exact x ∧ t.Shortest x := by
  cases t with
  | fixedSizeInt t => exact ⟨fixedSizeInt_exact t x h, trivial⟩
  | intLenenc => exact ⟨intLenenc_exact x, intLenenc_writesShortest x⟩
  | stringFixed n => exact ⟨stringFixed_exact h, trivial⟩
  | stringNull => exact ⟨stringNull_exact h, trivial⟩
  | stringLenenc => exact ⟨stringLenenc_exact h, trivial⟩
  | enumeration e => exact ⟨enumeration_exact e x h, trivial⟩
  | packetHeader => exact ⟨packetHeader_exact h, trivial⟩

/-- A string of three bytes before its NUL. -/
theorem wireType_exact_stringNull :
    stringNullTraits.Exact [0x72, 0x6f, 0x77] :=
  (wireType_exact .stringNull [0x72, 0x6f, 0x77] (show NoNul _ by decide)).1

end MysqlAsio.WireTypes
