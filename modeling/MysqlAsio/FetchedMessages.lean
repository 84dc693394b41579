import MysqlAsio.InfoOwnership

/-!
Which messages the fetches of a resultset read, told from the calls and from what arrives, and
when the resultset owns the text of the packet that ended it.
-/

namespace MysqlAsio.FetchedMessages

open MysqlAsio.Errors MysqlAsio.Serialization MysqlAsio.CommonMessages MysqlAsio.Channels
open MysqlAsio.Framing MysqlAsio.ReadRow MysqlAsio.Resultset MysqlAsio.AsyncFetch
open MysqlAsio.Lib.Decoding MysqlAsio.Lib.Views MysqlAsio.InfoOwnership

/-! ### What arrives, and who reads it -/

/-- What the reads of a channel come to, up to the end of a resultset: messages, or nothing where
a read fails. -/
inductive ReadsToEnd : Channel → List (Option Bytes) → Prop
  | ending {ch ch' : Channel} {message : Bytes} {err : ErrorCode}
      (h : ch.read = (message, err, ch')) (hok : err.failed = false)
      (hend : EndsResultset message) : ReadsToEnd ch [some message]
  | message {ch ch' : Channel} {message : Bytes} {err : ErrorCode} {l : List (Option Bytes)}
      (h : ch.read = (message, err, ch')) (hok : err.failed = false)
      (hend : ¬ EndsResultset message) (hl : ReadsToEnd ch' l) : ReadsToEnd ch (some message :: l)
  | failed {ch ch' : Channel} {message : Bytes} {err : ErrorCode} {l : List (Option Bytes)}
      (h : ch.read = (message, err, ch')) (hf : err.failed = true) (hl : ReadsToEnd ch' l) :
      ReadsToEnd ch (none :: l)

/-- A message that is a row: it begins as one, and the deserializer makes one of it. -/
def isRow (deserializer : DeserializeRowFn) (fields : List FieldMetadata)
    (currentCaps : Capabilities) : Bytes → Bool
  | [] => false
  | b :: s => b ≠ eofPacketHeader && b ≠ errorPacketHeader &&
      (deserializer ⟨b :: s, currentCaps⟩ fields).isOk

section Taken

variable (row : Bytes → Bool)

/-- The messages a fetch of that many rows takes, up to one that is no row, and what it leaves. A
read that fails takes none. -/
def takeRows : ℕ → List (Option Bytes) → List Bytes × List (Option Bytes)
  | count + 1, some message :: l =>
    if row message then
      let (taken, left) := takeRows count l
      (message :: taken, left)
    else ([message], l)
  | _ + 1, none :: l => ([], l)
  | _, l => ([], l)

/-- The messages the calls take, each with whether it is `fetch_one` that does. -/
def takenBy : List FetchCall → List (Option Bytes) → List (Bool × Bytes)
  | [], _ => []
  | call :: calls, l =>
    let (taken, left) := takeRows row call.count l
    taken.map (decide (call = .one), ·) ++ takenBy calls left

lemma takenBy_nil (calls : List FetchCall) : takenBy row calls [] = [] := by
  induction calls with
  | nil => rfl
  | cons call calls ih =>
    have ht : takeRows row call.count [] = ([], []) := by cases call.count <;> rfl
    simp [takenBy, ht, ih]

end Taken

lemma ReadsToEnd.unique {ch : Channel} {l l' : List (Option Bytes)} (h : ReadsToEnd ch l)
    (h' : ReadsToEnd ch l') : l = l' := by
  induction h generalizing l' with
  | ending h hok hend =>
    cases h' with
    | ending h1 _ _ => rw [h] at h1; cases h1; rfl
    | message h1 _ hend1 _ => rw [h] at h1; cases h1; exact absurd hend hend1
    | failed h1 hf _ => rw [h] at h1; cases h1; rw [hok] at hf; cases hf
  | message h hok hend _ ih =>
    cases h' with
    | ending h1 _ hend1 => rw [h] at h1; cases h1; exact absurd hend1 hend
    | message h1 _ _ hl => rw [h] at h1; cases h1; rw [ih hl]
    | failed h1 hf _ => rw [h] at h1; cases h1; rw [hok] at hf; cases hf
  | failed h hf _ ih =>
    cases h' with
    | ending h1 hok _ => rw [h] at h1; cases h1; rw [hok] at hf; cases hf
    | message h1 hok _ _ => rw [h] at h1; cases h1; rw [hok] at hf; cases hf
    | failed h1 _ hl => rw [h] at h1; cases h1; rw [ih hl]

/-! ### One read -/

/-- What a read of a row makes of what it comes to. -/
inductive Made (row : Bytes → Bool) : Option Bytes → ReadRowResult → Prop
  | row {message : Bytes} (values : Row) (h : row message = true) (hend : ¬ EndsResultset message) :
      Made row (some message) (.row values)
  | eof {message : Bytes} (okPacket : OkPacket) (h : row message = false)
      (hend : EndsResultset message) : Made row (some message) (.eof okPacket)
  | error {message : Bytes} (okPacket : OkPacket) (h : row message = false)
      (hend : ¬ EndsResultset message) : Made row (some message) (.error okPacket)
  | failed (okPacket : OkPacket) : Made row none (.error okPacket)

lemma made_of_process {deserializer : DeserializeRowFn} {currentCaps : Capabilities}
    {fields : List FieldMetadata} {message : Bytes} {output : OkPacket} {info info' : ErrorInfo}
    {result : ReadRowResult} {err : ErrorCode}
    (h : processReadMessage deserializer currentCaps fields message output info =
      (result, err, info')) :
    Made (isRow deserializer fields currentCaps) (some message) result := by
  cases message with
  | nil =>
    cases h
    exact .error _ rfl fun hend => by cases hend.1
  | cons b s =>
    simp only [processReadMessage, deserializeMessageType_cons] at h
    by_cases hb : b = eofPacketHeader
    -- the end, if its fields are all there and nothing follows them
    · have hrow : isRow deserializer fields currentCaps (b :: s) = false := by simp [isRow, hb]
      rw [if_pos hb] at h
      split at h
      · next err' hd =>
        cases h
        refine .error _ hrow ?_
        rintro ⟨-, b', s', okPacket, hs, hok⟩
        cases hs
        obtain ⟨okPacket', hok'⟩ := okPacket_output output hok
        rw [deserializeMessage_ok hok'] at hd
        cases hd
      · next okPacket hd =>
        cases h
        obtain ⟨okPacket', hok⟩ := okPacket_output .default (of_deserializeMessage_ok hd)
        exact .eof _ hrow ⟨by rw [hb]; rfl, b, s, okPacket', rfl, hok⟩
    · have hend : ¬ EndsResultset (b :: s) := fun h => hb (Option.some.inj h.1)
      rw [if_neg hb] at h
      split_ifs at h with he
      · cases h
        exact .error _ (by simp [isRow, he]) hend
      · split at h
        · next hd =>
          cases h
          exact .error _ (by simp [isRow, hd, Except.isOk, Except.toBool]) hend
        · next hd =>
          cases h
          exact .row _ (by simp [isRow, hb, he, hd, Except.isOk, Except.toBool]) hend

/-- What is a row to a resultset, as it is. -/
def rowOf (s : Held) : Bytes → Bool := isRow s.rs.deserializer s.rs.fields s.channel.currentCaps

/-- A message that was read, with whether it was read into the buffer of the resultset. -/
def readBy (read : Buffer × Bytes) : Bool × Bytes := (decide (read.1 = .resultset), read.2)

/-- One read of a row, which comes to an entry. -/
structure ReadsOne (one : Bool) (s s' : Held) (result : ReadRowResult) (entry : Option Bytes) :
    Prop where
  rs : s'.rs = s.rs
  sameRows : rowOf s' = rowOf s
  made : Made (rowOf s) entry result
  reads : s'.reads.map readBy = s.reads.map readBy ++ entry.toList.map (one, ·)
  ends : ∀ okPacket, result = .eof okPacket → ReadsToEnd s.channel [entry]
  goesOn : (∀ okPacket, result ≠ .eof okPacket) →
    ∀ l, ReadsToEnd s'.channel l → ReadsToEnd s.channel (entry :: l)

lemma readRow_readsOne (s : Held) (b : Buffer) :
    ∃ entry, ReadsOne (decide (b = .resultset)) s (s.readRow b).2.2 (s.readRow b).1 entry := by
  rcases hr : s.channel.read with ⟨message, err, channel⟩
  have hcaps : channel.currentCaps = s.channel.currentCaps := by
    obtain ⟨seq, n, rest, -, hm⟩ := read_moved s.channel
    rw [hr] at hm
    simp only at hm
    rw [hm]
    rfl
  simp only [Held.readRow, hr]
  cases he : err.failed with
  | true =>
    simp only [if_true]
    refine ⟨none, rfl, ?_, .failed _, by simp, fun okPacket h => ?_,
      fun _ l hl => .failed hr he hl⟩
    · simp only [rowOf, hcaps]
    · cases h
  | false =>
    rcases hp : processReadMessage s.rs.deserializer channel.currentCaps s.rs.fields message
      s.rs.okPacket .clear with ⟨result, err', info⟩
    have hm := made_of_process hp
    rw [hcaps] at hm
    simp only [Bool.false_eq_true, if_false]
    refine ⟨some message, rfl, ?_, hm, by simp [readBy], fun okPacket h => ?_, fun h l hl => ?_⟩
    · simp only [rowOf, hcaps]
    · subst h
      cases hm with
      | eof _ _ hend => exact .ending hr he hend
    · cases hm with
      | row values _ hend => exact .message hr he hend hl
      | eof okPacket _ _ => exact absurd rfl (h okPacket)
      | error _ _ hend => exact .message hr he hend hl

/-! ### Fetches -/

/-- What a resultset has still to read to its end. -/
def ToRead (s : Held) (l : List (Option Bytes)) : Prop :=
  s.rs.complete = true ∧ l = [] ∨ s.rs.complete = false ∧ ReadsToEnd s.channel l

lemma toRead_complete {s : Held} (hc : s.rs.complete = true) {l : List (Option Bytes)} :
    ToRead s l ↔ l = [] := by
  simp [ToRead, hc]

lemma toRead_incomplete {s : Held} (hc : s.rs.complete = false) {l : List (Option Bytes)} :
    ToRead s l ↔ ReadsToEnd s.channel l := by
  simp [ToRead, hc]

/-- A fetch of that many rows takes what is said of it. -/
structure TakesRows (one : Bool) (count : ℕ) (s s' : Held) : Prop where
  sameRows : rowOf s' = rowOf s
  reads : ∀ l', ToRead s' l' → ∃ l, ToRead s l ∧ (takeRows (rowOf s) count l).2 = l' ∧
    s'.reads.map readBy = s.reads.map readBy ++ (takeRows (rowOf s) count l).1.map (one, ·)

section Fetches

variable {one : Bool} {count : ℕ} {s s1 s' : Held} {entry : Option Bytes}

lemma takesRows_zero (one : Bool) (s : Held) : TakesRows one 0 s s :=
  ⟨rfl, fun l h => ⟨l, h, by simp [takeRows], by simp [takeRows]⟩⟩

lemma ReadsOne.row {values : Row} (h : ReadsOne one s s1 (.row values) entry)
    (hc : s.rs.complete = false) (ht : TakesRows one count s1 s') :
    TakesRows one (count + 1) s s' := by
  refine ⟨ht.sameRows.trans h.sameRows, fun l' hl' => ?_⟩
  obtain ⟨l, hl, hleft, hreads⟩ := ht.reads l' hl'
  have hc1 : s1.rs.complete = false := by rw [h.rs, hc]
  have hread : ReadsToEnd s.channel (entry :: l) :=
    h.goesOn nofun l ((toRead_incomplete hc1).mp hl)
  rw [h.sameRows] at hleft hreads
  have hr := h.reads
  refine ⟨entry :: l, (toRead_incomplete hc).mpr hread, ?_, ?_⟩ <;> cases h.made with
  | row _ hrow _ => simp [takeRows, hrow, hleft, hreads, hr]

lemma ReadsOne.eof {okPacket : OkPacket} (h : ReadsOne one s s1 (.eof okPacket) entry)
    (hc : s.rs.complete = false) (count : ℕ) :
    TakesRows one (count + 1) s { s1 with rs := s1.rs.received (.eof okPacket) } := by
  refine ⟨h.sameRows, fun l' hl' => ?_⟩
  obtain rfl : l' = [] := (toRead_complete rfl).mp hl'
  have hr := h.reads
  refine ⟨[entry], (toRead_incomplete hc).mpr (h.ends okPacket rfl), ?_, ?_⟩ <;> cases h.made with
  | eof _ hrow _ => simp [takeRows, hrow, hr]

/-- An error ends the fetch, whether a message came with it or not. -/
lemma ReadsOne.error {okPacket : OkPacket} (h : ReadsOne one s s1 (.error okPacket) entry)
    (hc : s.rs.complete = false) (count : ℕ) :
    TakesRows one (count + 1) s { s1 with rs := s1.rs.received (.error okPacket) } := by
  refine ⟨h.sameRows, fun l' hl' => ?_⟩
  have hread' : ReadsToEnd s1.channel l' := by
    rcases hl' with ⟨hc', -⟩ | ⟨-, hl'⟩
    · cases hc'
    · exact hl'
  have hread := h.goesOn nofun l' hread'
  have hr := h.reads
  refine ⟨entry :: l', (toRead_incomplete hc).mpr hread, ?_, ?_⟩ <;> cases h.made with
  | error _ hrow _ => simp [takeRows, hrow, hr]
  | failed _ => simp [takeRows, hr]

end Fetches

lemma fetchOne_takes {s : Held} (hc : s.rs.complete = false) :
    TakesRows true 1 s s.fetchOne.2.2 := by
  obtain ⟨entry, h⟩ := readRow_readsOne s .resultset
  rcases hr : s.readRow .resultset with ⟨result, err, s1⟩
  rw [hr] at h
  simp only [Held.fetchOne, hc, hr, Bool.false_eq_true, if_false]
  cases result with
  | row values =>
    have hc1 : s1.rs.complete = false := by rw [h.rs, hc]
    simp only [received_row hc1]
    exact h.row hc (takesRows_zero true s1)
  | eof okPacket => exact h.eof hc 0
  | error okPacket => exact h.error hc 0

lemma fetchLoop_takes (count : ℕ) {s : Held} (hc : s.rs.complete = false) :
    TakesRows false count s (s.fetchLoop count).2.2 := by
  induction count generalizing s with
  | zero => exact takesRows_zero false s
  | succ count ih =>
    obtain ⟨entry, h'⟩ := readRow_readsOne s.allocate.2 s.allocate.1
    rcases hr : s.allocate.2.readRow s.allocate.1 with ⟨result, err, s1⟩
    rw [hr] at h'
    -- the buffer that was allocated has nothing to do with the messages
    have h : ReadsOne false s s1 result entry :=
      ⟨h'.rs, h'.sameRows, h'.made, h'.reads, h'.ends, h'.goesOn⟩
    simp only [Held.fetchLoop, hr]
    cases result with
    | row values =>
      have hc1 : s1.rs.complete = false := by rw [h.rs]; exact hc
      simp only [received_row hc1]
      exact h.row hc (ih hc1)
    | eof okPacket =>
      have ht := h.eof hc count
      exact ⟨ht.sameRows, ht.reads⟩
    | error okPacket =>
      have ht := h.error hc count
      exact ⟨ht.sameRows, ht.reads⟩

lemma fetchOpLoop_takes (count n : ℕ) {s : Held} (hc : s.rs.complete = false) :
    TakesRows false count s (s.fetchOpLoop count (.fetched n)).2.2.1 := by
  induction count generalizing n s with
  | zero => exact takesRows_zero false s
  | succ count ih =>
    obtain ⟨entry, h⟩ := readRow_readsOne s (.fetched n)
    rcases hr : s.readRow (.fetched n) with ⟨result, err, s1⟩
    rw [hr] at h
    change ReadsOne false s s1 result entry at h
    have hc1 : s1.rs.complete = false := by rw [h.rs]; exact hc
    simp only [Held.fetchOpLoop, hr]
    cases result with
    | row values =>
      have ht := @ih s1.allocated s1.allocate.2 hc1
      exact h.row hc ⟨ht.sameRows, ht.reads⟩
    | eof okPacket => exact h.eof hc count
    | error okPacket =>
      rw [← received_error hc1]
      exact h.error hc count

lemma fetch_takes {s : Held} (hc : s.rs.complete = false) (async : Bool) (call : FetchCall) :
    TakesRows (decide (call = .one)) call.count s (s.fetch async call).2.2 := by
  have hmany (count : ℕ) : TakesRows false count s
      (if async then s.fetchManyOp count else s.fetchMany count).2.2 := by
    cases async with
    | false =>
      simp only [Held.fetchMany, hc, Bool.false_eq_true, if_false]
      exact fetchLoop_takes count hc
    | true =>
      have hc' : s.allocate.2.rs.complete = false := hc
      have h := @fetchOpLoop_takes count s.allocated _ hc'
      simp only [Held.fetchManyOp, hc', Bool.false_eq_true, if_true, if_false]
      exact ⟨h.sameRows, h.reads⟩
  cases call with
  | one => exact fetchOne_takes hc
  | many count => exact hmany count
  | all => exact hmany sizeMax

/-- The messages that are read until a resultset is complete are those that the calls take of what
arrives. -/
lemma run_takes {s : Held} (calls : List (Bool × FetchCall))
    (hc : (s.run calls).2.rs.complete = true) :
    ∃ l, ToRead s l ∧ (s.run calls).2.reads.map readBy =
      s.reads.map readBy ++ takenBy (rowOf s) (calls.map Prod.snd) l := by
  induction calls generalizing s with
  | nil => exact ⟨[], (toRead_complete hc).mpr rfl, by simp [takenBy, Held.run]⟩
  | cons call calls ih =>
    cases hs : s.rs.complete with
    | true =>
      obtain ⟨-, hu⟩ := run_untouched hs (call :: calls)
      exact ⟨[], (toRead_complete hs).mpr rfl, by rw [hu.reads, takenBy_nil, List.append_nil]⟩
    | false =>
      have hf := fetch_takes hs call.1 call.2
      have hc' : ((s.fetch call.1 call.2).2.2.run calls).2.rs.complete = true := hc
      obtain ⟨l', hl', hreads'⟩ := ih hc'
      obtain ⟨l, hl, hleft, hreads⟩ := hf.reads l' hl'
      refine ⟨l, hl, ?_⟩
      have hrun : (s.run (call :: calls)).2 = ((s.fetch call.1 call.2).2.2.run calls).2 := rfl
      rw [hrun, hreads', hreads, hf.sameRows]
      simp only [List.map_cons, takenBy, hleft, List.append_assoc]

/-! ### The resultset owns its text -/

/-- A message that sets the text of the OK packet: it begins as the end, and its fields are there
up to its text. -/
def HasText (message : Bytes) : Bool :=
  message.head? = some eofPacketHeader && (okRange message).isSome

/-- The last message with a text, if there is one, was read by `fetch_one`; and it is the one that
ended the resultset, or its text is empty. -/
def TextOwned (taken : List (Bool × Bytes)) : Prop :=
  ∀ read, (taken.filter fun read => HasText read.2).getLast? = some read →
    read.1 = true ∧ (taken.getLast? = some read ∨ okText read.2 = [])

lemma setInfo_isSome (read : Buffer × Bytes) : (setInfo read).isSome = HasText read.2 := by
  by_cases h : read.2.head? = some eofPacketHeader <;> simp [setInfo, HasText, okView, h]

/-- The text is where the last message that has one was read. -/
lemma lastInfo_eq (reads : List (Buffer × Bytes)) :
    lastInfo reads = ((reads.filter fun read => HasText read.2).getLast?).bind setInfo := by
  induction reads using List.reverseRecOn with
  | nil => rfl
  | append_singleton reads read ih =>
    rw [lastInfo_concat, ih, List.filter_append]
    have hs := setInfo_isSome read
    cases ht : HasText read.2 <;> rw [ht] at hs
    · rw [Option.isSome_eq_false_iff, Option.isNone_iff_eq_none] at hs
      simp [ht, hs]
    · obtain ⟨v, hv⟩ := Option.isSome_iff_exists.mp hs
      simp [ht, hv]

lemma okText_of_range {message : Bytes} {range : ℕ × ℕ} (h : okRange message = some range) :
    range.2 = (okText message).length := by
  cases message with
  | nil => cases h
  | cons b s =>
    have hd : ∃ okPacket rest, deserializeOkPacket .default s = .ok (okPacket, rest) := by
      simp only [okRange] at h
      split at h
      · next range' rest hr =>
        unfold deserializeOkRange at hr
        obtain ⟨affectedRows, s1, h1, hr⟩ := of_bind_ok hr
        obtain ⟨lastInsertId, s2, h2, hr⟩ := of_bind_ok hr
        obtain ⟨statusFlags, s3, h3, hr⟩ := of_bind_ok hr
        obtain ⟨warnings, s4, h4, hr⟩ := of_bind_ok hr
        rw [get_bind] at hr
        unfold deserializeOkPacket
        rw [bind_ok h1, bind_ok h2, bind_ok h3, bind_ok h4, get_bind]
        by_cases hempty : s4 = []
        · rw [if_pos hempty]
          exact ⟨_, _, rfl⟩
        · rw [if_neg hempty] at hr ⊢
          obtain ⟨length, here, h5, hr⟩ := of_bind_ok hr
          rw [get_bind] at hr
          obtain ⟨info, s6, h6, -⟩ := of_bind_ok hr
          have hs : deserializeStringLenenc s4 = .ok (info, s6) := by
            unfold deserializeStringLenenc
            rw [bind_ok h5, h6]
          rw [bind_ok hs]
          exact ⟨_, _, rfl⟩
      · cases h
    obtain ⟨okPacket, rest, hd⟩ := hd
    simp only [okRange] at h
    simp only [okText, hd]
    rcases okRange_fields (1 + s.length) hd with ⟨hr, -⟩ | ⟨here, -, -, hr, -⟩ <;> rw [hr] at h
    · cases h
    · cases h
      rfl

lemma getLast_hasText {reads : List (Buffer × Bytes)} {last : Buffer × Bytes}
    (h : reads.getLast? = some last) (ht : HasText last.2 = true) :
    (reads.filter fun read => HasText read.2).getLast? = some last := by
  obtain ⟨init, rfl⟩ := List.getLast?_eq_some_iff.mp h
  simp [ht]

lemma setInfo_hasText {read : Buffer × Bytes} (ht : HasText read.2 = true) :
    ∃ v, setInfo read = some v ∧ v.buffer = read.1 ∧ v.length = (okText read.2).length := by
  rw [HasText, Bool.and_eq_true, decide_eq_true_eq] at ht
  obtain ⟨range, hr⟩ := Option.isSome_iff_exists.mp ht.2
  refine ⟨⟨read.1, range.1, range.2⟩, ?_, rfl, okText_of_range hr⟩
  rw [setInfo, if_pos ht.1, okView, hr, Option.map_some]

lemma textOwned_iff (reads : List (Buffer × Bytes)) :
    TextOwned (reads.map readBy) ↔ ReadIntoResultset reads := by
  have hfilter : (reads.map readBy).filter (fun read => HasText read.2) =
      (reads.filter fun read => HasText read.2).map readBy := by
    rw [List.filter_map]
    rfl
  rw [TextOwned, ReadIntoResultset, hfilter, List.getLast?_map, List.getLast?_map, lastInfo_eq]
  rcases hl : (reads.filter fun read => HasText read.2).getLast? with _ | p
  · rw [hl]
    refine iff_of_true ?_ ?_
    · intro read h
      cases h
    · intro v h
      cases h
  rw [hl]
  have ht : HasText p.2 = true := (List.mem_filter.mp (List.mem_of_getLast? hl)).2
  obtain ⟨v, hv, hbuffer, hlength⟩ := setInfo_hasText ht
  -- the last message of all is the last with a text when it looks like it
  have hlast : reads.getLast?.map readBy = some (readBy p) ↔
      ∃ last, reads.getLast? = some last ∧ setInfo last = some v := by
    constructor
    · intro h
      obtain ⟨last, hr, heq⟩ := Option.map_eq_some_iff.mp h
      have htl : HasText last.2 = true := by
        rw [← ht]
        exact congrArg (fun read => HasText read.2) heq
      have h2 := getLast_hasText hr htl
      rw [hl] at h2
      cases h2
      exact ⟨p, hr, hv⟩
    · rintro ⟨last, hr, hs⟩
      have htl : HasText last.2 = true := by rw [← setInfo_isSome, hs, Option.isSome_some]
      have h2 := getLast_hasText hr htl
      rw [hl] at h2
      cases h2
      rw [hr, Option.map_some]
  have hempty : v.length = 0 ↔ okText p.2 = [] := by rw [hlength, List.length_eq_zero_iff]
  have howner : v.buffer = .resultset ↔ (readBy p).1 = true := by simp [readBy, hbuffer]
  constructor
  · intro h v' hv'
    obtain rfl : v = v' := Option.some.inj (hv.symm.trans hv')
    obtain ⟨hone, hor⟩ := h (readBy p) rfl
    exact ⟨howner.mpr hone, hor.symm.imp hempty.mpr hlast.mp⟩
  · rintro h read ⟨⟩
    obtain ⟨hb, hor⟩ := h v hv
    exact ⟨howner.mp hb, (hor.imp hempty.mp hlast.mpr).symm⟩

/-- What arrives for a resultset until it is complete: nothing, where it is obtained from an OK
response. -/
def ArrivesFor (channel : Channel) : Origin → List (Option Bytes) → Prop
  | .ok _ _, l => l = []
  | .columns _ _, l => ReadsToEnd channel l

/-- The messages that are its rows. -/
def rowFor (channel : Channel) : Origin → Bytes → Bool
  | .ok _ _, _ => false
  | .columns fields deserializer, message =>
    isRow deserializer fields channel.currentCaps message

/-- **A resultset that is complete owns its text**, and that is the one of the packet that ended
it, exactly when, of the messages that arrived, the last one with a text is taken by `fetch_one`,
and ended the resultset or has an empty text. -/
theorem infoOwned_iff (o : Origin) (channel : Channel) (calls : List (Bool × FetchCall))
    (hc : ((o.start channel).run calls).2.rs.complete = true) :
    let r := (o.start channel).run calls
    (∃ l, ArrivesFor channel o l) ∧ ∀ l, ArrivesFor channel o l →
      (InfoOwned o r.1 r.2 ↔ TextOwned (takenBy (rowFor channel o) (calls.map Prod.snd) l)) := by
  cases o with
  | ok message h =>
    refine ⟨⟨[], rfl⟩, ?_⟩
    rintro l rfl
    refine iff_of_true (infoOwned_ok message h channel calls) ?_
    rw [takenBy_nil]
    intro read hread
    cases hread
  | columns fields deserializer =>
    have ht : Traced ((Origin.columns fields deserializer).start channel) :=
      ⟨rfl, fun h => by cases h⟩
    obtain ⟨l, hl, hreads⟩ := run_takes calls hc
    have hl' : ReadsToEnd channel l := (toRead_incomplete rfl).mp hl
    refine ⟨⟨l, hl'⟩, fun l1 hl1 => ?_⟩
    obtain rfl := hl'.unique hl1
    refine (infoOwned_columns_iff (ht.run calls) hc).trans ?_
    rw [← textOwned_iff, hreads]
    rfl

/-! ### A text that is lost -/

/-- The resultset was ended by a message that was read into this buffer. -/
structure EndedIn (b : Buffer) (message : Bytes) (s s' : Held) : Prop where
  complete : s'.rs.complete = true
  info : s'.info = (setInfo (b, message)).or s.info
  reads : s'.reads = s.reads ++ [(b, message)]

section Ended

variable {s : Held} {message : Bytes} {ch : Channel} {okPacket : OkPacket} {omitInfo : Bool}

lemma readRow_eof (b : Buffer) (hr : s.channel.read = (message, .success, ch))
    (hm : TakenForEof message okPacket omitInfo) :
    ∃ s' okPacket, s.readRow b = (.eof okPacket, .success, s') ∧
      EndedIn b message s { s' with rs := s'.rs.received (.eof okPacket) } := by
  have hp := hm s.rs.deserializer ch.currentCaps s.rs.fields s.rs.okPacket .clear
  simp only [Held.readRow, hr, success_failed, Bool.false_eq_true, if_false, hp]
  exact ⟨_, _, rfl, rfl, rfl, rfl⟩

lemma fetchOne_eof (hc : s.rs.complete = false) (hr : s.channel.read = (message, .success, ch))
    (hm : TakenForEof message okPacket omitInfo) :
    ∃ s', s.fetchOne = ([], .success, s') ∧ EndedIn .resultset message s s' := by
  obtain ⟨s', okPacket', h, he⟩ := readRow_eof .resultset hr hm
  simp only [Held.fetchOne, hc, Bool.false_eq_true, if_false, h]
  exact ⟨_, rfl, he⟩

lemma fetchMany_eof (n : ℕ) (hc : s.rs.complete = false)
    (hr : s.channel.read = (message, .success, ch)) (hm : TakenForEof message okPacket omitInfo) :
    ∃ s', s.fetchMany (n + 1) = ([], .success, s') ∧
      EndedIn (.fetched s.allocated) message s s' := by
  obtain ⟨s', okPacket', h, he⟩ :=
    @readRow_eof s.allocate.2 message ch okPacket omitInfo s.allocate.1 hr hm
  simp only [Held.fetchMany, hc, Bool.false_eq_true, if_false, Held.fetchLoop, h]
  exact ⟨_, rfl, he.complete, he.info, he.reads⟩

end Ended

/-- A resultset whose only message is its last, which has a text. -/
def textOrigin : Origin := .columns [] fun _ _ => .ok []

def textMessage : Bytes := encodeEof ⟨0, 0, 0, 0, ascii "x"⟩ false

def textChannel : Channel := channelOf 0 [textMessage]

lemma text_read : textChannel.read =
    (textMessage, .success, afterMessage textChannel textMessage [] []) :=
  (channelOf_delivers 0 [textMessage]).read

lemma text_eof : TakenForEof textMessage ⟨0, 0, 0, 0, ascii "x"⟩ false :=
  @encodeEof_takenForEof ⟨0, 0, 0, 0, ascii "x"⟩ (by decide) false

theorem infoOwned_iff_fetchOne :
    let r := (textOrigin.start textChannel).run [(false, .one)]
    (∃ l, ArrivesFor textChannel textOrigin l) ∧ ∀ l, ArrivesFor textChannel textOrigin l →
      (InfoOwned textOrigin r.1 r.2 ↔
        TextOwned (takenBy (rowFor textChannel textOrigin) [.one] l)) := by
  obtain ⟨s', h, he⟩ := @fetchOne_eof (textOrigin.start textChannel) _ _ _ _ rfl text_read text_eof
  refine infoOwned_iff textOrigin textChannel [(false, .one)] ?_
  simp only [Held.run, Held.fetch, h]
  exact he.complete

/-- The text of a packet that `fetch_many` reads is in a buffer that is destroyed. -/
theorem fetchMany_not_owned :
    ¬ ∀ (o : Origin) (channel : Channel) (calls : List (Bool × FetchCall)),
      let r := (o.start channel).run calls
      r.2.rs.complete = true → InfoOwned o r.1 r.2 := by
  intro h
  obtain ⟨s', hf, he⟩ :=
    @fetchMany_eof (textOrigin.start textChannel) _ _ _ _ 0 rfl text_read text_eof
  have howned := h textOrigin textChannel [(false, .many 1)]
  have hfetch : (textOrigin.start textChannel).fetch false (.many 1) = ([], .success, s') := hf
  simp only [Held.run, hfetch] at howned
  have hview : (setInfo (.fetched 0, textMessage)).or none = some ⟨.fetched 0, 8, 1⟩ := by decide
  have hinfo : s'.info = some ⟨.fetched 0, 8, 1⟩ := he.info.trans hview
  cases (howned he.complete).owned _ hinfo

end MysqlAsio.FetchedMessages
