import MysqlAsio.HandshakeMessages

/-!
ERR packets in the two forms of the protocol: with a SQL state for a peer that has negotiated
version 4.1, and without one for any other, as there is before the handshake.
-/

namespace MysqlAsio.ErrPhases

open MysqlAsio.Errors MysqlAsio.Serialization MysqlAsio.CommonMessages MysqlAsio.HandshakeMessages
open MysqlAsio.Lib.Decoding

/-- Where an ERR packet is met: in place of a greeting, or later, with some capabilities. -/
inductive Phase
  | greeting
  | session (caps : Capabilities)
  deriving DecidableEq, Repr

/-- The capabilities in force. -/
def Phase.capabilities : Phase → Capabilities
  | .greeting => .none
  | .session caps => caps

/-- What the client makes of the body of an ERR packet. -/
def Phase.process : Phase → Bytes → ErrorInfo → ErrorCode × ErrorInfo
  | .greeting, body, info =>
    let (err, _, info) := deserializeHandshake (errorPacketHeader :: body) info
    (err, info)
  | .session caps, body, info => processErrorPacket ⟨body, caps⟩ info

/-- The body of an ERR packet as the protocol has it: the marker and the SQL state are for those
who have negotiated version 4.1. -/
def encodeErr (caps : Capabilities) (errorCode : UInt16) (sqlState : Vector UInt8 5)
    (errorMessage : Bytes) : Bytes :=
  serializeInt2 errorCode ++
    ((if caps.has Capabilities.clientProtocol41 then 0x23 :: sqlState.toList else []) ++
      errorMessage)

/-- A greeting goes the way of every other message. -/
lemma process_eq (phase : Phase) (body : Bytes) (info : ErrorInfo) :
    phase.process body info = processErrorPacket ⟨body, phase.capabilities⟩ info := by
  cases phase <;> rfl

/-- The decoder always takes six bytes for the marker and the state. -/
lemma of_errPacket_ok {errorCode : UInt16} {s t : Bytes} {e : ErrPacket}
    (h : deserializeErrPacket (serializeInt2 errorCode ++ s) = .ok (e, t)) :
    6 ≤ s.length ∧ e.errorMessage = s.drop 6 := by
  unfold deserializeErrPacket at h
  rw [bind_ok (int2_reads _ _)] at h
  obtain ⟨marker, s1, h1, h⟩ := of_bind_ok h
  obtain ⟨state, s2, h2, h⟩ := of_bind_ok h
  obtain ⟨hl1, -, rfl⟩ := of_takeN_ok h1
  obtain ⟨hl2, -, rfl⟩ := of_takeN_ok h2
  cases h
  rw [List.length_drop] at hl2
  exact ⟨by omega, List.drop_drop⟩

lemma client_ne_server {e : Errc} (h : 2 ^ 16 ≤ e.value) (errorCode : UInt16) :
    makeErrorCode e ≠ makeErrorCode (.server errorCode) := by
  have hlt := errorCode.toNat_lt
  intro he
  have hv : e.value = (Errc.server errorCode).value :=
    Int.ofNat_inj.mp (congrArg ErrorCode.value he)
  rw [Errc.value] at hv
  omega

/-- Without a SQL state, the text is cut or nothing is decoded. -/
lemma processErrorPacket_stateless (errorCode : UInt16) (errorMessage : Bytes)
    (caps : Capabilities) (info : ErrorInfo) :
    processErrorPacket ⟨serializeInt2 errorCode ++ errorMessage, caps⟩ info ≠
      (makeErrorCode (.server errorCode), ⟨errorMessage⟩) := by
  intro h
  rw [processErrorPacket, deserializeMessage] at h
  rcases hd : deserializeErrPacket (serializeInt2 errorCode ++ errorMessage) with e | ⟨e, t⟩
  · obtain rfl := errPacket_failsOnly _ _ hd
    rw [hd] at h
    exact client_ne_server (by decide) errorCode (congrArg Prod.fst h)
  · obtain ⟨hlen, hm⟩ := of_errPacket_ok hd
    rw [hd] at h
    by_cases ht : t = []
    · simp only [if_pos ht] at h
      have hinfo : e.errorMessage = errorMessage := congrArg (fun r => r.2.message) h
      rw [hm] at hinfo
      have hl := congrArg List.length hinfo
      rw [List.length_drop] at hl
      omega
    · simp only [if_neg ht] at h
      exact client_ne_server (by decide) errorCode (congrArg Prod.fst h)

/-- **What a server says is reported exactly where version 4.1 was negotiated**, which it never is
in place of a greeting. -/
theorem errPacket_reported_iff (phase : Phase) (errorCode : UInt16) (sqlState : Vector UInt8 5)
    (errorMessage : Bytes) (info : ErrorInfo) :
    phase.process (encodeErr phase.capabilities errorCode sqlState errorMessage) info =
        (makeErrorCode (.server errorCode), ⟨errorMessage⟩) ↔
      phase.capabilities.has Capabilities.clientProtocol41 = true := by
  rw [process_eq, encodeErr]
  by_cases hcaps : phase.capabilities.has Capabilities.clientProtocol41 = true
  · rw [if_pos hcaps]
    exact iff_of_true (@processErrorPacket_encode
      ⟨errorCode, [0x23], sqlState.toList, errorMessage⟩ rfl (by simp) _ info) hcaps
  · rw [if_neg hcaps, List.nil_append]
    exact iff_of_false (processErrorPacket_stateless errorCode errorMessage _ info) hcaps

/-- A server that has too many connections. -/
theorem tooManyConnections_not_reported :
    Phase.greeting.process (encodeErr .none 1040 (.replicate 5 0x30) (ascii "Too many connections"))
      .clear ≠ (makeErrorCode (.server 1040), ⟨ascii "Too many connections"⟩) := by
  decide

end MysqlAsio.ErrPhases
