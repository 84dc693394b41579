import MysqlAsio.Errors

/-!
The stream under a channel: a socket and the TLS layer over it, as the reads, writes and TLS
handshakes of the networking library see them.

What the peer does is part of the state: what is going to arrive in each layer, and how
writes and TLS handshakes will end. The stream remembers what was done with it.
-/

namespace MysqlAsio.Streams

open MysqlAsio.Errors

/-- An error that callers see. -/
abbrev Failure := {e : ErrorCode // e.failed = true}

/-- What the next byte of a read turns out to be. -/
inductive Arrival
  | byte (b : UInt8)
  | failure (e : Failure)
  deriving DecidableEq

inductive Layer
  | plain | tls
  deriving DecidableEq, Repr

/-- What was done with a stream: the bytes that left in a layer, and the TLS handshakes. -/
inductive Event
  | write (layer : Layer) (data : Bytes)
  | tlsHandshake (completed : Bool)
  deriving DecidableEq, Repr

/-- How a TLS handshake ends: in an error, or with what the TLS layer is going to deliver. -/
abbrev TlsOutcome := Except Failure (List Arrival)

/-- A stream. A list that runs out stands for a peer that has closed its side, writes that
succeed, and TLS handshakes it does not answer. -/
structure Stream where
  isOpen : Bool
  plain : List Arrival
  tls : List Arrival
  /-- How each write ends: all sent, or an error after some bytes. -/
  writeResults : List (Option (ℕ × Failure))
  tlsOutcomes : List TlsOutcome
  closeResult : ErrorCode
  /-- How much of what arrives in the TLS layer that has taken in when the stream is closed. -/
  tlsBuffered : ℕ
  log : List Event
  /-- How many reads were made. -/
  reads : ℕ

/-- `boost::asio::error::bad_descriptor`. -/
def badDescriptor : ErrorCode := ⟨9, .system⟩

/-- What the peer does on one connection of the stream to an endpoint. -/
structure Session where
  connectError : Option Failure
  plain : List Arrival
  /-- What a TLS layer left from an earlier session makes of what the peer sends. -/
  staleTls : List Arrival
  writeResults : List (Option (ℕ × Failure))
  tlsOutcomes : List TlsOutcome
  closeResult : ErrorCode
  tlsBuffered : ℕ

/-- The stream at the beginning of a session. -/
def Session.stream (session : Session) : Stream where
  isOpen := true
  plain := session.plain
  tls := session.staleTls
  writeResults := session.writeResults
  tlsOutcomes := session.tlsOutcomes
  closeResult := session.closeResult
  tlsBuffered := session.tlsBuffered
  log := []
  reads := 0

/-- Receive `n` bytes, up to the first error. -/
def receive (endError : ErrorCode) : ℕ → List Arrival → Bytes × ErrorCode × List Arrival
  | 0, l => ([], .success, l)
  | _ + 1, [] => ([], endError, [])
  | _ + 1, .failure e :: l => ([], e, l)
  | n + 1, .byte b :: l =>
    let (data, err, l') := receive endError n l
    (b :: data, err, l')

namespace Stream

def arrivals (s : Stream) : Layer → List Arrival
  | .plain => s.plain
  | .tls => s.tls

/-- The stream when `n` more reads were made and `rest` is still to arrive in a layer. -/
def advance (s : Stream) (layer : Layer) (n : ℕ) (rest : List Arrival) : Stream :=
  match layer with
  | .plain => { s with plain := rest, reads := s.reads + n }
  | .tls => { s with tls := rest, reads := s.reads + n }

/-- What a read ends with when nothing more arrives. -/
def endError (s : Stream) : ErrorCode := if s.isOpen then eof else badDescriptor

/-- `connect`: the stream is open afterwards, connected or not. -/
def connect (_s : Stream) (session : Session) : ErrorCode × Stream :=
  match session.connectError with
  | none => (.success, session.stream)
  | some e => (e, session.stream)

/-- `boost::asio::read` into `n` bytes; a read of no bytes does not look at the stream. -/
def read (s : Stream) (layer : Layer) (n : ℕ) : Bytes × ErrorCode × Stream :=
  let (data, err, l) := receive s.endError n (s.arrivals layer)
  (data, err, s.advance layer 1 l)

/-- `boost::asio::write`. -/
def write (s : Stream) (layer : Layer) (data : Bytes) : ErrorCode × Stream :=
  if !s.isOpen then (badDescriptor, s)
  else
    match s.writeResults with
    | some (n, e) :: results =>
      (e, { s with writeResults := results, log := s.log ++ [.write layer (data.take n)] })
    | none :: results =>
      (.success, { s with writeResults := results, log := s.log ++ [.write layer data] })
    | [] => (.success, { s with log := s.log ++ [.write layer data] })

/-- `ssl::stream::handshake` of a new TLS layer. -/
def tlsHandshake (s : Stream) : ErrorCode × Stream :=
  if !s.isOpen then (badDescriptor, { s with tls := [], log := s.log ++ [.tlsHandshake false] })
  else
    match s.tlsOutcomes with
    | .ok tls :: outcomes =>
      (.success, { s with
        tls, tlsOutcomes := outcomes, log := s.log ++ [.tlsHandshake true] })
    | .error e :: outcomes =>
      (e, { s with
        tls := [], tlsOutcomes := outcomes, log := s.log ++ [.tlsHandshake false] })
    | [] => (eof, { s with tls := [], log := s.log ++ [.tlsHandshake false] })

/-- `shutdown` and `close`: the stream is closed whatever they report, and the error of
`shutdown` is overwritten. What the TLS layer has taken in can still be read. -/
def close (s : Stream) : ErrorCode × Stream :=
  (s.closeResult, { s with isOpen := false, plain := [], tls := s.tls.take s.tlsBuffered })

/-- The bytes that were sent, in either layer. -/
def sent (s : Stream) : Bytes :=
  s.log.flatMap fun
    | .write _ data => data
    | .tlsHandshake _ => []

section Advance

variable (s : Stream) (layer : Layer) (n k : ℕ) (rest rest' : List Arrival)

@[simp] lemma advance_isOpen : (s.advance layer n rest).isOpen = s.isOpen := by
  cases layer <;> rfl

@[simp] lemma advance_writeResults :
    (s.advance layer n rest).writeResults = s.writeResults := by
  cases layer <;> rfl

@[simp] lemma advance_log : (s.advance layer n rest).log = s.log := by
  cases layer <;> rfl

@[simp] lemma advance_arrivals : (s.advance layer n rest).arrivals layer = rest := by
  cases layer <;> rfl

@[simp] lemma advance_advance :
    (s.advance layer n rest).advance layer k rest' = s.advance layer (n + k) rest' := by
  cases layer <;> simp [advance, Nat.add_assoc]

@[simp] lemma advance_endError : (s.advance layer n rest).endError = s.endError := by
  simp [endError]

@[simp] lemma advance_zero : s.advance layer 0 (s.arrivals layer) = s := by
  cases layer <;> rfl

end Advance

lemma endError_failed (s : Stream) : s.endError.failed = true := by
  unfold endError
  split_ifs <;> rfl

end Stream

/-! ### Reads and writes -/

lemma receive_bytes (endError : ErrorCode) (data : Bytes) (l : List Arrival) :
    receive endError data.length (data.map .byte ++ l) = (data, .success, l) := by
  induction data with
  | nil => rfl
  | cons b data ih => simp [receive, ih]

/-- What was received is what arrived, in order: all that was to be read, or an error. -/
lemma receive_cases {endError : ErrorCode} (he : endError.failed = true) (n : ℕ)
    (l : List Arrival) :
    (∃ data rest, l = data.map .byte ++ rest ∧ data.length = n ∧
      receive endError n l = (data, .success, rest)) ∨
    ∃ data e rest, e.failed = true ∧ rest.length ≤ l.length ∧
      receive endError n l = (data, e, rest) := by
  induction n generalizing l with
  | zero => exact Or.inl ⟨[], l, rfl, rfl, rfl⟩
  | succ n ih =>
    cases l with
    | nil => exact Or.inr ⟨[], endError, [], he, le_refl _, rfl⟩
    | cons a l =>
      cases a with
      | failure e => exact Or.inr ⟨[], e, l, e.2, Nat.le_succ _, rfl⟩
      | byte b =>
        rcases ih l with ⟨data, rest, hl, hn, hr⟩ | ⟨data, e, rest, hf, hl, hr⟩
        · exact Or.inl ⟨b :: data, rest, by simp [hl], by simp [hn], by simp [receive, hr]⟩
        · exact Or.inr ⟨b :: data, e, rest, hf, Nat.le_succ_of_le hl, by simp [receive, hr]⟩

lemma write_success {s : Stream} (ho : s.isOpen = true) (hw : s.writeResults = [])
    (layer : Layer) (data : Bytes) :
    s.write layer data = (.success, { s with log := s.log ++ [.write layer data] }) := by
  simp [Stream.write, ho, hw]

lemma tlsHandshake_cases (s : Stream) :
    ∃ completed tls tlsOutcomes err,
      s.tlsHandshake =
        (err, { s with tls, tlsOutcomes, log := s.log ++ [.tlsHandshake completed] }) ∧
      (completed = true ∧ err = .success ∨ completed = false ∧ err.failed = true) := by
  unfold Stream.tlsHandshake
  split_ifs
  · exact ⟨false, [], s.tlsOutcomes, badDescriptor, rfl, Or.inr ⟨rfl, rfl⟩⟩
  · rcases s.tlsOutcomes with _ | ⟨e | tls, outcomes⟩
    · exact ⟨false, [], [], eof, rfl, Or.inr ⟨rfl, rfl⟩⟩
    · exact ⟨false, [], outcomes, e, rfl, Or.inr ⟨rfl, e.2⟩⟩
    · exact ⟨true, tls, outcomes, .success, rfl, Or.inl ⟨rfl, rfl⟩⟩

end MysqlAsio.Streams
