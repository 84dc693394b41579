import Mathlib.Data.Nat.Cast.Basic
import MysqlAsio.Lib.Decoding
import MysqlAsio.Lib.LittleEndian

/-!
Error codes, error information, byte strings and capabilities.
-/

namespace MysqlAsio.Errors

abbrev Bytes := List UInt8

/-- The bytes of an ASCII text. -/
def ascii (s : String) : Bytes := s.toList.map fun c => .ofNat c.toNat

/-- The errors of the library: those a server reports by number, and the client's own.
Number 0 is `errc::ok`. -/
inductive Errc
  | server (code : UInt16)
  | incompleteMessage
  | extraBytes
  | sequenceNumberMismatch
  | serverUnsupported
  | protocolValueError
  | unknownAuthPlugin
  | authPluginRequiresSsl
  | wrongNumParams
  deriving DecidableEq, Repr

def Errc.value : Errc → ℕ
  | .server code => code.toNat
  | .incompleteMessage => 65536
  | .extraBytes => 65537
  | .sequenceNumberMismatch => 65538
  | .serverUnsupported => 65539
  | .protocolValueError => 65540
  | .unknownAuthPlugin => 65541
  | .authPluginRequiresSsl => 65542
  | .wrongNumParams => 65543

inductive Category
  | system | mysql | misc | ssl
  deriving DecidableEq, Repr

/-- `boost::system::error_code`. -/
structure ErrorCode where
  value : ℤ
  category : Category
  deriving DecidableEq, Repr

/-- `error_code()`. -/
def ErrorCode.success : ErrorCode := ⟨0, .system⟩

/-- `operator bool`: the only thing callers test. -/
def ErrorCode.failed (e : ErrorCode) : Bool := e.value ≠ 0

def makeErrorCode (e : Errc) : ErrorCode := ⟨e.value, .mysql⟩

/-- `boost::asio::error::eof`. -/
def eof : ErrorCode := ⟨2, .misc⟩

@[simp] lemma success_failed : ErrorCode.success.failed = false := rfl
@[simp] lemma eof_failed : eof.failed = true := rfl

/-- The only error that callers take for success is the server's number 0. -/
lemma makeErrorCode_failed_iff (e : Errc) :
    (makeErrorCode e).failed = true ↔ e ≠ .server 0 := by
  cases e with
  | server code =>
    simp only [makeErrorCode, ErrorCode.failed, Errc.value, ne_eq, decide_not,
      Bool.not_eq_true', decide_eq_false_iff_not, Errc.server.injEq, Nat.cast_eq_zero]
    rw [not_iff_not, ← UInt16.toNat_inj, UInt16.toNat_zero]
  | _ => simp [makeErrorCode, ErrorCode.failed, Errc.value]

@[simp] lemma makeErrorCode_failed {e : Errc} (h : ∀ code, e ≠ .server code) :
    (makeErrorCode e).failed = true := (makeErrorCode_failed_iff e).mpr (h 0)

@[simp] lemma makeErrorCode_server_failed (code : UInt16) :
    (makeErrorCode (.server code)).failed = (code ≠ 0) := by
  rw [eq_iff_iff, makeErrorCode_failed_iff]
  simp

/-- `error_info`: a message, empty where there is none. -/
structure ErrorInfo where
  message : Bytes
  deriving DecidableEq, Repr

def ErrorInfo.clear : ErrorInfo := ⟨[]⟩

/-! ### Capabilities -/

structure Capabilities where
  value : BitVec 32
  deriving DecidableEq, Repr

namespace Capabilities

def clientConnectWithDb : BitVec 32 := 8
def clientProtocol41 : BitVec 32 := 512
def clientSsl : BitVec 32 := 2048
def clientSecureConnection : BitVec 32 := 32768
def clientPluginAuth : BitVec 32 := 1 <<< 19
def clientPluginAuthLenencClientData : BitVec 32 := 1 <<< 21
def clientDeprecateEof : BitVec 32 := 1 <<< 24

/-- `capabilities()`. -/
def none : Capabilities := ⟨0⟩

def has (c : Capabilities) (cap : BitVec 32) : Bool := c.value &&& cap ≠ 0
def hasAll (c other : Capabilities) : Bool := c.value &&& other.value = other.value
def or (c rhs : Capabilities) : Capabilities := ⟨c.value ||| rhs.value⟩
def and (c rhs : Capabilities) : Capabilities := ⟨c.value &&& rhs.value⟩

def mandatoryCapabilities : Capabilities :=
  ⟨clientProtocol41 ||| clientPluginAuth ||| clientPluginAuthLenencClientData |||
    clientDeprecateEof ||| clientSecureConnection⟩

def optionalCapabilities : Capabilities := ⟨0⟩

end Capabilities

end MysqlAsio.Errors
