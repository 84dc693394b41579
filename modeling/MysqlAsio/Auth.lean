import Mathlib.Data.List.Basic
import MysqlAsio.Errors

/-!
Authentication plugins: what the client answers to the challenge of a server.
-/

namespace MysqlAsio.Auth

open MysqlAsio.Errors

/-- `SHA1` and `SHA256`. -/
structure Hashes where
  sha1 : Bytes → Vector UInt8 20
  sha256 : Bytes → Vector UInt8 32

/-- Digests where none is looked at. -/
def zeroHashes : Hashes := ⟨fun _ => .replicate 20 0, fun _ => .replicate 32 0⟩

/-- An answer, and where its bytes come from: nothing, a digest of the password, or the
password itself. -/
inductive AuthResponse
  | blank
  | scrambled (bytes : Bytes)
  | cleartext (password : Bytes)
  deriving DecidableEq, Repr

/-- A password is sent with a NUL after it. -/
def AuthResponse.bytes : AuthResponse → Bytes
  | .blank => []
  | .scrambled bytes => bytes
  | .cleartext password => password ++ [0]

def xorBytes (a b : Bytes) : Bytes := List.zipWith (· ^^^ ·) a b

/-! ### `mysql_native_password` -/

namespace MysqlNativePassword

def challengeLength : ℕ := 20

def computeAuthString (hashes : Hashes) (password challenge : Bytes) : Bytes :=
  let passwordSha1 := (hashes.sha1 password).toList
  let saltedBuffer := challenge ++ (hashes.sha1 passwordSha1).toList
  xorBytes passwordSha1 (hashes.sha1 saltedBuffer).toList

def computeResponse (hashes : Hashes) (password challenge : Bytes) (_useSsl : Bool) :
    Except ErrorCode AuthResponse :=
  if challenge.length ≠ challengeLength then .error (makeErrorCode .protocolValueError)
  else .ok (.scrambled (computeAuthString hashes password challenge))

end MysqlNativePassword

/-! ### `caching_sha2_password` -/

namespace CachingSha2Password

def challengeLength : ℕ := 20
def performFullAuth : Bytes := [4]

def computeAuthString (hashes : Hashes) (password challenge : Bytes) : Bytes :=
  let passwordSha := (hashes.sha256 password).toList
  let buffer := (hashes.sha256 passwordSha).toList ++ challenge
  xorBytes (hashes.sha256 buffer).toList passwordSha

def computeResponse (hashes : Hashes) (password challenge : Bytes) (useSsl : Bool) :
    Except ErrorCode AuthResponse :=
  if challenge = performFullAuth then
    if !useSsl then .error (makeErrorCode .authPluginRequiresSsl) else .ok (.cleartext password)
  else if challenge.length ≠ challengeLength then .error (makeErrorCode .protocolValueError)
  else .ok (.scrambled (computeAuthString hashes password challenge))

end CachingSha2Password

/-! ### The calculator -/

/-- `all_authentication_plugins`. -/
inductive AuthenticationPlugin
  | mysqlNativePassword
  | cachingSha2Password
  deriving DecidableEq, Repr

def AuthenticationPlugin.name : AuthenticationPlugin → Bytes
  | .mysqlNativePassword => ascii "mysql_native_password"
  | .cachingSha2Password => ascii "caching_sha2_password"

def AuthenticationPlugin.calculator : AuthenticationPlugin → Hashes → Bytes → Bytes → Bool →
    Except ErrorCode AuthResponse
  | .mysqlNativePassword => MysqlNativePassword.computeResponse
  | .cachingSha2Password => CachingSha2Password.computeResponse

def findPlugin (name : Bytes) : Option AuthenticationPlugin :=
  [.mysqlNativePassword, .cachingSha2Password].find? fun plugin => plugin.name = name

lemma findPlugin_name (plugin : AuthenticationPlugin) : findPlugin plugin.name = some plugin := by
  cases plugin <;> decide

structure AuthCalculator where
  plugin : Option AuthenticationPlugin
  response : AuthResponse
  deriving DecidableEq, Repr

def AuthCalculator.new : AuthCalculator := ⟨none, .blank⟩

/-- The name of the plugin, which is asserted to be there. -/
def AuthCalculator.pluginName (auth : AuthCalculator) : Bytes :=
  match auth.plugin with
  | some plugin => plugin.name
  | none => []

/-- The plugin is set even where the answer is not. -/
def AuthCalculator.calculate (auth : AuthCalculator) (hashes : Hashes)
    (pluginName password challenge : Bytes) (useSsl : Bool) : ErrorCode × AuthCalculator :=
  let auth := { auth with plugin := findPlugin pluginName }
  match auth.plugin with
  | some plugin =>
    if password = [] then (.success, { auth with response := .blank })
    else
      match plugin.calculator hashes password challenge useSsl with
      | .ok response => (.success, { auth with response })
      | .error err => (err, auth)
  | none => (makeErrorCode .unknownAuthPlugin, auth)

/-- The password itself is answered only where TLS is in use. -/
lemma calculate_cases (auth : AuthCalculator) (hashes : Hashes)
    (pluginName password challenge : Bytes) (useSsl : Bool) :
    let r := auth.calculate hashes pluginName password challenge useSsl
    (r.1.failed = true ∧ r.2.response = auth.response) ∨
    r.1 = .success ∧ ∀ p, r.2.response = .cleartext p → useSsl = true := by
  unfold AuthCalculator.calculate
  cases findPlugin pluginName with
  | none => exact Or.inl ⟨rfl, rfl⟩
  | some plugin =>
    by_cases hp : password = []
    · simp [hp]
    · cases plugin <;>
        simp only [hp, if_false, AuthenticationPlugin.calculator,
          MysqlNativePassword.computeResponse, CachingSha2Password.computeResponse] <;>
        split_ifs <;> simp_all

end MysqlAsio.Auth
