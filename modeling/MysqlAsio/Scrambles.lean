import MysqlAsio.Auth

/-!
The responses of the plugins, as a server checks them that knows only a digest of a digest of the
password.
-/

namespace MysqlAsio.Scrambles

open MysqlAsio.Errors MysqlAsio.Auth

/-! ### The checks of a server -/

/-- What a server keeps for `mysql_native_password`. -/
def nativeStored (hashes : Hashes) (password : Bytes) : Bytes :=
  (hashes.sha1 (hashes.sha1 password).toList).toList

/-- The digest it recovers from a response must be the password's. -/
def NativeAccepts (hashes : Hashes) (stored challenge response : Bytes) : Prop :=
  (hashes.sha1 (xorBytes response (hashes.sha1 (challenge ++ stored)).toList)).toList = stored

/-- What a server keeps for `caching_sha2_password`. -/
def cachingSha2Stored (hashes : Hashes) (password : Bytes) : Bytes :=
  (hashes.sha256 (hashes.sha256 password).toList).toList

def CachingSha2Accepts (hashes : Hashes) (stored challenge response : Bytes) : Prop :=
  (hashes.sha256 (xorBytes response (hashes.sha256 (stored ++ challenge)).toList)).toList = stored

/-! ### Masks -/

lemma xorBytes_length {a b : Bytes} (h : a.length = b.length) :
    (xorBytes a b).length = a.length := by
  rw [xorBytes, List.length_zipWith, h, Nat.min_self]

lemma xorBytes_comm (a b : Bytes) : xorBytes a b = xorBytes b a :=
  List.zipWith_comm_of_comm UInt8.xor_comm

/-- A mask that is applied twice is gone. -/
lemma xorBytes_cancel {a b : Bytes} (h : a.length = b.length) :
    xorBytes (xorBytes a b) b = a := by
  induction a generalizing b with
  | nil => rfl
  | cons x a ih =>
    cases b with
    | nil => cases h
    | cons y b =>
      have hxy : x ^^^ y ^^^ y = x := by rw [UInt8.xor_assoc, UInt8.xor_self, UInt8.xor_zero]
      have ht := ih (Nat.succ.inj h)
      rw [xorBytes, xorBytes] at ht ⊢
      rw [List.zipWith_cons_cons, List.zipWith_cons_cons, hxy, ht]

section Plugins

variable (hashes : Hashes) (password challenge : Bytes)

lemma native_accepts : NativeAccepts hashes (nativeStored hashes password) challenge
    (MysqlNativePassword.computeAuthString hashes password challenge) := by
  unfold NativeAccepts MysqlNativePassword.computeAuthString nativeStored
  rw [xorBytes_cancel (by simp)]

lemma native_length :
    (MysqlNativePassword.computeAuthString hashes password challenge).length = 20 := by
  rw [MysqlNativePassword.computeAuthString, xorBytes_length (by simp)]
  simp

lemma cachingSha2_accepts : CachingSha2Accepts hashes (cachingSha2Stored hashes password) challenge
    (CachingSha2Password.computeAuthString hashes password challenge) := by
  unfold CachingSha2Accepts CachingSha2Password.computeAuthString cachingSha2Stored
  rw [xorBytes_comm (hashes.sha256 _).toList, xorBytes_cancel (by simp)]

lemma cachingSha2_length :
    (CachingSha2Password.computeAuthString hashes password challenge).length = 32 := by
  rw [CachingSha2Password.computeAuthString, xorBytes_length (by simp)]
  simp

end Plugins

/-! ### What is computed -/

/-- What a calculator comes to, for a password and whatever it had computed before. -/
structure ChallengesChecked (hashes : Hashes) (auth : AuthCalculator) (password : Bytes)
    (useSsl : Bool) : Prop where
  native : ∀ challenge : Bytes, challenge.length = 20 → ∃ response,
    auth.calculate hashes AuthenticationPlugin.mysqlNativePassword.name password challenge useSsl =
      (.success, ⟨some .mysqlNativePassword, response⟩) ∧
    response.bytes.length = 20 ∧
    NativeAccepts hashes (nativeStored hashes password) challenge response.bytes
  cachingSha2 : ∀ challenge : Bytes, challenge.length = 20 → ∃ response,
    auth.calculate hashes AuthenticationPlugin.cachingSha2Password.name password challenge useSsl =
      (.success, ⟨some .cachingSha2Password, response⟩) ∧
    response.bytes.length = 32 ∧
    CachingSha2Accepts hashes (cachingSha2Stored hashes password) challenge response.bytes
  nativeOther : ∀ challenge : Bytes, challenge.length ≠ 20 →
    auth.calculate hashes AuthenticationPlugin.mysqlNativePassword.name password challenge useSsl =
      (makeErrorCode .protocolValueError, ⟨some .mysqlNativePassword, auth.response⟩)
  cachingSha2Other : ∀ challenge : Bytes, challenge.length ≠ 20 →
    challenge ≠ CachingSha2Password.performFullAuth →
    auth.calculate hashes AuthenticationPlugin.cachingSha2Password.name password challenge useSsl =
      (makeErrorCode .protocolValueError, ⟨some .cachingSha2Password, auth.response⟩)

lemma calculate_computes {hashes : Hashes} {auth : AuthCalculator} {plugin : AuthenticationPlugin}
    {password : Bytes} (hp : password ≠ []) (challenge : Bytes) (useSsl : Bool) :
    auth.calculate hashes plugin.name password challenge useSsl =
      match plugin.calculator hashes password challenge useSsl with
      | .ok response => (.success, ⟨some plugin, response⟩)
      | .error err => (err, ⟨some plugin, auth.response⟩) := by
  rcases hc : plugin.calculator hashes password challenge useSsl with err | response
  · simp only [AuthCalculator.calculate, findPlugin_name, if_neg hp, hc]
  · simp only [AuthCalculator.calculate, findPlugin_name, if_neg hp, hc]

/-- **The responses pass the checks of a server** that keeps a digest of a digest of the password,
whatever the digests are, and a challenge of another length leaves the response as it was. -/
theorem challenges_checked (hashes : Hashes) (auth : AuthCalculator) {password : Bytes}
    (hp : password ≠ []) (useSsl : Bool) : ChallengesChecked hashes auth password useSsl where
  native challenge hlen := by
    have hlen' : ¬ challenge.length ≠ MysqlNativePassword.challengeLength := not_not.mpr hlen
    rw [calculate_computes hp]
    simp only [AuthenticationPlugin.calculator, MysqlNativePassword.computeResponse, if_neg hlen']
    exact ⟨_, rfl, native_length .., native_accepts ..⟩
  cachingSha2 challenge hlen := by
    have hlen' : ¬ challenge.length ≠ CachingSha2Password.challengeLength := not_not.mpr hlen
    have hfull : challenge ≠ CachingSha2Password.performFullAuth := by
      rintro rfl
      cases hlen
    rw [calculate_computes hp]
    simp only [AuthenticationPlugin.calculator, CachingSha2Password.computeResponse, if_neg hfull,
      if_neg hlen']
    exact ⟨_, rfl, cachingSha2_length .., cachingSha2_accepts ..⟩
  nativeOther challenge hlen := by
    have hlen' : challenge.length ≠ MysqlNativePassword.challengeLength := hlen
    rw [calculate_computes hp]
    simp only [AuthenticationPlugin.calculator, MysqlNativePassword.computeResponse, if_pos hlen']
  cachingSha2Other challenge hlen hfull := by
    have hlen' : challenge.length ≠ CachingSha2Password.challengeLength := hlen
    rw [calculate_computes hp]
    simp only [AuthenticationPlugin.calculator, CachingSha2Password.computeResponse, if_neg hfull,
      if_pos hlen']

/-- A password of one byte. -/
theorem challenges_checked_short :
    ChallengesChecked zeroHashes .new [0x61] false :=
  challenges_checked _ _ (by decide) _

end MysqlAsio.Scrambles
