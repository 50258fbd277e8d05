import ChainScenario.Text.Utf8

/-!
# Storage keys of tokens

What an account holds of a token is kept in its storage: a holding under the identifier and the nonce
of the instance, the roles and the last nonce under the identifier.
-/
namespace ChainScenario.Token

/-- The bytes of a nonce, without leading zeros. -/
def nonceBytes (nonce : UInt64) : Bytes := Bytes.ofNat nonce.toNat

/-- The nonce that the last eight bytes denote. -/
def nonceOfBytes (bytes : Bytes) : UInt64 := UInt64.ofNat (Bytes.toNat bytes)

/-- What the keys of holdings start with. -/
def holdingMark : Bytes := Utf8.ofString "ELRONDesdt"

/-- What the keys of roles start with. -/
def rolesMark : Bytes := Utf8.ofString "ELRONDroleesdt"

/-- What the keys of last nonces start with. -/
def nonceMark : Bytes := Utf8.ofString "ELRONDnonce"

def holdingKey (token : Bytes) (nonce : UInt64) : Bytes :=
  holdingMark ++ token ++ nonceBytes nonce

def rolesKey (token : Bytes) : Bytes := rolesMark ++ token

/-- The key of the last nonce of a token. -/
def lastNonceKey (token : Bytes) : Bytes := nonceMark ++ token

/-- The number of random bytes behind the dash of an identifier. -/
def randomLength : Nat := 6

/-- Splits an identifier and the bytes of a nonce. The identifier ends six bytes behind its first
dash; without such an end all is identifier. -/
def splitKey (bytes : Bytes) : Bytes × UInt64 :=
  let ticker := bytes.takeWhile (· != 0x2D)
  let cut := ticker.length + 1 + randomLength
  if ticker.length < bytes.length ∧ cut ≤ bytes.length then
    (bytes.take cut, nonceOfBytes (bytes.drop cut))
  else (bytes, 0)

end ChainScenario.Token
