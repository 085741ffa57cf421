import IdentityToken.Crypto.Gcm
import IdentityToken.Crypto.Hmac
import IdentityToken.Header
import IdentityToken.Secret
/-!
# Keys

A signing key has at least 32 octets and a content key exactly 32; both are checked once, when the
key is made. A `Verifier` and a `Decrypter` are what a token needs in order to be verified and
decrypted: an algorithm and what it does.
-/

namespace IdentityToken

/-- A key of the message authentication code. -/
structure SigningKey where
  bytes : Bytes
  length : 32 ≤ bytes.length

structure ContentKey where
  bytes : Vector UInt8 32

/-- What authenticates a message. -/
structure Verifier where
  alg : String
  accepts : (message signature : Bytes) → Bool

/-- An encrypted text with what is needed to decrypt it. -/
structure Sealed where
  iv : Bytes
  ciphertext : Bytes
  tag : Bytes

/-- What decrypts and authenticates a text. -/
structure Decrypter where
  alg : String
  enc : String
  decrypt : (aad : Bytes) → Sealed → Except CryptoError Bytes

namespace SigningKey

def ofBytes (bytes : Bytes) : Except CryptoError SigningKey :=
  if h : 32 ≤ bytes.length then .ok ⟨bytes, h⟩ else .error (.shortSigningKey (8 * bytes.length))

def sign (key : SigningKey) (message : Bytes) : Bytes := Crypto.hmacSha256 key.bytes message

def verify (key : SigningKey) (message signature : Bytes) : Bool := key.sign message == signature

def verifier (key : SigningKey) : Verifier := ⟨Header.hs256, key.verify⟩

def shown (_ : SigningKey) : String := "HmacSha256 \x7b key: \"[REDACTED]\" \x7d"

end SigningKey

namespace ContentKey

def ofBytes (bytes : Bytes) : Except CryptoError ContentKey :=
  if h : bytes.length = 32 then .ok ⟨⟨bytes.toArray, h⟩⟩
  else .error (.contentKeySize (8 * bytes.length))

/-- Encrypts a text under an initialization vector. This never fails, since no length counts as too
great: the failure "A256GCM encryption failed", for more than `2^36` octets of a text or of
additional data, does not occur. -/
def encrypt (key : ContentKey) (iv : Crypto.Gcm.Iv) (aad plaintext : Bytes) : Sealed :=
  let (ciphertext, tag) := Crypto.Gcm.encrypt (Crypto.aes256 key.bytes) iv aad plaintext
  ⟨iv.toList, ciphertext, tag⟩

/-- The text inside, if all sizes are right and the tag belongs to it. -/
def decrypt (key : ContentKey) (aad : Bytes) (s : Sealed) : Except CryptoError Bytes :=
  if h : s.iv.length = 12 then
    if s.tag.length = 16 then
      match
        Crypto.Gcm.decrypt? (Crypto.aes256 key.bytes) ⟨s.iv.toArray, h⟩ aad s.ciphertext s.tag with
      | some plaintext => .ok plaintext
      | none => .error .notAuthentic
    else .error (.tagSize s.tag.length)
  else .error (.ivSize s.iv.length)

def decrypter (key : ContentKey) : Decrypter := ⟨Header.direct, Header.a256gcm, key.decrypt⟩

def shown (_ : ContentKey) : String := "DirectAes256Gcm \x7b key: \"[REDACTED]\" \x7d"

end ContentKey

end IdentityToken
