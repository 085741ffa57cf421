import IdentityToken.Keys
/-!
# Encrypted tokens

An encrypted token has five segments: header, an encrypted key, which is empty as the key is used
directly, initialization vector, ciphertext and tag. The text of the header is authenticated too.
-/

namespace IdentityToken

/-- An encrypted token as it was written, with its header. -/
structure EncryptedToken where
  header : Header
  headerSegment : String
  ivSegment : String
  ciphertextSegment : String
  tagSegment : String
deriving DecidableEq

namespace EncryptedToken

def serialize (t : EncryptedToken) : String :=
  Text.join '.' [t.headerSegment, "", t.ivSegment, t.ciphertextSegment, t.tagSegment]

/-- Puts a text into an encrypted token. -/
def encrypt (nested : String) (key : ContentKey) (iv : Crypto.Gcm.Iv) : String :=
  let header := (Header.encrypted Header.direct Header.a256gcm).encode
  let parts := key.encrypt iv (Text.utf8 header) (Text.utf8 nested)
  Text.join '.' [header, "", Base64Url.encode parts.iv, Base64Url.encode parts.ciphertext,
    Base64Url.encode parts.tag]

def decodePart (part : SealedPart) (segment : String) : Except CryptoError Bytes :=
  match Base64Url.decode? segment with
  | none => .error (.notBase64 part)
  | some b => .ok b

def parts (t : EncryptedToken) : Except CryptoError Sealed := do
  let iv ← decodePart .iv t.ivSegment
  let ciphertext ← decodePart .ciphertext t.ciphertextSegment
  let tag ← decodePart .tag t.tagSegment
  .ok ⟨iv, ciphertext, tag⟩

/-- The text inside. -/
def decrypt (t : EncryptedToken) (d : Decrypter) : Except TokenError Bytes :=
  if t.header.alg ≠ d.alg ∨ t.header.enc ≠ some d.enc then
    .error (.format (.unexpectedEncryption t.header.alg t.header.enc d.alg d.enc))
  else
    match t.parts with
    | .error e => .error (.crypto e)
    | .ok parts => (d.decrypt (Text.utf8 t.headerSegment) parts).mapError .crypto

end EncryptedToken

end IdentityToken
