import IdentityToken.Token.Encrypted
import IdentityToken.Token.Signed
/-!
# Tokens

A text is a token when it has three or five segments between dots and a header that fits.
`Token.parse` tells the three forms apart.
-/

namespace IdentityToken

structure UnsecuredToken where
  header : Header
  payloadSegment : String
deriving DecidableEq

inductive Token where
  | signed (t : SignedToken)
  | encrypted (t : EncryptedToken)
  | unsecured (t : UnsecuredToken)
deriving DecidableEq

namespace Token

def form : Token → TokenForm
  | signed _ => .signed
  | encrypted _ => .encrypted
  | unsecured _ => .unsecured

def header : Token → Header
  | signed t => t.header
  | encrypted t => t.header
  | unsecured t => t.header

/-- The token of three segments with a header. -/
def ofThree (h : Header) (header payload signature : String) : Except FormatError Token :=
  if h.alg = Header.unsecured then .ok (.unsecured ⟨h, payload⟩)
  else if h.alg = Header.hs256 then .ok (.signed ⟨h, header, payload, signature⟩)
  else .error (.otherSignature h.alg)

def ofFive (h : Header) (header key iv ciphertext tag : String) : Except FormatError Token :=
  if h.alg ≠ Header.direct ∨ h.enc ≠ some Header.a256gcm then .error (.otherEncryption h.alg h.enc)
  else if key ≠ "" then .error .encryptedKey
  else .ok (.encrypted ⟨h, header, iv, ciphertext, tag⟩)

def ofSegments : List String → Except FormatError Token
  | [header, payload, signature] => do ofThree (← Header.decode header) header payload signature
  | [header, key, iv, ciphertext, tag] => do
    ofFive (← Header.decode header) header key iv ciphertext tag
  | segments => .error (.segmentCount segments.length)

/-- The token that a text is. -/
def parse (text : String) : Except FormatError Token := ofSegments (Text.split '.' text)

end Token

end IdentityToken
