import IdentityToken.Files
import IdentityToken.Identity
/-!
# Why tokens are refused

Each failure has a cause of one of four kinds: the configuration, the format of a token,
cryptography, and verification. `TokenError.message` puts a cause into words.
-/

namespace IdentityToken

inductive TokenForm where
  | signed
  | encrypted
  | unsecured
deriving DecidableEq

def TokenForm.name : TokenForm → String
  | signed => "signed"
  | encrypted => "encrypted"
  | unsecured => "unsecured"

inductive SecretUse where
  | signing
  | encryption
deriving DecidableEq

def SecretUse.name : SecretUse → String
  | signing => "signing"
  | encryption => "encryption"

/-- What is wrong with the secrets that were set up. -/
inductive SetupError where
  | blankSecret (use : SecretUse)
  | unreadableSecret (path : String) (cause : FileError)
deriving DecidableEq

def SetupError.message : SetupError → String
  | blankSecret use => s!"{use.name} secret must not be blank"
  | unreadableSecret path cause => s!"cannot read secret {path}: {cause.message}"

/-- What is wrong with the form of a token or its claims. -/
inductive FormatError where
  | headerNotBase64 (segment : String)
  | headerNotRecord (octets : Bytes)
  | segmentCount (count : Nat)
  | otherSignature (alg : String)
  | otherEncryption (alg : String) (enc : Option String)
  | encryptedKey
  | unexpectedEncryption (alg : String) (enc : Option String) (expectedAlg expectedEnc : String)
  | unsecured
  | nestedNotText
  | nestedNotSigned (form : TokenForm)
  | claimsNotBase64 (segment : String)
  | claimsNotJson (octets : Bytes)
  | claimsNotObject
  | subjectMissing
  | subjectNotText
  | subjectBlank
  | issuedAtNotNumber
  | issuedAtOutOfRange
  | issuerNotText
  | notIdentity (cause : RecordError)
deriving DecidableEq

def FormatError.message (e : FormatError) (words : Wording := {}) : String :=
  match e with
  | headerNotBase64 segment => "header is not base64url: " ++ words.segment segment
  | headerNotRecord octets => "header is not a JOSE object: " ++ words.header octets
  | segmentCount count => s!"expected 3 or 5 segments, found {count}"
  | otherSignature alg => "unsupported JWS algorithm '" ++ alg ++ "'"
  | otherEncryption alg enc =>
    "unsupported JWE algorithm '" ++ alg ++ "' with encryption '" ++ enc.getD "-" ++ "'"
  | encryptedKey => "direct encryption carries no encrypted key"
  | unexpectedEncryption alg enc expectedAlg expectedEnc =>
    let enc := enc.getD "-"
    s!"token is encrypted with {alg}/{enc}, expected {expectedAlg}/{expectedEnc}"
  | unsecured => "unsupported unsecured token"
  | nestedNotText => "encrypted payload is not UTF-8"
  | nestedNotSigned form => s!"encrypted payload is a {form.name} token, expected a signed one"
  | claimsNotBase64 segment => "claims are not base64url: " ++ words.segment segment
  | claimsNotJson octets => "claims are not valid JSON: " ++ words.claims octets
  | claimsNotObject => "claims are not a JSON object"
  | subjectMissing => "missing sub claim"
  | subjectNotText => "sub claim is not a string"
  | subjectBlank => "sub claim is blank"
  | issuedAtNotNumber => "iat claim is not a number"
  | issuedAtOutOfRange => "iat claim is out of range"
  | issuerNotText => "iss claim is not a string"
  | notIdentity cause => s!"claims do not form an identity: {cause.message}"

inductive SealedPart where
  | iv
  | ciphertext
  | tag
deriving DecidableEq

def SealedPart.name : SealedPart → String
  | iv => "IV"
  | ciphertext => "ciphertext"
  | tag => "tag"

inductive CryptoError where
  | shortSigningKey (bits : Nat)
  | contentKeySize (bits : Nat)
  | notBase64 (part : SealedPart)
  | ivSize (octets : Nat)
  | tagSize (octets : Nat)
  | notAuthentic
deriving DecidableEq

def CryptoError.message : CryptoError → String
  | shortSigningKey bits => s!"HS256 secret must be at least 256 bits, got {bits}"
  | contentKeySize bits => s!"A256GCM secret must be exactly 256 bits, got {bits}"
  | notBase64 part => s!"{part.name} is not base64url"
  | ivSize octets => s!"A256GCM IV must be 12 bytes, got {octets}"
  | tagSize octets => s!"A256GCM tag must be 16 bytes, got {octets}"
  | notAuthentic => "A256GCM decryption failed"

/-- Why a signature is not accepted. -/
inductive VerificationError where
  | otherAlgorithm (alg expected : String)
  | notBase64
  | mismatch
deriving DecidableEq

def VerificationError.message : VerificationError → String
  | otherAlgorithm alg expected => s!"token is signed with {alg}, expected {expected}"
  | notBase64 => "signature is not base64url"
  | mismatch => "signature mismatch"

/-- Why a token is not issued or not accepted. -/
inductive TokenError where
  | setup (cause : SetupError)
  | format (cause : FormatError)
  | crypto (cause : CryptoError)
  | verification (cause : VerificationError)
deriving DecidableEq

namespace TokenError

inductive Kind where
  | configuration
  | format
  | crypto
  | verification
deriving DecidableEq

def Kind.name : Kind → String
  | configuration => "configuration"
  | format => "format"
  | crypto => "crypto"
  | verification => "verification"

def kind : TokenError → Kind
  | setup _ => .configuration
  | format _ => .format
  | crypto _ => .crypto
  | verification _ => .verification

def message (e : TokenError) (words : Wording := {}) : String :=
  match e with
  | setup cause => "missing configuration: " ++ cause.message
  | format cause => "malformed token: " ++ cause.message words
  | crypto cause => "cryptographic failure: " ++ cause.message
  | verification cause => "token verification failed: " ++ cause.message

end TokenError

end IdentityToken
