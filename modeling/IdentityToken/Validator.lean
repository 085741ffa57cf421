import IdentityToken.Log
import IdentityToken.Text.Shown
import IdentityToken.Token.Basic
/-!
# Validating tokens

A validator accepts a token only if its signature is right, and reads no claim before. An encrypted
token is decrypted first; what is inside has to be a signed token.
-/

namespace IdentityToken

structure Validator where
  signing : Option Secret := none
  encryption : Option Secret := none
  defaultKind : String := "JwtProfile"

namespace Validator

/-- A validator with one secret for both uses. -/
def ofSecret (secret : Secret) : Validator := { signing := some secret, encryption := some secret }

def ofSecrets (signing encryption : Secret) : Validator :=
  { signing := some signing, encryption := some encryption }

/-- A validator that decrypts nothing. -/
def ofSigning (signing : Secret) : Validator := { signing := some signing }

/-- What there is to say about the secrets: both should differ. -/
def warnings (v : Validator) : List Event :=
  match v.signing, v.encryption with
  | some s, some e => if s = e then [.sharedSecret .validator] else []
  | _, _ => []

/-- The signed token that an encrypted text is. -/
def nestedToken (payload : Bytes) : Except FormatError SignedToken :=
  match Text.ofUtf8? payload with
  | none => .error .nestedNotText
  | some text => do
    match ← Token.parse text with
    | .signed t => .ok t
    | other => .error (.nestedNotSigned other.form)

def unwrap (v : Validator) (t : EncryptedToken) : Except TokenError SignedToken :=
  match Secret.usable? v.encryption with
  | none => .error (.setup (.blankSecret .encryption))
  | some secret => do
    let key ← (ContentKey.ofBytes secret.bytes).mapError .crypto
    let payload ← t.decrypt key.decrypter
    (nestedToken payload).mapError .format

/-- The signed token that a token is or contains. -/
def signedToken (v : Validator) : Token → Except TokenError SignedToken
  | .signed t => .ok t
  | .encrypted t => v.unwrap t
  | .unsecured _ => .error (.format .unsecured)

/-- The claims of a token whose signature is right. -/
def claims (v : Validator) (text : String) : Except TokenError ClaimSet :=
  match Secret.usable? v.signing with
  | none => .error (.setup (.blankSecret .signing))
  | some secret => do
    let token ← (Token.parse text).mapError .format
    let signed ← v.signedToken token
    let key ← (SigningKey.ofBytes secret.bytes).mapError .crypto
    (signed.verify key.verifier).mapError .verification
    signed.claims.mapError .format

/-- The record of a token whose signature is right. -/
def validate (v : Validator) (text : String) : Except TokenError Identity := do
  let c ← v.claims text
  (c.toIdentity v.defaultKind).mapError .format

def event : Except TokenError Identity → Event
  | .ok r => .validated r.typedId
  | .error e => .rejected e

def shown (v : Validator) : String :=
  "JwtValidator \x7b signing_secret: " ++ Secret.shownOption v.signing ++
    ", encryption_secret: " ++ Secret.shownOption v.encryption
    ++ ", default_kind: " ++ Text.quoted v.defaultKind ++ " \x7d"

end Validator

end IdentityToken
