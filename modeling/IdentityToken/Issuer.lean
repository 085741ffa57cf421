import IdentityToken.Log
import IdentityToken.Token.Basic
/-!
# Issuing tokens

An issuer signs the claims of a record, and encrypts the signed token if it has a secret for that.
Whether it succeeds depends on its secrets alone.
-/

namespace IdentityToken

structure Issuer where
  signing : Option Secret
  encryption : Option Secret

namespace Issuer

/-- The issuer that its tokens name. -/
def name : String := "JwtGenerator"

/-- An issuer with one secret, which also encrypts if wanted. -/
def ofSecret (secret : Secret) (encrypted : Bool) : Issuer :=
  ⟨some secret, if encrypted then some secret else none⟩

def ofSecrets (signing encryption : Secret) : Issuer := ⟨some signing, some encryption⟩

def isEncrypting (i : Issuer) : Bool := (Secret.usable? i.encryption).isSome

/-- What there is to say about the secrets: both should differ. -/
def warnings (i : Issuer) : List Event :=
  match Secret.usable? i.signing, Secret.usable? i.encryption with
  | some s, some e => if s = e then [.sharedSecret .issuer] else []
  | _, _ => []

/-- Encrypts a signed token, if there is a secret for that. -/
def wrap (i : Issuer) (iv : Crypto.Gcm.Iv) (signed : String) : Except TokenError String :=
  match Secret.usable? i.encryption with
  | none => .ok signed
  | some secret => do
    let key ← (ContentKey.ofBytes secret.bytes).mapError .crypto
    .ok (EncryptedToken.encrypt signed key iv)

/-- Issues a token for a record at an instant. The initialization vector matters only if it is
encrypted. -/
def issue (i : Issuer) (r : Identity) (at_ : Instant) (iv : Crypto.Gcm.Iv) :
    Except TokenError String := do
  match Secret.usable? i.signing with
  | none => .error (.setup (.blankSecret .signing))
  | some secret =>
    let key ← (SigningKey.ofBytes secret.bytes).mapError .crypto
    i.wrap iv (SignedToken.sign (ClaimSet.forIdentity r name at_) key)

def issued (i : Issuer) (r : Identity) : Event := .issued r.typedId i.isEncrypting

def shown (i : Issuer) : String :=
  "JwtGenerator \x7b signing_secret: " ++ Secret.shownOption i.signing
    ++ ", encryption_secret: " ++ Secret.shownOption i.encryption ++ " \x7d"

end Issuer

end IdentityToken
