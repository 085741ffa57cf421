import IdentityToken.ClaimSet
import IdentityToken.Keys
/-!
# Signed tokens

A signed token has three segments: header, claims and signature. The signature covers the text of
the first two, and `SignedToken.verify` looks at nothing else.
-/

namespace IdentityToken

/-- A signed token as it was written, with its header. -/
structure SignedToken where
  header : Header
  headerSegment : String
  payloadSegment : String
  signatureSegment : String
deriving DecidableEq

namespace SignedToken

/-- The text that the signature covers. -/
def signingInput (t : SignedToken) : String := Text.join '.' [t.headerSegment, t.payloadSegment]

def serialize (t : SignedToken) : String :=
  Text.join '.' [t.headerSegment, t.payloadSegment, t.signatureSegment]

def sign (c : ClaimSet) (key : SigningKey) : String :=
  let header := (Header.signed Header.hs256).encode
  let payload := Base64Url.encode c.payload
  let signature := key.sign (Text.utf8 (Text.join '.' [header, payload]))
  Text.join '.' [header, payload, Base64Url.encode signature]

/-- Checks the algorithm and the signature. -/
def verify (t : SignedToken) (v : Verifier) : Except VerificationError Unit :=
  if t.header.alg ≠ v.alg then .error (.otherAlgorithm t.header.alg v.alg)
  else
    match Base64Url.decode? t.signatureSegment with
    | none => .error .notBase64
    | some signature =>
      if v.accepts (Text.utf8 t.signingInput) signature then .ok () else .error .mismatch

def payload (t : SignedToken) : Except FormatError Bytes :=
  match Base64Url.decode? t.payloadSegment with
  | none => .error (.claimsNotBase64 t.payloadSegment)
  | some b => .ok b

/-- The claims, whether or not the signature is right. -/
def claims (t : SignedToken) : Except FormatError ClaimSet := do ClaimSet.ofPayload (← t.payload)

end SignedToken

end IdentityToken
