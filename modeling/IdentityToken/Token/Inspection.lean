import IdentityToken.Token.Basic
/-!
# Looking into tokens

What a token says of itself, without any check of its signature.
-/

namespace IdentityToken

/-- What can be seen of a token without keys. There are no claims if they are encrypted. -/
structure Inspection where
  form : TokenForm
  header : Header
  claims : Option Json

namespace Inspection

def decodeClaims (segment : String) : Except FormatError Json :=
  match Base64Url.decode? segment with
  | none => .error (.claimsNotBase64 segment)
  | some b =>
    match Json.ofBytes? b with
    | none => .error (.claimsNotJson b)
    | some x => .ok x

/-- The claims of a token that is not encrypted. -/
def claimsOf : Token → Except FormatError (Option Json)
  | .signed t => (decodeClaims t.payloadSegment).map some
  | .unsecured t => (decodeClaims t.payloadSegment).map some
  | .encrypted _ => .ok none

def ofText (text : String) : Except FormatError Inspection := do
  let token ← Token.parse text
  let claims ← claimsOf token
  .ok ⟨token.form, token.header, claims⟩

end Inspection

end IdentityToken
