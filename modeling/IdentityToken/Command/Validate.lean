import IdentityToken.Command.Secrets
import IdentityToken.Validator
/-!
# Validating a token on command

A token is given as a text or as the path of a file that holds it. Its identity is shown only if its
signature is right.
-/

namespace IdentityToken.Command

/-- The validator for a command. The default kind that is given counts more than the configured
one. -/
def SecretOptions.validator (o : SecretOptions) (c : Config) (s : Surroundings)
    (defaultKind : Option String) :
    Except CommandError Validator := do
  let signing ← o.signingSecret c s
  let v : Validator := match ← o.encryptionSecret? c s with
    | some encryption => .ofSecrets signing encryption
    | none => .ofSigning signing
  .ok (match defaultKind.or c.defaultKind with
    | some kind => { v with defaultKind := kind }
    | none => v)

/-- The token that a text gives: the one in the file of that name if there is such a file, and else
the text. -/
def readToken (files : FileSystem) (text : String) : Except CommandError String :=
  if files.exists? text then ((files.readText text).map Text.trim).mapError .file
  else .ok (Text.trim text)

def accept (v : Validator) (token : String) : Except CommandError (ClaimSet × Identity) := do
  let claims ← (v.claims token).mapError .rejected
  let r ← (claims.toIdentity v.defaultKind).mapError fun cause => .rejected (.format cause)
  .ok (claims, r)

/-- The claims of a token and their identity. -/
def validate (c : Config) (s : Surroundings) (token : String) (secrets : SecretOptions)
    (defaultKind : Option String) : Except CommandError (ClaimSet × Identity) := do
  let v ← secrets.validator c s defaultKind
  accept v (← readToken s.files token)

end IdentityToken.Command
