import IdentityToken.Command.Secrets
import IdentityToken.Issuer
/-!
# Issuing a token on command

The identity is built from a profile or a subject, and the attributes that are given are set on it.
A token is encrypted unless the configuration or the command says otherwise; there is no token if it
cannot be.
-/

namespace IdentityToken.Command

/-- What is new whenever a command is run: the time and what is drawn at random. -/
structure Fresh where
  now : Instant
  iv : Crypto.Gcm.Iv
  signing : Vector (Fin 62) Secret.signingLength
  encryption : Vector (Fin 62) Secret.encryptionLength

namespace IdentityBase

def ofProfile (files : FileSystem) (path : String) : Except CommandError Identity := do
  let text ← (files.readText path).mapError (.profileFile path)
  (Identity.ofJson (Text.utf8 text)).mapError (.profile path)

def ofSubject (kind : Option String) (id : String) : Except CommandError Identity :=
  match kind with
  | some kind => (Identity.ofKind kind id).mapError .record
  | none => (Identity.ofTypedId id).mapError .record

def identity (files : FileSystem) : IdentityBase → Except CommandError Identity
  | .profile path => ofProfile files path
  | .subject kind id => ofSubject kind id

end IdentityBase

namespace IdentityOptions

/-- The key and the value of an attribute. The key is without white space around it. The value is
what the text after the first equals sign denotes in JSON, or that text if it denotes nothing. -/
def readAttribute (text : String) : Except CommandError (String × Json) :=
  match Text.splitFirst? '=' text with
  | none => .error (.attributeWithoutValue text)
  | some (key, value) => .ok (Text.trim key, (Json.ofString? value).getD (.string value))

def setAttribute (r : Identity) (text : String) : Except CommandError Identity := do
  let (key, value) ← readAttribute text
  (r.set key value).mapError (.attributeRefused text)

def identity (o : IdentityOptions) (files : FileSystem) : Except CommandError Identity := do
  o.attributes.foldlM setAttribute (← o.base.identity files)

end IdentityOptions

namespace SecretOptions

/-- The issuer for a command. It encrypts unless the configuration or the command wants signed
tokens only. -/
def issuer (o : SecretOptions) (c : Config) (s : Surroundings) (signedOnly : Bool) :
    Except CommandError Issuer := do
  let signing ← o.signingSecret c s
  if signedOnly || !c.encrypt then .ok (.ofSecret signing false)
  else .ok (.ofSecrets signing (← o.encryptionSecret c s))

end SecretOptions

/-- The identity of a token that is asked for and its issuer. -/
def prepare (c : Config) (s : Surroundings) (identity : IdentityOptions) (secrets : SecretOptions)
    (signedOnly : Bool) : Except CommandError (Identity × Issuer) := do
  let r ← identity.identity s.files
  let i ← secrets.issuer c s signedOnly
  .ok (r, i)

/-- A token for an identity, and whether it is encrypted. -/
def mint (c : Config) (s : Surroundings) (identity : IdentityOptions) (secrets : SecretOptions)
    (signedOnly : Bool) (fresh : Fresh) : Except CommandError (String × Bool) := do
  let (r, i) ← prepare c s identity secrets signedOnly
  let token ← (i.issue r fresh.now fresh.iv).mapError .token
  .ok (token, i.isEncrypting)

end IdentityToken.Command
