import IdentityToken.Command.Error
import IdentityToken.Command.Request
/-!
# Secrets for a command

A secret that is given on the command line is used whatever the configuration says; without one the
configured source is asked.
-/

namespace IdentityToken.Command

/-- What a command finds around it. -/
structure Surroundings where
  files : FileSystem
  environment : Environment

namespace SecretOptions

/-- The secret that a text gives: the one in the file of that name if there is such a file, and else
the text. -/
def given (files : FileSystem) (text : String) : Except CommandError Secret :=
  if files.exists? text then (Secret.load files text).mapError (.secretFile text)
  else .ok (.trimmed text)

/-- The secret of an option, or else of its source. -/
def resolve (s : Surroundings) (option : Option String) (source : SecretSource) :
    Except CommandError (Option Secret) :=
  match option with
  | some text => (given s.files text).map some
  | none => (source.resolve s.environment s.files).mapError .configuredSecret

def signingSecret (o : SecretOptions) (c : Config) (s : Surroundings) :
    Except CommandError Secret := do
  match Secret.usable? (← resolve s o.signing c.signing) with
  | some secret => .ok secret
  | none => .error .noSigningSecret

def encryptionSecret? (o : SecretOptions) (c : Config) (s : Surroundings) :
    Except CommandError (Option Secret) :=
  resolve s o.encryption c.encryption

def encryptionSecret (o : SecretOptions) (c : Config) (s : Surroundings) :
    Except CommandError Secret := do
  match Secret.usable? (← o.encryptionSecret? c s) with
  | some secret => .ok secret
  | none => .error .noEncryptionSecret

end SecretOptions

end IdentityToken.Command
