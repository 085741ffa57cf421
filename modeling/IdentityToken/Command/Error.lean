import IdentityToken.Config
/-!
# Why a command fails

Each failure has a report: what went wrong, then what caused it.
-/

namespace IdentityToken.Command

/-- Why a command fails. A filter of the log is torn if it would cut a character in two. -/
inductive CommandError where
  | configuration (path : String) (cause : ConfigError)
  | secretFile (path : String) (cause : TokenError)
  | configuredSecret (cause : FileError)
  | noSigningSecret
  | noEncryptionSecret
  | attributeWithoutValue (text : String)
  | attributeRefused (text : String) (cause : RecordError)
  | profileFile (path : String) (cause : FileError)
  | profile (path : String) (cause : Identity.ReadError)
  | record (cause : RecordError)
  | file (cause : FileError)
  | token (cause : TokenError)
  | rejected (cause : TokenError)
  | tornFilter
deriving DecidableEq

namespace CommandError

/-- What went wrong, and then its causes, in words. -/
def report (e : CommandError) (words : Wording := {}) : List String :=
  match e with
  | configuration path cause => ("Failed to load configuration: " ++ path) :: cause.report words
  | secretFile path cause => ["Failed to load secret from file: " ++ path, cause.message words]
  | configuredSecret cause => ["Failed to read configured secret", cause.message]
  | noSigningSecret =>
    ["Signing secret not provided. Either pass --signing-secret or set TESSERA_SIGNING_SECRET"]
  | noEncryptionSecret =>
    ["Encryption secret not provided. Pass --encryption-secret, set TESSERA_ENCRYPTION_SECRET, " ++
      "or use --no-encrypt"]
  | attributeWithoutValue text => ["Invalid attribute '" ++ text ++ "'. Expected key=value"]
  | attributeRefused text cause => ["Invalid attribute '" ++ text ++ "'", cause.message]
  | profileFile path cause => ["Failed to read profile: " ++ path, cause.message]
  | profile path cause => ["Invalid profile: " ++ path, cause.message words]
  | record cause => [cause.message]
  | file cause => [cause.message]
  | token cause => [cause.message words]
  | rejected cause =>
    ["✖ Token validation failed (" ++ cause.kind.name ++ "): " ++ cause.message words]
  | tornFilter => ["The log filter ends a name inside a character"]

def exitCode : CommandError → UInt32
  | tornFilter => 101
  | _ => 1

end CommandError

end IdentityToken.Command
