import IdentityToken.Command.Arguments
import IdentityToken.Config
/-!
# Requests

What the program can be asked for: new secrets, a token for an identity, the identity of a token, or
what a token says of itself. `Invocation.ofArguments?` reads a request from a command line; there is
none if the command line has no sense.
-/

namespace IdentityToken.Command

/-- Where an identity comes from. -/
inductive IdentityBase where
  | profile (path : String)
  | subject (kind : Option String) (id : String)
deriving DecidableEq

/-- How an identity is asked for: attributes are set on a base, one after the other. -/
structure IdentityOptions where
  base : IdentityBase
  attributes : List String
deriving DecidableEq

/-- Secrets as they are given, each as a text or as the path of a file with that text. -/
structure SecretOptions where
  signing : Option String
  encryption : Option String
deriving DecidableEq

inductive Request where
  | newSecrets (output : Option String)
  | issue (identity : IdentityOptions) (secrets : SecretOptions) (signedOnly : Bool)
      (output : Option String)
  | validate (token : String) (secrets : SecretOptions) (defaultKind : Option String) (json : Bool)
  | inspect (token : String)
deriving DecidableEq

inductive Invocation where
  | request (configFile : String) (r : Request)
  | version
  | help
deriving DecidableEq

/-- The option for the file of the configuration. It may be given at each level. -/
def configOption : OptionSpec := { long := "config", kind := .path }

def helpOption : OptionSpec := { long := "help", letter := some 'h', kind := .help }

def versionOption : OptionSpec := { long := "version", letter := some 'V', kind := .version }

def outputOption : OptionSpec := { long := "output", letter := some 'o', kind := .path }

def commonOptions : List OptionSpec := [configOption, helpOption]

def secretOptions : List OptionSpec :=
  [{ long := "signing-secret", kind := .value }, { long := "encryption-secret", kind := .value }]

def identityOptions : List OptionSpec :=
  [{ long := "subject", kind := .value }, { long := "kind", kind := .value },
    { long := "profile", kind := .path },
    { long := "attr", kind := .list }]

def keysGrammar : Grammar :=
  .group commonOptions [("generate", .leaf (outputOption :: commonOptions) 0)]

def tokenGrammar : Grammar :=
  .group commonOptions [
    ("generate", .leaf (identityOptions ++ secretOptions
      ++ { long := "no-encrypt", kind := .switch } :: outputOption :: commonOptions) 0),
    ("validate", .leaf (secretOptions ++ { long := "default-kind", kind := .value }
      :: { long := "json", kind := .switch } :: commonOptions) 1),
    ("inspect", .leaf commonOptions 1)]

def grammar : Grammar :=
  .group (versionOption :: commonOptions) [("keys", keysGrammar), ("token", tokenGrammar)]

namespace IdentityOptions

/-- The identity that arguments ask for. A profile and a subject exclude each other, and one of them
is needed; a kind matters only for a subject. -/
def ofArguments? (a : Arguments) : Option IdentityOptions :=
  match a.value? "profile", a.value? "subject" with
  | some path, none => some ⟨.profile path, a.values "attr"⟩
  | none, some id => some ⟨.subject (a.value? "kind") id, a.values "attr"⟩
  | _, _ => none

end IdentityOptions

namespace SecretOptions

def ofArguments (a : Arguments) : SecretOptions :=
  ⟨a.value? "signing-secret", a.value? "encryption-secret"⟩

end SecretOptions

namespace Request

def ofArguments? (a : Arguments) : Option Request :=
  match a.path, a.positionals with
  | ["keys", "generate"], [] => some (.newSecrets (a.value? "output"))
  | ["token", "generate"], [] => do
    some (.issue (← IdentityOptions.ofArguments? a) (.ofArguments a) (a.has "no-encrypt")
      (a.value? "output"))
  | ["token", "validate"], [token] =>
    some (.validate token (.ofArguments a) (a.value? "default-kind") (a.has "json"))
  | ["token", "inspect"], [token] => some (.inspect token)
  | _, _ => none

end Request

def versionText : String := "tessera 0.1.0\n"

namespace Invocation

def configVariable : String := "TESSERA_CONFIG"

/-- The file of the configuration: the one given at the innermost level, else the one that the
environment names, else the default one. An empty name in the environment is refused unless each
level has an option of its own. -/
def configFile? (env : Environment) (a : Arguments) : Option String :=
  let named := env.get? configVariable
  if named = some "" ∧ ∃ l ∈ a.levels, l.options.lookup configOption.long = none then none
  else some ((a.innermost? configOption.long).getD (named.getD Config.defaultFile))

def ofArguments? (env : Environment) (texts : List String) : Option Invocation := do
  match ← Arguments.read grammar texts with
  | .version => some .version
  | .help => some .help
  | .arguments a => some (.request (← configFile? env a) (← Request.ofArguments? a))

example : ofArguments? [] ["token", "inspect", "--config", "c.yaml", "a.b.c"]
    = some (.request "c.yaml" (.inspect "a.b.c")) := by decide +kernel
example : ofArguments? [(configVariable, "e.yaml")] ["keys", "generate", "-o", "d"]
    = some (.request "e.yaml" (.newSecrets (some "d"))) := by decide +kernel
example : ofArguments? [] ["token", "generate", "--kind", "User"] = none := by decide +kernel

end Invocation

end IdentityToken.Command
