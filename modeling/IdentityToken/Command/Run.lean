import IdentityToken.Command.Issue
import IdentityToken.Command.Validate
import IdentityToken.Log.Filter
import IdentityToken.Token.Inspection
/-!
# Running a request

A request leaves files, events for the log, and a text for the user or an error. What was written
before an error stays.
-/

namespace IdentityToken.Command

/-- What a request leaves. -/
structure Outcome where
  files : FileSystem
  events : List Event := []
  result : Except CommandError String

def ofLines (lines : List String) : String := String.join (lines.map (· ++ "\n"))

/-! ## New secrets -/

def signingFile : String := "signing.key"

def encryptionFile : String := "encryption.key"

def writeText (files : FileSystem) (path text : String) : FileSystem × Except FileError Unit :=
  files.write path (Text.utf8 text)

/-- Writes two secrets into a directory, which is created if need be. -/
def writeSecrets (files : FileSystem) (directory : String) (signing encryption : Secret) :
    FileSystem × Except FileError Unit :=
  match files.createDirectories directory with
  | (files, .error e) => (files, .error e)
  | (files, .ok ()) =>
    match writeText files (FileSystem.child directory signingFile) signing.text with
    | (files, .error e) => (files, .error e)
    | (files, .ok ()) => writeText files (FileSystem.child directory encryptionFile) encryption.text

def shownSecrets (signing encryption : Secret) : String :=
  ofLines ["Signing secret (keep secure!):", signing.text, "",
    "Encryption secret (keep secure!):", encryption.text, "",
    "Use --output <dir> to save secrets to files."]

def savedSecrets (directory : String) : String :=
  let signing := FileSystem.child directory signingFile
  let encryption := FileSystem.child directory encryptionFile
  ofLines ["✔ Generated secrets:", "  Signing secret:    " ++ signing,
    "  Encryption secret: " ++ encryption, "",
    "⚠️  Keep both secrets private! Never commit them to version control.", "",
    "Set as environment variables:",
    "  export TESSERA_SIGNING_SECRET=$(cat " ++ signing ++ ")",
    "  export TESSERA_ENCRYPTION_SECRET=$(cat " ++ encryption ++ ")"]

def runSecrets (files : FileSystem) (fresh : Fresh) (output : Option String) : Outcome :=
  let signing := Secret.ofDraws fresh.signing.toList
  let encryption := Secret.ofDraws fresh.encryption.toList
  match output with
  | none => { files, result := .ok (shownSecrets signing encryption) }
  | some directory =>
    let (files, written) := writeSecrets files directory signing encryption
    { files, result := (written.mapError .file).map fun _ => savedSecrets directory }

/-! ## Tokens -/

def savedToken (path : String) (encrypted : Bool) : String :=
  ofLines ["✔ Token written to: " ++ path,
    if encrypted then "  Type: Encrypted (dir/A256GCM around HS256)" else "  Type: Signed (HS256)"]

def issueEvents (prepared : Except CommandError (Identity × Issuer))
    (minted : Except CommandError (String × Bool)) : List Event :=
  match prepared with
  | .error _ => []
  | .ok (r, i) => i.warnings ++ if minted.isOk then [i.issued r] else []

def runIssue (c : Config) (s : Surroundings) (fresh : Fresh) (identity : IdentityOptions)
    (secrets : SecretOptions) (signedOnly : Bool) (output : Option String) : Outcome :=
  let minted := mint c s identity secrets signedOnly fresh
  let events := issueEvents (prepare c s identity secrets signedOnly) minted
  match minted, output with
  | .error e, _ => { files := s.files, events, result := .error e }
  | .ok (token, _), none => { files := s.files, events, result := .ok (ofLines [token]) }
  | .ok (token, encrypted), some path =>
    let (files, written) := writeText s.files path token
    { files, events, result := (written.mapError .file).map fun _ => savedToken path encrypted }

/-- What is said of an identity: who it is, what its token says of its issue, and its attributes. -/
def identitySummary (c : ClaimSet) (r : Identity) : String :=
  let attributes := r.attributes.toList.map fun (key, value) =>
    "    " ++ key ++ ": " ++ value.compact
  ofLines (["✔ Token is valid", "", "Identity:", "  Typed id: " ++ r.typedId]
    ++ c.issuer.toList.map ("  Issuer: " ++ ·)
    ++ c.issuedAt.toList.map ("  Issued at: " ++ ·.rfc3339)
    ++ if attributes.isEmpty then ["  Attributes: (none)"] else "  Attributes:" :: attributes)

def inspectionSummary (i : Inspection) : String :=
  ofLines (["Token Information (NOT verified):", "  Form: " ++ i.form.name,
      "  Header: " ++ i.header.toJson]
    ++ match i.claims with
      | some claims => ["", claims.pretty]
      | none => ["  Claims: (encrypted)"])

def validateEvents (v : Except CommandError Validator) : List Event :=
  match v with
  | .error _ => []
  | .ok v => v.warnings

def runValidate (c : Config) (s : Surroundings) (token : String) (secrets : SecretOptions)
    (defaultKind : Option String) (json : Bool) : Outcome where
  files := s.files
  events := validateEvents (secrets.validator c s defaultKind)
  result := (validate c s token secrets defaultKind).map fun (claims, r) =>
    if json then ofLines [r.render .indented] else identitySummary claims r

def runInspect (s : Surroundings) (token : String) : Outcome where
  files := s.files
  result := do
    let text ← readToken s.files token
    let found ← (Inspection.ofText text).mapError fun cause => .token (.format cause)
    .ok (inspectionSummary found)

namespace Request

/-- Runs a request under a configuration. -/
def run (r : Request) (c : Config) (s : Surroundings) (fresh : Fresh) : Outcome :=
  match r with
  | .newSecrets output => runSecrets s.files fresh output
  | .issue identity secrets signedOnly output =>
    runIssue c s fresh identity secrets signedOnly output
  | .validate token secrets defaultKind json => runValidate c s token secrets defaultKind json
  | .inspect token => runInspect s token

end Request

def configuration (s : Surroundings) (path : String) : Except CommandError Config :=
  (Config.loadOrDefault s.files path).mapError (.configuration path)

def filterVariable : String := "RUST_LOG"

/-- Runs a request under the configuration in a file. Only the events that are shown are left. -/
def run (s : Surroundings) (fresh : Fresh) (configFile : String) (r : Request) : Outcome :=
  match configuration s configFile with
  | .error e => { files := s.files, result := .error e }
  | .ok c =>
    match Log.Filter.choose (s.environment.get? filterVariable) c.level with
    | .error _ => { files := s.files, result := .error .tornFilter }
    | .ok filter =>
      let outcome := r.run c s fresh
      { outcome with events := outcome.events.filter filter.shows }

end IdentityToken.Command
