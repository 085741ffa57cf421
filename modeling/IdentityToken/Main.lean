import IdentityToken.Command.Run
import Std.Time.DateTime.Timestamp
/-!
# The program

Reads the command line, what it refers to, the clock and random octets, runs the request, and
carries out what it left: files, lines of the log, and a text or an error. All decisions are made in
`IdentityToken.Command`.
-/

open IdentityToken IdentityToken.Command

/-- The number of an error for something that is a directory and should be a file. -/
def directoryCode : UInt32 := 21

def entryAt? (path : String) : IO (Option Entry) := do
  try
    let content ← IO.FS.readBinFile path
    return some (.file content.toList)
  catch
    | .noFileOrDirectory .. => return none
    | .inappropriateType _ code _ => return if code = directoryCode then some .directory else none
    | .invalidArgument .. => return none
    | e => throw e

/-- Adds what a path and the directories on the way to it are. -/
def addPath (fs : FileSystem) (path : String) : IO FileSystem := do
  if '\x00' ∈ path.toList then return fs
  let names := FileSystem.names path
  let start := if path.startsWith "/" then "/" else ""
  let mut result := fs
  let mut place := if path.startsWith "/" then [] else fs.here
  for n in List.range names.length do
    let part := names.take (n + 1)
    place := match part.getLast? with
      | none | some "." => place
      | some ".." => place.dropLast
      | some name => place ++ [name]
    if (result.entry? place).isNone then
      match ← entryAt? (start ++ Text.join '/' part) with
      | some entry => result := result.put place entry
      | none => return result
  return result

def addPaths (fs : FileSystem) (paths : List String) : IO FileSystem := paths.foldlM addPath fs

/-- The paths that a request may refer to. -/
def pathsOf : Request → List String
  | .newSecrets output =>
    output.toList.flatMap fun directory =>
      [directory, FileSystem.child directory signingFile, FileSystem.child directory encryptionFile]
  | .issue identity secrets _ output =>
    (match identity.base with
      | .profile path => [path]
      | .subject .. => [])
      ++ secrets.signing.toList ++ secrets.encryption.toList ++ output.toList
  | .validate token secrets _ _ => token :: secrets.signing.toList ++ secrets.encryption.toList
  | .inspect token => [token]

def readVariables (names : List String) : IO Environment :=
  names.filterMapM fun name => do return (← IO.getEnv name).map (name, ·)

def draw (n : Nat) : IO (Vector UInt8 n) := do
  let octets ← IO.getRandomBytes n.toUSize
  return Vector.ofFn fun i => octets.toList.getD i 0

/-- Numbers below 62, each as likely as the others: larger octets are drawn again. -/
partial def drawLetters (n : Nat) : IO (Vector (Fin 62) n) := do
  let octets ← IO.getRandomBytes (8 * n + 64).toUSize
  let fair := octets.toList.filter (· < 248)
  if h : n ≤ fair.length then
    return Vector.ofFn fun i => Fin.ofNat 62 (fair.get ⟨i, by omega⟩).toNat
  else drawLetters n

def now : IO Instant := do
  let t ← Std.Time.Timestamp.now
  let nanos := t.toNanosecondsSinceUnixEpoch.val
  match Instant.of? (nanos.fdiv 1000000000) (nanos.fmod 1000000000).toNat with
  | some instant => return instant
  | none => throw (.userError "the clock is out of range")

def drawFresh : IO Fresh := do
  return ⟨← now, ← draw 12, ← drawLetters _, ← drawLetters _⟩

/-- Writes what a request added to the files, the oldest first. -/
def writeFiles (before after : FileSystem) : IO Unit :=
  let added := after.entries.take (after.entries.length - before.entries.length)
  for (place, entry) in added.reverse do
    let path := "/" ++ Text.join '/' place
    match entry with
    | .directory _ => IO.FS.createDir path
    | .file content _ => IO.FS.writeBinFile path ⟨content.toArray⟩
    | .link .. => throw (.userError "links are not created")

def levelWord (e : Event) : String :=
  match e.level with
  | .error => "ERROR"
  | .warn => "WARN"
  | .info => "INFO"
  | .debug => "DEBUG"
  | .trace => "TRACE"

def errorText (report : List String) : String :=
  match report with
  | [] => ""
  | [only] => "Error: " ++ only
  | [what, cause] => "Error: " ++ what ++ "\n\nCaused by:\n    " ++ cause
  | what :: causes =>
    let numbered := causes.zipIdx.map fun (cause, n) => "\n    " ++ toString n ++ ": " ++ cause
    "Error: " ++ what ++ "\n\nCaused by:" ++ String.join numbered

def perform (known : Environment) (configFile : String) (r : Request) : IO UInt32 := do
  let here := toString (← IO.FS.realPath ".")
  let start ← addPaths ⟨[], FileSystem.names here⟩ (here :: configFile :: pathsOf r)
  let c := (Config.loadOrDefault start configFile).toOption.getD default
  let files ← addPaths start (c.signing.file.toList ++ c.encryption.file.toList)
  let found ← readVariables (c.signing.variableName.toList ++ c.encryption.variableName.toList)
  let outcome := run ⟨files, known ++ found⟩ (← drawFresh) configFile r
  for event in outcome.events do
    IO.eprintln (levelWord event ++ " " ++ Log.sourceName event.party ++ ": " ++ event.message)
  writeFiles files outcome.files
  match outcome.result with
  | .ok text =>
    IO.print text
    return 0
  | .error e =>
    IO.eprintln (errorText e.report)
    return e.exitCode

def usage : String :=
  ofLines ["Usage: tessera [--config <file>] <command>", "",
    "  keys generate [--output <dir>]",
    "  token generate --subject <id> [--kind <kind>] | --profile <file>",
    "      [--attr <key=value>]... [--signing-secret <secret>] [--encryption-secret <secret>]",
    "      [--no-encrypt] [--output <file>]",
    "  token validate <token> [--signing-secret <secret>] [--encryption-secret <secret>]",
    "      [--default-kind <kind>] [--json]",
    "  token inspect <token>"]

def main (args : List String) : IO UInt32 := do
  let known ← readVariables [Invocation.configVariable, filterVariable]
  match Invocation.ofArguments? known args with
  | none =>
    IO.eprint usage
    return 2
  | some .help =>
    IO.print usage
    return 0
  | some .version =>
    IO.print versionText
    return 0
  | some (.request configFile r) => perform known configFile r
