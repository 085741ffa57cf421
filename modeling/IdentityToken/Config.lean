import IdentityToken.Fields
import IdentityToken.Identity
import IdentityToken.Secret
import IdentityToken.Yaml.Node
/-!
# Configuration

A configuration says where secrets come from, whether tokens are encrypted, which kind subjects
without one get, and what is logged. It is written in YAML, and everything in it may be left out. A
default kind is never blank and holds no separator.
-/

namespace IdentityToken

/-- Where a secret is looked for: first in a variable of the environment, then in a file. -/
structure SecretSource where
  variableName : Option String
  file : Option String
deriving DecidableEq

/-- Whether a text can stand before the separator of a typed id. -/
def ProperKind (kind : String) : Prop := ¬Text.Blank kind ∧ Identity.separator ∉ kind.toList

instance (kind : String) : Decidable (ProperKind kind) := inferInstanceAs (Decidable (_ ∧ _))

structure Config where
  signing : SecretSource := ⟨some "TESSERA_SIGNING_SECRET", none⟩
  encryption : SecretSource := ⟨some "TESSERA_ENCRYPTION_SECRET", none⟩
  encrypt : Bool := true
  defaultKind : Option String := none
  level : String := "info"
  proper : ∀ kind ∈ defaultKind, ProperKind kind := by simp

inductive ConfigError where
  | unreadable (cause : FileError)
  | malformed {s : String}
  | blankKind
  | separatorInKind
deriving DecidableEq

/-- The reason and what caused it, in words. -/
def ConfigError.report (e : ConfigError) (words : Wording := {}) : List String :=
  match e with
  | unreadable cause => ["IO error: " ++ cause.message, cause.message]
  | @malformed s => ["YAML parse error: " ++ words.configuration s]
  | blankKind => ["Configuration error: token.default_kind must not be blank"]
  | separatorInKind => ["Configuration error: token.default_kind must not contain '#'"]

abbrev Environment := List (String × String)

def Environment.get? (env : Environment) (name : String) : Option String := List.lookup name env

namespace SecretSource

/-- The secret that a source gives, if it gives any. A blank variable counts as none. -/
def resolve (s : SecretSource) (env : Environment) (fs : FileSystem) :
    Except FileError (Option Secret) :=
  match (s.variableName.bind env.get?).filter fun text => !decide (Text.Blank text) with
  | some text => .ok (some (.trimmed text))
  | none =>
    match s.file with
    | none => .ok none
    | some path =>
      if fs.exists? path then (fs.readText path).map fun text => some (.trimmed text) else .ok none

end SecretSource

namespace Config

open Yaml

instance : Inhabited Config := ⟨{}⟩

def defaultFile : String := "tessera.yaml"

/-- The node that a node stands for. -/
def follow (d : Document) : Node → Option Node
  | .alias n => d.anchored.lookup n
  | n => some n

def scalarText (d : Document) (n : Node) : Option String := do
  match ← follow d n with
  | .scalar _ _ text => some text
  | _ => none

/-- The fields of a mapping. Where nothing is written there are none. -/
def fields (d : Document) (n : Node) : Option (List (String × Node)) := do
  match ← follow d n with
  | .mapping pairs => pairs.mapM fun (k, v) => do some (← scalarText d k, v)
  | .scalar .plain _ "" => some []
  | _ => none

/-- The plain scalars that stand for nothing. -/
def nullTexts : List String := ["null", "Null", "NULL", "~"]

def optionalText (d : Document) (n : Node) : Option (Option String) := do
  match ← follow d n with
  | .scalar .plain none text => some (if text = "" ∨ text ∈ nullTexts then none else some text)
  | .scalar .plain (some tag) text =>
    if tag = standardAddress ++ Text.utf8 "null" then if text ∈ nullTexts then some none else none
    else some (some text)
  | .scalar _ _ text => some (some text)
  | _ => none

def truth (d : Document) (n : Node) : Option Bool := do
  match ← follow d n with
  | .scalar style tag text =>
    if style = .plain ∨ style = .literal ∧ tag = some (standardAddress ++ Text.utf8 "bool") then
      if text ∈ ["true", "True", "TRUE"] then some true
      else if text ∈ ["false", "False", "FALSE"] then some false
      else none
    else none
  | _ => none

/-- The value of a field, or a default where it is missing. -/
def fieldOr {α : Type} (default : α) (read : Node → Option α) (name : String)
    (found : List (String × Node)) : Option α := do
  match ← Fields.unique? name found with
  | none => some default
  | some n => read n

/-- The values of a configuration before they are checked. -/
structure Values where
  signing : SecretSource
  encryption : SecretSource
  encrypt : Bool
  defaultKind : Option String
  level : String

def values? (d : Document) : Option Values := do
  let default : Config := {}
  let found ← match d.root with
    | none => some []
    | some root => fields d root
  let token ← fieldOr [] (fields d) "token" found
  let logging ← fieldOr [] (fields d) "logging" found
  let signingVariable ←
    fieldOr default.signing.variableName (optionalText d) "signing_secret_env" token
  let signingFile ← fieldOr none (optionalText d) "signing_secret_file" token
  let encryptionVariable ←
    fieldOr default.encryption.variableName (optionalText d) "encryption_secret_env" token
  let encryptionFile ← fieldOr none (optionalText d) "encryption_secret_file" token
  let encrypt ← fieldOr default.encrypt (truth d) "encrypt" token
  let defaultKind ← fieldOr none (optionalText d) "default_kind" token
  let level ← fieldOr default.level (scalarText d) "level" logging
  some ⟨⟨signingVariable, signingFile⟩, ⟨encryptionVariable, encryptionFile⟩, encrypt, defaultKind,
    level⟩

/-- The configuration of values, if the default kind is proper. -/
def ofValues (v : Values) : Except ConfigError Config :=
  if h : ∀ kind ∈ v.defaultKind, ProperKind kind then
    .ok ⟨v.signing, v.encryption, v.encrypt, v.defaultKind, v.level, h⟩
  else if Text.Blank (v.defaultKind.getD "") then .error .blankKind
  else .error .separatorInKind

def ofYaml (text : String) : Except ConfigError Config :=
  match (Document.ofText? text).bind values? with
  | none => .error (.malformed (s := text))
  | some v => ofValues v

def load (fs : FileSystem) (path : String) : Except ConfigError Config := do
  ofYaml (← (fs.readText path).mapError .unreadable)

/-- The configuration in a file, or the default one if there is no such file. -/
def loadOrDefault (fs : FileSystem) (path : String) : Except ConfigError Config :=
  if fs.exists? path then load fs path else .ok {}

end Config

end IdentityToken
