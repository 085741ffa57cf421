import IdentityToken.Text.Blank
import IdentityToken.Token.Error
/-!
# Secrets

A secret is a text whose octets are a key. Secrets are never shown.
-/

namespace IdentityToken

structure Secret where
  text : String
deriving DecidableEq

namespace Secret

def signingLength : Nat := 64

def encryptionLength : Nat := 32

/-- The key that a secret is. -/
def bytes (s : Secret) : Bytes := Text.utf8 s.text

def isBlank (s : Secret) : Bool := decide (Text.Blank s.text)

/-- The secret without white space around it. -/
def trimmed (text : String) : Secret := ⟨Text.trim text⟩

def shown (_ : Secret) : String := "Secret([REDACTED])"

def shownOption : Option Secret → String
  | some s => "Some(" ++ s.shown ++ ")"
  | none => "None"

def letters : Vector Char 62 := #v[
  'A', 'B', 'C', 'D', 'E', 'F', 'G', 'H', 'I', 'J', 'K', 'L', 'M',
  'N', 'O', 'P', 'Q', 'R', 'S', 'T', 'U', 'V', 'W', 'X', 'Y', 'Z',
  'a', 'b', 'c', 'd', 'e', 'f', 'g', 'h', 'i', 'j', 'k', 'l', 'm',
  'n', 'o', 'p', 'q', 'r', 's', 't', 'u', 'v', 'w', 'x', 'y', 'z',
  '0', '1', '2', '3', '4', '5', '6', '7', '8', '9']

/-- The secret that draws from the letters make up. -/
def ofDraws (draws : List (Fin 62)) : Secret := ⟨String.ofList (draws.map fun i => letters[i])⟩

/-- The secret in a file, without white space around it. -/
def load (fs : FileSystem) (path : String) : Except TokenError Secret :=
  match fs.readText path with
  | .ok text => .ok (trimmed text)
  | .error cause => .error (.setup (.unreadableSecret path cause))

/-- A secret that is there and not blank. -/
def usable? (s : Option Secret) : Option Secret := s.filter (!·.isBlank)

end Secret

end IdentityToken
