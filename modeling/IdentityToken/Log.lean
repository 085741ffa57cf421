import IdentityToken.Token.Error
/-!
# Events

What issuing and validating tokens has to report.
-/

namespace IdentityToken

inductive Level where
  | error
  | warn
  | info
  | debug
  | trace
deriving DecidableEq

/-- The rank of a level: the lower, the more it matters. -/
def Level.rank : Level → Nat
  | error => 1
  | warn => 2
  | info => 3
  | debug => 4
  | trace => 5

inductive Party where
  | issuer
  | validator
deriving DecidableEq

/-- Something that is worth a line of the log. -/
inductive Event where
  | sharedSecret (party : Party)
  | issued (subject : String) (encrypted : Bool)
  | validated (subject : String)
  | rejected (cause : TokenError)
deriving DecidableEq

namespace Event

def level : Event → Level
  | sharedSecret _ => .warn
  | _ => .debug

def party : Event → Party
  | sharedSecret p => p
  | issued _ _ => .issuer
  | validated _ => .validator
  | rejected _ => .validator

/-- The names of what an event tells. -/
def fieldNames : Event → List String
  | sharedSecret _ => ["message"]
  | issued _ _ => ["message", "subject", "encrypted"]
  | validated _ => ["message", "subject"]
  | rejected _ => ["message", "kind", "error"]

def message : Event → String
  | sharedSecret _ => "Using the same secret for signing and encryption; consider distinct secrets"
  | issued _ _ => "generated token"
  | validated _ => "validated token"
  | rejected _ => "rejected token"

end Event

end IdentityToken
