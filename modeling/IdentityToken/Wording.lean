import IdentityToken.Text.Utf8
/-!
# Wordings

What is no base64url, no JSON or no YAML is refused by whoever reads it, and an error quotes what
the reader says of it. A `Wording` gives these words for each refused text, so what is said of all
wordings is said of the words of every reader.
-/

namespace IdentityToken

/-- The words for what is refused: a segment, the octets of a header, of claims and of a record, and
the text of a configuration. -/
structure Wording where
  segment : String → String := fun _ => "other letters or another length"
  header : Bytes → String := fun _ => "no header in JSON"
  claims : Bytes → String := fun _ => "no value in JSON"
  record : Bytes → String := fun _ => "not a record in JSON"
  configuration : String → String := fun _ => "no configuration"

end IdentityToken
