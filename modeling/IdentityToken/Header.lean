import IdentityToken.Base64Url
import IdentityToken.Token.Error
/-!
# Protected headers

The first segment of a token is its header: a record of JSON that names the algorithms, written in
base64url.
-/

namespace IdentityToken

structure Header where
  alg : String
  enc : Option String := none
  cty : Option String := none
  typ : Option String := none
deriving DecidableEq

namespace Header

def hs256 : String := "HS256"

def unsecured : String := "none"

def direct : String := "dir"

def a256gcm : String := "A256GCM"

def nestedToken : String := "JWT"

def signed (alg : String) : Header := { alg }

/-- The header of an encrypted token around another token. -/
def encrypted (alg enc : String) : Header := { alg, enc := some enc, cty := some nestedToken }

def names : List String := ["alg", "enc", "cty", "typ"]

/-- A header as a tree of JSON; absent fields are left out. -/
def toRaw (h : Header) : Json.Raw :=
  let field (name : String) (value : Option String) :=
    value.toList.map fun s => (name, Json.Raw.string s)
  .object (("alg", .string h.alg) :: field "enc" h.enc ++ field "cty" h.cty ++ field "typ" h.typ)

def toJson (h : Header) : String := String.ofList (h.toRaw.render .compact 0)

def encode (h : Header) : String := Base64Url.encode (Text.utf8 h.toJson)

/-- Reads the field of a name: a text, or for the optional ones also null. -/
def scanField (name : String) : Json.Scan (Option String) := fun b =>
  let b := Json.Scan.skipBlanks b
  match if name = "alg" then none else Json.Scan.word ['n', 'u', 'l', 'l'] b with
  | some rest => some (none, rest)
  | none => (Json.Scan.string b).map fun (s, rest) => (some s, rest)

/-- The header that fields give; null stands for absence. -/
def ofFields? (found : List (String × Option String)) : Option Header := do
  let alg ← (← Fields.unique? "alg" found).join
  let enc ← Fields.unique? "enc" found
  let cty ← Fields.unique? "cty" found
  let typ ← Fields.unique? "typ" found
  some ⟨alg, enc.join, cty.join, typ.join⟩

def ofJson? (b : Bytes) : Option Header := (Json.fields? names scanField b).bind ofFields?

/-- The header that the first segment of a token holds. -/
def decode (segment : String) : Except FormatError Header :=
  match Base64Url.decode? segment with
  | none => .error (.headerNotBase64 segment)
  | some b =>
    match ofJson? b with
    | none => .error (.headerNotRecord b)
    | some h => .ok h

end Header

end IdentityToken
