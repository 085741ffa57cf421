import IdentityToken.Json.Fields
import IdentityToken.Json.Render
import IdentityToken.Text.Blank
import IdentityToken.Text.Split
import IdentityToken.Wording
/-!
# Identity records

A record is an authenticated subject: a typed id of the form `kind#id`, and attributes. Tokens carry
the attributes beside claims of their own, so the names of those claims are reserved. A typed id is
never blank and a key is always allowed: both are part of the type.
-/

namespace IdentityToken

inductive RecordError where
  | blankId
  | blankKind
  | blankKey
  | reservedKey (key : String)
deriving DecidableEq

namespace RecordError

def message : RecordError → String
  | blankId => "typed id must not be blank"
  | blankKind => "identity kind must not be blank"
  | blankKey => "attribute key must not be blank"
  | reservedKey key => "attribute key '" ++ key ++ "' is reserved"

end RecordError

def reservedKeys : List String := ["sub", "iat", "iss"]

def AllowedKey (key : String) : Prop := ¬Text.Blank key ∧ key ∉ reservedKeys

instance (key : String) : Decidable (AllowedKey key) := inferInstanceAs (Decidable (_ ∧ _))

/-- What is wrong with a key, if anything. -/
def RecordError.ofKey? (key : String) : Option RecordError :=
  if Text.Blank key then some .blankKey
  else if key ∈ reservedKeys then some (.reservedKey key)
  else none

theorem RecordError.ofKey?_eq_none_iff {key : String} : ofKey? key = none ↔ AllowedKey key := by
  unfold ofKey? AllowedKey
  split
  · simp_all
  · split <;> simp_all

/-- An authenticated subject with attributes. Its typed id is a kind and an id with `#` between
them, or an id alone. -/
structure Identity where
  typedId : String
  attributes : Members
  typedId_not_blank : ¬Text.Blank typedId
  allowed : ∀ m ∈ attributes.toList, AllowedKey m.1

namespace Identity

def separator : Char := '#'

def typed (kind id : String) : String := kind ++ separator.toString ++ id

def ofTypedId (typedId : String) : Except RecordError Identity :=
  if h : Text.Blank typedId then .error .blankId
  else .ok ⟨typedId, ∅, h, nofun⟩

def ofKind (kind id : String) : Except RecordError Identity :=
  if Text.Blank kind then .error .blankKind
  else if Text.Blank id then .error .blankId
  else ofTypedId (typed kind id)

/-- A record with the given attributes. Of several keys that are not allowed the first is
reported. -/
def ofParts (typedId : String) (attributes : Members) : Except RecordError Identity :=
  if h : Text.Blank typedId then .error .blankId
  else
    match h' : attributes.toList.findSome? (fun m => RecordError.ofKey? m.1) with
    | some e => .error e
    | none => .ok ⟨typedId, attributes, h, fun m hm => by
        have hk : RecordError.ofKey? m.1 = none := List.findSome?_eq_none_iff.1 h' m hm
        exact RecordError.ofKey?_eq_none_iff.1 hk⟩

/-- The text before the first separator. -/
def kind? (r : Identity) : Option String := (Text.splitFirst? separator r.typedId).map (·.1)

/-- The text after the first separator, or the whole typed id. -/
def id (r : Identity) : String := ((Text.splitFirst? separator r.typedId).map (·.2)).getD r.typedId

def get? (r : Identity) (key : String) : Option Json := r.attributes.get? key

def set (r : Identity) (key : String) (value : Json) : Except RecordError Identity :=
  match h : RecordError.ofKey? key with
  | some e => .error e
  | none => .ok { r with
      attributes := r.attributes.insert key value
      allowed := fun m hm => by
        rcases StringMap.mem_insertList hm with rfl | hm
        · exact RecordError.ofKey?_eq_none_iff.1 h
        · exact r.allowed m hm }

def erase (r : Identity) (key : String) : Identity :=
  { r with
    attributes := r.attributes.erase key
    allowed := fun m hm => r.allowed m ((List.mem_filter.1 hm).1) }

/-! ## Records as JSON -/

def typedIdField : String := "typed_id"

def attributesField : String := "attributes"

/-- A record as a tree of JSON: the typed id, then the attributes. -/
def toRaw (r : Identity) : Json.Raw :=
  .object [(typedIdField, .string r.typedId), (attributesField, (Json.object r.attributes).raw)]

def render (l : Json.Layout) (r : Identity) : String := String.ofList (r.toRaw.render l 0)

inductive Part where
  | typedId (s : String)
  | attributes (m : Members)

/-- Reads the field of a name. The attributes stand inside the record, which takes one level of
depth. -/
def Part.scan (name : String) : Json.Scan Part := fun b =>
  if name = typedIdField then
    (Json.Scan.string (Json.Scan.skipBlanks b)).map fun (s, rest) => (.typedId s, rest)
  else do
    let (x, rest) ← Json.Scan.value (Json.maxDepth - 1) b
    let m ← x.members?
    some (.attributes m, rest)

/-- Why octets are no record: they are not JSON of the form of a record, or what they denote is not
allowed. -/
inductive ReadError where
  | malformed {b : Bytes}
  | record (cause : RecordError)
deriving DecidableEq

def ReadError.message (e : ReadError) (words : Wording := {}) : String :=
  match e with
  | @malformed b => words.record b
  | record cause => cause.message

/-- The parts that fields give; attributes may be left out. -/
def parts? (found : List (String × Part)) : Option (String × Members) :=
  match Fields.unique? typedIdField found, Fields.unique? attributesField found with
  | some (some (.typedId s)), some (some (.attributes m)) => some (s, m)
  | some (some (.typedId s)), some none => some (s, ∅)
  | _, _ => none

/-- The record that a text in JSON denotes. It is checked before what follows it in the text, of
which there may be blanks only. -/
def ofJson (b : Bytes) : Except ReadError Identity :=
  match Json.Scan.fields [typedIdField, attributesField] Part.scan b with
  | none => .error (.malformed (b := b))
  | some (found, rest) =>
    match parts? found with
    | none => .error (.malformed (b := b))
    | some (typedId, attributes) =>
      match ofParts typedId attributes with
      | .error e => .error (.record e)
      | .ok r =>
        if Json.Scan.skipBlanks rest = [] then .ok r else .error (.malformed (b := b))

end Identity

end IdentityToken
