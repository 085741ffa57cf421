import IdentityToken.Instant
import IdentityToken.Token.Error
/-!
# Claims

The claims of a token are a subject, perhaps the time of issue and the issuer, and others. The three
registered names never occur among the others. A claim set and its JSON determine each other, and an
identity record is rebuilt from the subject and the other claims.
-/

namespace IdentityToken

/-- The claims of a token; `extra` are those of other names. -/
structure ClaimSet where
  subject : String
  issuedAt : Option Instant
  issuer : Option String
  extra : Members
  unregistered : ∀ m ∈ extra.toList, m.1 ∉ reservedKeys

namespace ClaimSet

def subjectName : String := "sub"

def issuedAtName : String := "iat"

def issuerName : String := "iss"

/-- The claims that a token of a record carries. -/
def forIdentity (r : Identity) (issuer : String) (at_ : Instant) : ClaimSet where
  subject := r.typedId
  issuedAt := some at_
  issuer := some issuer
  extra := r.attributes
  unregistered := fun m hm => (r.allowed m hm).2

/-- An instant as a number: its whole seconds. -/
def numericDate (t : Instant) : Json :=
  .number (.int t.seconds (by have := t.inRange; omega))

/-- The instant of a number, which is rounded down to whole seconds. -/
def ofNumericDate? (n : Json.Number) : Option Instant :=
  match n with
  | .int seconds _ => Instant.ofSeconds? seconds
  | .float x => Instant.ofSeconds? x.floor

def claim? (c : ClaimSet) (name : String) : Option Json :=
  if name = subjectName then some (.string c.subject)
  else if name = issuedAtName then c.issuedAt.map numericDate
  else if name = issuerName then c.issuer.map .string
  else c.extra.get? name

/-- The map with a value for a name, if there is one. -/
def insertSome (m : Members) (name : String) : Option Json → Members
  | none => m
  | some x => m.insert name x

def registered (c : ClaimSet) : Members :=
  insertSome (insertSome ((∅ : Members).insert subjectName (.string c.subject)) issuedAtName
    (c.issuedAt.map numericDate)) issuerName (c.issuer.map .string)

/-- All claims by name: first the registered ones, then the others over them. -/
def toMembers (c : ClaimSet) : Members := c.registered.insertAll c.extra

def toJson (c : ClaimSet) : Json := .object c.toMembers

/-- The octets that a token carries for the claims. -/
def payload (c : ClaimSet) : Bytes := Text.utf8 c.toJson.compact

def subjectOf (m : Members) : Except FormatError String :=
  match m.get? subjectName with
  | none => .error .subjectMissing
  | some x =>
    match x.string? with
    | none => .error .subjectNotText
    | some s => .ok s

def issuedAtOf (m : Members) : Except FormatError (Option Instant) :=
  match m.get? issuedAtName with
  | none => .ok none
  | some x =>
    match x.number? with
    | none => .error .issuedAtNotNumber
    | some n =>
      match ofNumericDate? n with
      | none => .error .issuedAtOutOfRange
      | some t => .ok (some t)

def issuerOf (m : Members) : Except FormatError (Option String) :=
  match m.get? issuerName with
  | none => .ok none
  | some x =>
    match x.string? with
    | none => .error .issuerNotText
    | some s => .ok (some s)

def extraOf (m : Members) : Members :=
  ((m.erase subjectName).erase issuedAtName).erase issuerName

theorem unregistered_extraOf (m : Members) : ∀ x ∈ (extraOf m).toList, x.1 ∉ reservedKeys := by
  intro x hx
  simp only [extraOf, StringMap.erase, List.mem_filter, decide_eq_true_eq] at hx
  simp only [reservedKeys, List.mem_cons, List.not_mem_nil, or_false, not_or]
  exact ⟨hx.1.1.2, hx.1.2, hx.2⟩

def ofMembers (m : Members) : Except FormatError ClaimSet := do
  let subject ← subjectOf m
  let issuedAt ← issuedAtOf m
  let issuer ← issuerOf m
  .ok ⟨subject, issuedAt, issuer, extraOf m, unregistered_extraOf m⟩

def ofJson (x : Json) : Except FormatError ClaimSet :=
  match x.members? with
  | none => .error .claimsNotObject
  | some m => ofMembers m

/-- The claims that a text in JSON denotes. -/
def ofPayload (b : Bytes) : Except FormatError ClaimSet :=
  match Json.ofBytes? b with
  | none => .error (.claimsNotJson b)
  | some x => ofJson x

/-- The typed id of a subject: one without a kind gets the default kind. -/
def typedId (c : ClaimSet) (defaultKind : String) : String :=
  if Identity.separator ∈ c.subject.toList then c.subject else Identity.typed defaultKind c.subject

/-- The record that claims carry. -/
def toIdentity (c : ClaimSet) (defaultKind : String) : Except FormatError Identity :=
  if Text.Blank c.subject then .error .subjectBlank
  else (Identity.ofParts (c.typedId defaultKind) c.extra).mapError .notIdentity

end ClaimSet

end IdentityToken
