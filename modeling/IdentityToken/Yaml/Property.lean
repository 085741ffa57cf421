import IdentityToken.Text.Utf8
import IdentityToken.Yaml.Scalar
/-!
# Anchors, tags and directives of YAML

The names that stand in front of a node, and the directives in front of a document.
-/

namespace IdentityToken.Yaml

def isName (c : Char) : Bool := c.isAlphanum || c == '_' || c == '-'

def anchorName (c : Cursor) : Option (String × Cursor) :=
  let (name, c) := c.span isName
  if name.isEmpty then none
  else if c.isGapAt 0 || (c.peek? 0).any (· ∈ ['?', ':', ',', ']', '\x7d', '%', '@', '\x60']) then
    some (String.ofList name, c)
  else none

/-- A tag: a handle, which stands for an address, and the octets that follow it. -/
structure Tag where
  handle : String
  rest : Bytes
deriving DecidableEq

/-- Whether a character can occur in an address; in a verbatim tag there are a few more. -/
def isAddress (verbatim : Bool) (c : Char) : Bool :=
  isName c ||
    c ∈ [';', '/', '?', ':', '@', '&', '=', '+', '$', '.', '!', '~', '*', '\'', '(', ')', '%']
    || verbatim && c ∈ [',', '[', ']']

/-- The octet that an escape spells, a percent sign and two hexadecimal digits. -/
def escapedOctet? : List Char → Option (UInt8 × List Char)
  | '%' :: a :: b :: rest => do some (UInt8.ofNat (16 * (← hexValue? a) + (← hexValue? b)), rest)
  | _ => none

/-- How many octets follow the first octet of a character. -/
def followers? (first : UInt8) : Option Nat :=
  if first &&& 0x80 = 0x00 then some 0
  else if first &&& 0xE0 = 0xC0 then some 1
  else if first &&& 0xF0 = 0xE0 then some 2
  else if first &&& 0xF8 = 0xF0 then some 3
  else none

def escapedFollowers : Nat → List Char → Option (Bytes × List Char)
  | 0, cs => some ([], cs)
  | n + 1, cs => do
    let (o, cs) ← escapedOctet? cs
    if o &&& 0xC0 ≠ 0x80 then none
    else
      let (os, cs) ← escapedFollowers n cs
      some (o :: os, cs)

/-- The octets of an escaped character. Only their lengths and first bits have to fit. -/
def escapedCharacter (cs : List Char) : Option (Bytes × List Char) := do
  let (o, cs) ← escapedOctet? cs
  let (os, cs) ← escapedFollowers (← followers? o) cs
  some (o :: os, cs)

def addressOctets (verbatim : Bool) : Nat → List Char → Option (Bytes × List Char)
  | 0, _ => none
  | _ + 1, [] => some ([], [])
  | fuel + 1, c :: rest =>
    if !isAddress verbatim c then some ([], c :: rest)
    else if c == '%' then do
      let (os, rest) ← escapedCharacter (c :: rest)
      let (tail, rest) ← addressOctets verbatim fuel rest
      some (os ++ tail, rest)
    else do
      let (tail, rest) ← addressOctets verbatim fuel rest
      some (UInt8.ofNat c.toNat :: tail, rest)

/-- An address from a place on, with its length before it is cut at an octet zero. -/
def address (verbatim : Bool) (c : Cursor) : Option (Bytes × Nat × Cursor) := do
  let (found, rest) ← addressOctets verbatim (c.rest.length + 1) c.rest
  some (found.takeWhile (· != 0), found.length, c.skip (c.rest.length - rest.length))

/-- A handle: an exclamation mark, perhaps with a name and another mark. -/
def handle (c : Cursor) : Option (List Char × Cursor) :=
  if !c.isAt 0 '!' then none
  else
    let (name, c) := (c.skip 1).span isName
    if c.isAt 0 '!' then some ('!' :: name ++ ['!'], c.skip 1) else some ('!' :: name, c)

def tag (inFlow : Bool) (c : Cursor) : Option (Tag × Cursor) := do
  let (found, c) : Tag × Cursor ←
    if c.isAt 1 '<' then do
      let (rest, length, c) ← address true (c.skip 2)
      if length = 0 || !c.isAt 0 '>' then none else some (⟨"", rest⟩, c.skip 1)
    else do
      let (h, c) ← handle c
      let (rest, length, c) ← address false c
      if 2 ≤ h.length ∧ h.getLast? = some '!' then
        if length = 0 then none else some (⟨String.ofList h, rest⟩, c)
      else
        let rest := Text.utf8 (String.ofList (h.drop 1)) ++ rest
        if rest.isEmpty then some (⟨"", Text.utf8 "!"⟩, c) else some (⟨"!", rest⟩, c)
  if c.isGapAt 0 || inFlow && c.isAt 0 ',' then some (found, c) else none

inductive Directive where
  | version (major minor : Nat)
  | handle (name : String) (address : Bytes)

/-- A number of at most nine digits. -/
def number (c : Cursor) : Option (Nat × Cursor) :=
  let (ds, c) := c.span Char.isDigit
  if ds.isEmpty ∨ 9 < ds.length then none
  else some (ds.foldl (fun n d => 10 * n + (d.toNat - 0x30)) 0, c)

def directive (c : Cursor) : Option (Directive × Cursor) := do
  let (name, c) := c.span isName
  if !c.isGapAt 0 then none
  else
    let (found, c) : Directive × Cursor ←
      match String.ofList name with
      | "YAML" => do
        let (major, c) ← number (c.skipWhile isBlank)
        if !c.isAt 0 '.' then none
        else
          let (minor, c) ← number (c.skip 1)
          some (.version major minor, c)
      | "TAG" => do
        let (h, c) ← handle (c.skipWhile isBlank)
        if h.length ≠ 1 ∧ h.getLast? ≠ some '!' ∨ !(c.peek? 0).any isBlank then none
        else
          let (found, length, c) ← address true (c.skipWhile isBlank)
          if length = 0 || !c.isGapAt 0 then none
          else some (.handle (String.ofList h) found, c)
      | _ => none
    let c := (c.skipWhile isBlank).skipComment
    if !c.isLineEnd then none
    else some (found, if c.rest.isEmpty then c else c.skipBreak)

end IdentityToken.Yaml
