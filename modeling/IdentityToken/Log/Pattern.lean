import IdentityToken.Text.Alphanumeric
import IdentityToken.Text.Blank
/-!
# Patterns for values

A directive of a filter may ask for the value of a field by a pattern. `isPattern` says which texts
are patterns. Comparisons without regard to case and classes of characters by their properties are
known for ASCII only, which the flag `u` with a minus sign asks for. A count in braces cannot occur,
because a directive ends a pattern at the first closing brace.
-/

namespace IdentityToken.Log

namespace Pattern

/-- What holds for the pattern from a place on: whether case is ignored, whether characters are
those of Unicode and else octets of ASCII, and whether white space and comments are passed over. -/
structure Flags where
  ignoresCase : Bool := false
  isUnicode : Bool := true
  isSpaced : Bool := false

/-- The rest of a pattern, and the names of its groups so far. -/
structure Place where
  rest : List Char
  names : List String := []

def skip (f : Flags) : Nat → List Char → List Char
  | 0, cs => cs
  | fuel + 1, cs =>
    if !f.isSpaced then cs
    else
      match cs.dropWhile Text.isSpace with
      | '#' :: cs => skip f fuel (cs.dropWhile (· != '\n'))
      | cs => cs

def next (f : Flags) (cs : List Char) : List Char := skip f (cs.length + 1) cs

/-! ## Escapes -/

/-- What an escape stands for. -/
inductive Escape where
  | literal (code : Nat) (isOctet : Bool)
  | oneOf (negated : Bool)
  | edge
  | wordEdge

def hexValue? (c : Char) : Option Nat :=
  if '0' ≤ c ∧ c ≤ '9' then some (c.toNat - 0x30)
  else if 'a' ≤ c ∧ c ≤ 'f' then some (c.toNat - 0x57)
  else if 'A' ≤ c ∧ c ≤ 'F' then some (c.toNat - 0x37)
  else none

def hexNumber (f : Flags) : Nat → Nat → List Char → Option (Nat × List Char)
  | 0, n, cs => some (n, cs)
  | count + 1, n, cs =>
    match next f cs with
    | [] => none
    | c :: cs => do hexNumber f count (16 * n + (← hexValue? c)) cs

/-- An escape after its mark. Letters and digits without a meaning are refused. -/
def escape (f : Flags) : List Char → Option (Escape × List Char)
  | [] => none
  | c :: cs =>
    let coded (count : Nat) : Option (Escape × List Char) := do
      let (n, cs) ← hexNumber f count 0 cs
      if 0xD800 ≤ n ∧ n ≤ 0xDFFF ∨ 0x10FFFF < n then none else some (.literal n (count = 2), cs)
    if c = 'x' then coded 2
    else if c = 'u' then coded 4
    else if c = 'U' then coded 8
    else if c ∈ ['d', 's', 'w'] then some (.oneOf false, cs)
    else if c ∈ ['D', 'S', 'W'] then some (.oneOf true, cs)
    else if c ∈ ['A', 'z'] then some (.edge, cs)
    else if c ∈ ['b', 'B', '<', '>'] then some (.wordEdge, cs)
    else if c ∈ ['a', 'f', 't', 'n', 'r', 'v'] then some (.literal 0x0A false, cs)
    else if c.toNat < 0x80 ∧ !c.isAlphanum then some (.literal c.toNat false, cs)
    else none

/-! ## Classes in brackets -/

def classNames : List String :=
  ["alnum", "alpha", "ascii", "blank", "cntrl", "digit", "graph", "lower", "print", "punct",
    "space", "upper", "word", "xdigit"]

/-- Whether a named class, whose opening bracket stands in front, is negated, and the rest after
it. -/
def namedClass? : List Char → Option (Bool × List Char)
  | ':' :: cs =>
    let (negated, cs) := match cs with
      | '^' :: cs => (true, cs)
      | cs => (false, cs)
    let name := String.ofList (cs.takeWhile (· != ':'))
    match cs.dropWhile (· != ':') with
    | ':' :: ']' :: rest => if name ∈ classNames then some (negated, rest) else none
    | _ => none
  | _ => none

/-- One item of a class: the number of a character, or none for a class. -/
def classItem (f : Flags) : List Char → Option (Option Nat × List Char)
  | [] => none
  | '\\' :: cs => do
    let (e, cs) ← escape f cs
    match e with
    | .literal n _ => some (some n, cs)
    | .oneOf negated => if f.isUnicode || negated then none else some (none, cs)
    | _ => none
  | c :: cs => some (some c.toNat, cs)

def classRange (f : Flags) (cs : List Char) : Option (List Char) := do
  let (first, cs) ← classItem f cs
  let cs := next f cs
  let isOpen := f.isUnicode || first.all (· < 0x80)
  match cs with
  | [] => none
  | '-' :: more =>
    match next f more with
    | [] => none
    | ']' :: _ => if isOpen then some cs else none
    | '-' :: _ => if isOpen then some cs else none
    | more => do
      let (last, cs) ← classItem f more
      let first ← first
      let last ← last
      if first ≤ last ∧ (f.isUnicode ∨ last < 0x80) then some cs else none
  | cs => if isOpen then some cs else none

/-- The rest after hyphens at the start of a class, and whether there are any. -/
def hyphens (f : Flags) : Nat → Bool → List Char → Bool × List Char
  | 0, found, cs => (found, cs)
  | fuel + 1, found, cs =>
    match cs with
    | '-' :: cs => hyphens f fuel true (next f cs)
    | cs => (found, cs)

/-- The characters of a class after what may stand only at its start; none if they are not ASCII. -/
def classStart (f : Flags) (cs : List Char) : Option (List Char) :=
  let cs := next f cs
  let (negated, cs) := match cs with
    | '^' :: cs => (true, next f cs)
    | cs => (false, cs)
  let (found, cs) := hyphens f cs.length false cs
  if f.ignoresCase && f.isUnicode || negated && !f.isUnicode then none
  else
    match found, cs with
    | false, ']' :: cs => some cs
    | _, cs => some cs

def classItems (f : Flags) : Nat → List Char → Option (List Char)
  | 0, _ => none
  | fuel + 1, cs =>
    match next f cs with
    | [] => none
    | ']' :: cs => some cs
    | '&' :: '&' :: cs => classItems f fuel cs
    | '-' :: '-' :: cs => classItems f fuel cs
    | '~' :: '~' :: cs => classItems f fuel cs
    | '[' :: cs =>
      match namedClass? cs with
      | some (negated, cs) => if negated && !f.isUnicode then none else classItems f fuel cs
      | none => do classItems f fuel (← classItems f fuel (← classStart f cs))
    | cs => do classItems f fuel (← classRange f cs)

/-! ## Groups -/

/-- The flags after changes that are spelled by letters, which a minus sign turns off. -/
def changeFlags (f : Flags) (off : Bool) (seen : List Char) :
    List Char → Option (Flags × List Char)
  | [] => none
  | c :: cs =>
    if c = ':' ∨ c = ')' then if seen.head? = some '-' then none else some (f, c :: cs)
    else if c ∈ seen then none
    else if c = '-' then changeFlags f true (c :: seen) cs
    else if c = 'i' then changeFlags { f with ignoresCase := !off } off (c :: seen) cs
    else if c = 'u' then changeFlags { f with isUnicode := !off } off (c :: seen) cs
    else if c = 'x' then changeFlags { f with isSpaced := !off } off (c :: seen) cs
    else if c ∈ ['m', 's', 'U', 'R'] then changeFlags f off (c :: seen) cs
    else none

def groupName (p : Place) : Option Place :=
  let name := p.rest.takeWhile (· != '>')
  let isNamed : Bool := match name with
    | [] => false
    | c :: cs => (c == '_' || Text.isAlphabetic c) &&
      cs.all fun c => c ∈ ['_', '.', '[', ']'] || Text.isAlphanumeric c
  match p.rest.dropWhile (· != '>') with
  | '>' :: rest =>
    let name := String.ofList name
    if isNamed ∧ name ∉ p.names then some ⟨rest, name :: p.names⟩ else none
  | _ => none

/-- The place after the opening of a group, with the flags in it; the group is already over if it
only changes the flags, which then hold after it. -/
def openGroup (f : Flags) (p : Place) : Option (Flags × Bool × Place) :=
  match next f p.rest with
  | '?' :: 'P' :: '<' :: cs => do some (f, true, ← groupName { p with rest := cs })
  | '?' :: '<' :: cs => do
    if cs.head? = some '=' ∨ cs.head? = some '!' then none
    else some (f, true, ← groupName { p with rest := cs })
  | '?' :: ')' :: _ => none
  | '?' :: cs => do
    let (g, cs) ← changeFlags f false [] cs
    match cs with
    | ':' :: cs => some (g, true, { p with rest := cs })
    | _ :: cs => some (g, false, { p with rest := cs })
    | [] => none
  | cs => some (f, true, { p with rest := cs })

/-- The place after a sequence of alternatives: at the end or before a closing mark. An operator of
repetition needs something before it. -/
def sequence : Nat → Flags → Bool → Place → Option Place
  | 0, _, _, _ => none
  | fuel + 1, f, operand, p =>
    match next f p.rest with
    | [] => some { p with rest := [] }
    | c :: cs =>
      let go (cs : List Char) := sequence fuel f true { p with rest := cs }
      if c = ')' then some { p with rest := c :: cs }
      else if c = '|' then sequence fuel f false { p with rest := cs }
      else if c = '?' ∨ c = '*' ∨ c = '+' then
        if operand then go (if cs.head? = some '?' then cs.drop 1 else cs) else none
      else if c = '\x7b' then none
      else if c = '(' then do
        let (g, isOpen, q) ← openGroup f { p with rest := cs }
        if isOpen then
          let q ← sequence fuel g false q
          match q.rest with
          | ')' :: rest => sequence fuel f true { q with rest }
          | _ => none
        else sequence fuel g false q
      else if c = '[' then do go (← classItems f (cs.length + 1) (← classStart f cs))
      else if c = '.' then if f.isUnicode then go cs else none
      else if c = '^' ∨ c = '$' then go cs
      else if c = '\\' then do
        let (e, cs) ← escape f cs
        match e with
        | .literal n isOctet =>
          let isRefused := if f.isUnicode then f.ignoresCase else isOctet && 0x80 ≤ n
          if isRefused then none else go cs
        | .oneOf negated => if f.isUnicode || negated then none else go cs
        | .edge => go cs
        | .wordEdge => if f.isUnicode then none else go cs
      else if f.ignoresCase && f.isUnicode then none
      else go cs

end Pattern

def isPattern (s : String) : Bool :=
  (Pattern.sequence (s.toList.length + 1) {} false { rest := s.toList }).any (·.rest.isEmpty)

example : isPattern "a|(b+?)[^]c-e]\\." ∧ !isPattern "*" ∧ !isPattern "(" ∧ !isPattern ")" := by
  decide +kernel
example : isPattern "[[:^alpha:]]" ∧ !isPattern "(?-u)[[:^alpha:]]" := by decide +kernel
example : isPattern "(?i-u)x" ∧ !isPattern "(?i)x" ∧ !isPattern "[z-a]" ∧ !isPattern "\\d" := by
  decide +kernel

end IdentityToken.Log
