import IdentityToken.Json.Number
import IdentityToken.Text.Utf8
/-!
# Scanning JSON

A scanner takes something off the front of a sequence of octets and gives what it found and the
rest. Here are the scanners of the marks, words, strings and numbers of JSON, and of lists between
brackets. What a string contains is first split into `Piece`s, so that strings whose value does not
matter are scanned in the same way.
-/

namespace IdentityToken.Json

/-- Takes something off the front of a sequence of octets, or fails. -/
abbrev Scan (α : Type) := Bytes → Option (α × Bytes)

namespace Scan

def ascii (c : Char) : UInt8 := c.toNat.toUInt8

def isBlank (b : UInt8) : Bool := b == 0x20 || b == 0x09 || b == 0x0A || b == 0x0D

def skipBlanks (b : Bytes) : Bytes := b.dropWhile isBlank

def eat (c : Char) : Bytes → Option Bytes
  | [] => none
  | b :: rest => if b = ascii c then some rest else none

def word : List Char → Bytes → Option Bytes
  | [], b => some b
  | c :: cs, b => (eat c b).bind (word cs)

/-! ## Strings -/

/-- What a string consists of: octets that stand for themselves, and 16-bit units given in
hexadecimal. -/
inductive Piece where
  | octet (b : UInt8)
  | unit (n : Nat)

def hexValue? (b : UInt8) : Option Nat :=
  if ascii '0' ≤ b ∧ b ≤ ascii '9' then some (b.toNat - 0x30)
  else if ascii 'a' ≤ b ∧ b ≤ ascii 'f' then some (b.toNat - 0x57)
  else if ascii 'A' ≤ b ∧ b ≤ ascii 'F' then some (b.toNat - 0x37)
  else none

def unit? (a b c d : UInt8) : Option Nat := do
  some (((← hexValue? a) * 16 + (← hexValue? b)) * 256 + ((← hexValue? c) * 16 + (← hexValue? d)))

/-- The octet that a letter or mark denotes after a reverse solidus. -/
def escaped? (b : UInt8) : Option UInt8 :=
  if b = ascii '"' ∨ b = ascii '\\' ∨ b = ascii '/' then some b
  else if b = ascii 'b' then some 0x08
  else if b = ascii 't' then some 0x09
  else if b = ascii 'n' then some 0x0A
  else if b = ascii 'f' then some 0x0C
  else if b = ascii 'r' then some 0x0D
  else none

/-- The pieces up to the closing quotation mark. Control characters have to be escaped. -/
def pieces : Scan (List Piece)
  | [] => none
  | b :: rest =>
    if b = ascii '"' then some ([], rest)
    else if b = ascii '\\' then
      match rest with
      | [] => none
      | e :: rest =>
        if e = ascii 'u' then
          match rest with
          | d₁ :: d₂ :: d₃ :: d₄ :: rest => do
            let n ← unit? d₁ d₂ d₃ d₄
            let (ps, rest) ← pieces rest
            some (.unit n :: ps, rest)
          | _ => none
        else do
          let o ← escaped? e
          let (ps, rest) ← pieces rest
          some (.octet o :: ps, rest)
    else if b < 0x20 then none
    else do
      let (ps, rest) ← pieces rest
      some (.octet b :: ps, rest)

/-- Whether a unit is the first half of a pair. -/
def isHigh (n : Nat) : Bool := 0xD800 ≤ n && n < 0xDC00

def isLow (n : Nat) : Bool := 0xDC00 ≤ n && n < 0xE000

def octets (n : Nat) : Bytes := Text.utf8 (String.singleton (Char.ofNat n))

/-- The octets that the pieces denote; halves of pairs have to stand together. -/
def join : List Piece → Option Bytes
  | [] => some []
  | .octet b :: ps => (join ps).map (b :: ·)
  | .unit n :: ps =>
    if isHigh n then
      match ps with
      | .unit m :: ps =>
        if isLow m then (join ps).map (octets (0x10000 + (n - 0xD800) * 0x400 + (m - 0xDC00)) ++ ·)
        else none
      | _ => none
    else if isLow n then none
    else (join ps).map (octets n ++ ·)

/-- A string between quotation marks; its octets have to be UTF-8. -/
def string : Scan String := fun b => do
  let (ps, rest) ← pieces (← eat '"' b)
  let s ← Text.ofUtf8? (← join ps)
  some (s, rest)

/-- A string whose value does not matter: only the escapes are checked. -/
def anyString : Scan Unit := fun b => do
  let (_, rest) ← pieces (← eat '"' b)
  some ((), rest)

/-! ## Numbers -/

def isDigit (b : UInt8) : Bool := ascii '0' ≤ b && b ≤ ascii '9'

def digits (b : Bytes) : List Nat × Bytes :=
  ((b.takeWhile isDigit).map fun d => d.toNat - 0x30, b.dropWhile isDigit)

/-- The digits at the front, at least one. -/
def digits₁ : Scan (List Nat) := fun b =>
  match digits b with
  | ([], _) => none
  | found => some found

/-- The digits before the point: one zero, or digits that do not start with zero. -/
def whole : Scan (List Nat) := fun b => do
  let (ds, rest) ← digits₁ b
  if ds.head? = some 0 ∧ ds ≠ [0] then none else some (ds, rest)

def fraction : Scan (Option (List Nat)) := fun b =>
  match eat '.' b with
  | none => some (none, b)
  | some rest => (digits₁ rest).map fun (ds, rest) => (some ds, rest)

def exponent : Scan (Option Int) := fun b =>
  match (eat 'e' b).or (eat 'E' b) with
  | none => some (none, b)
  | some rest => do
    let (negative, rest) :=
      match eat '-' rest with
      | some rest => (true, rest)
      | none => (false, (eat '+' rest).getD rest)
    let (ds, rest) ← digits₁ rest
    let n : Int := Literal.naturalOf ds
    some (some (if negative then -n else n), rest)

def literal : Scan Literal := fun b => do
  let (negative, b) :=
    match eat '-' b with
    | some rest => (true, rest)
    | none => (false, b)
  let (ds, b) ← whole b
  let (fs, b) ← fraction b
  let (e, b) ← exponent b
  some (⟨negative, ds, fs, e⟩, b)

def number : Scan Number := fun b => do
  let (l, rest) ← literal b
  let n ← l.number?
  some (n, rest)

/-! ## Lists between brackets -/

/-- The items after the first up to the closing mark, each after a comma. The first number bounds
how many there are, and the scanner of an item is told how many stand before it. -/
def more {α : Type} (close : Char) (item : Nat → Scan α) : Nat → Nat → Scan (List α)
  | 0, _ => fun _ => none
  | fuel + 1, index => fun b =>
    match eat close (skipBlanks b) with
    | some rest => some ([], rest)
    | none => do
      let rest ← eat ',' (skipBlanks b)
      let (x, rest) ← item index rest
      let (xs, rest) ← more close item fuel (index + 1) rest
      some (x :: xs, rest)

/-- The items between brackets, separated by commas. The scanner of an item is told its index. -/
def items {α : Type} (opening close : Char) (item : Nat → Scan α) : Scan (List α) := fun b => do
  let rest ← eat opening b
  match eat close (skipBlanks rest) with
  | some rest => some ([], rest)
  | none => do
    let (x, rest) ← item 0 rest
    let (xs, rest) ← more close item rest.length 1 rest
    some (x :: xs, rest)

/-- One member of an object: a name of the given kind, and a value that is scanned as the name
says. -/
def member {α κ : Type} (name : Scan κ) (value : κ → Scan α) : Scan (κ × α) := fun b => do
  let (k, rest) ← name (skipBlanks b)
  let rest ← eat ':' (skipBlanks rest)
  let (x, rest) ← value k rest
  some ((k, x), rest)

def members {α : Type} (value : String → Scan α) : Scan (List (String × α)) :=
  items '{' '}' fun _ => member string value

/-- What a scanner finds, if only blanks are left. -/
def complete {α : Type} (scan : Scan α) (b : Bytes) : Option α := do
  let (x, rest) ← scan b
  if skipBlanks rest = [] then some x else none

end Scan

end IdentityToken.Json
