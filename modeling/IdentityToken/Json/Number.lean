import IdentityToken.Numeric.Shortest
/-!
# Numbers of JSON

A number is an integer of 64 bits, signed or not, or a binary floating-point number. A `Literal` is
a number as it is spelled; `Literal.number?` says which number it denotes, and `Number.render`
spells a number again.
-/

namespace IdentityToken.Json

/-- A number: an integer that fits 64 bits with or without a sign, or a floating-point number. -/
inductive Number where
  | int (value : Int) (inRange : -0x8000000000000000 ≤ value ∧ value < 0x10000000000000000)
  | float (value : Binary64)
deriving DecidableEq

/-- A number as it is spelled. -/
structure Literal where
  negative : Bool
  whole : List Nat
  fraction : Option (List Nat)
  exponent : Option Int

namespace Literal

def naturalOf (digits : List Nat) : Nat := digits.foldl (fun n d => 10 * n + d) 0

/-- Appends digits to a significand as long as it stays below `2^64`; the second part counts those
left. -/
def appendDigits (significand : Nat) : List Nat → Nat × Nat
  | [] => (significand, 0)
  | d :: ds =>
    if 10 * significand + d < 0x10000000000000000 then appendDigits (10 * significand + d) ds
    else (significand, ds.length + 1)

/-- The number `x · 10^exponent`, rounded after each step; none if it grows beyond all finite
numbers. Powers of ten beyond `10^308` are applied in several steps. -/
def scale (x : Binary64) (exponent : Int) : Option Binary64 :=
  if exponent < -308 then
    if x.isZero then some x
    else do
      let y ← x.div (← Binary64.powTen 308)
      scale y (exponent + 308)
  else if exponent < 0 then do x.div (← Binary64.powTen (-exponent).toNat)
  else if exponent ≤ 308 then do x.mul (← Binary64.powTen exponent.toNat)
  else if x.isZero then some x
  else none
termination_by (-exponent).toNat

/-- The floating-point number of a literal: the leading digits that fit a word of 64 bits are
rounded to a binary number, which is then scaled by a power of ten. -/
def float? (l : Literal) : Option Binary64 := do
  let fraction := l.fraction.getD []
  let (significand, dropped) := appendDigits 0 l.whole
  let (significand, ignored) := appendDigits significand fraction
  let exponent : Int := l.exponent.getD 0 + dropped - (fraction.length - ignored : Nat)
  scale (← Binary64.ofRatio l.negative significand 1) exponent

/-- The integer of a literal: without point and exponent, in the range of 64 bits, and not `-0`. -/
def integer? (l : Literal) : Option Number :=
  match l.fraction, l.exponent with
  | none, none =>
    let n : Int := naturalOf l.whole
    if l.negative then
      if h : 0 < n ∧ n ≤ 0x8000000000000000 then some (.int (-n) (by omega)) else none
    else if h : n < 0x10000000000000000 then some (.int n ⟨by omega, h⟩) else none
  | _, _ => none

/-- The number that a literal denotes; none if it is beyond all finite numbers. -/
def number? (l : Literal) : Option Number :=
  match l.integer? with
  | some n => some n
  | none => l.float?.map .float

end Literal

namespace Number

def digits (n : Nat) : List Char := Nat.toDigits 10 n

def renderInt (n : Int) : List Char :=
  if n < 0 then '-' :: digits n.natAbs else digits n.natAbs

/-- The first decimal exponent that is spelled out. -/
def leastPositional : Int := -5

/-- The last decimal exponent that is spelled with zeros. -/
def greatestPositional : Int := 15

/-- A decimal: positional with at least one place when the exponent of its leading digit is small,
and else one digit, a point, the others, and the exponent with its sign. -/
def renderDecimal (d : Decimal) : List Char :=
  let ds := digits d.digits
  let count : Int := ds.length
  let top := count - 1 + d.exponent
  if leastPositional ≤ top ∧ top ≤ greatestPositional then
    if 0 ≤ d.exponent then ds ++ List.replicate d.exponent.toNat '0' ++ ['.', '0']
    else if 0 ≤ top then
      ds.take (top + 1).toNat ++ '.' :: ds.drop (top + 1).toNat
    else '0' :: '.' :: List.replicate (-top - 1).toNat '0' ++ ds
  else
    let sign := if top < 0 then '-' else '+'
    let tail := 'e' :: sign :: digits top.natAbs
    match ds with
    | [d] => d :: tail
    | d :: ds => d :: '.' :: ds ++ tail
    | [] => tail

/-- A number as text: integers in decimal, floating-point numbers by their shortest decimal. -/
def render : Number → List Char
  | .int n _ => renderInt n
  | .float x => if x.negative then '-' :: renderDecimal x.shortest else renderDecimal x.shortest

end Number

example : Number.renderDecimal ⟨1, -5⟩ = "0.00001".toList := by decide
example : Number.renderDecimal ⟨1, -6⟩ = "1e-6".toList := by decide
example : Number.renderDecimal ⟨1, 15⟩ = "1000000000000000.0".toList := by decide
example : Number.renderDecimal ⟨15, 299⟩ = "1.5e+300".toList := by decide

end IdentityToken.Json
