import IdentityToken.Numeric.Binary64
/-!
# Shortest decimals

Many decimals are read as one and the same binary number. `Binary64.shortest` gives one of those
with the fewest digits, and of these the nearest to the number.
-/

namespace IdentityToken

/-- The decimal `digits · 10^exponent`. -/
structure Decimal where
  digits : Nat
  exponent : Int
deriving DecidableEq

namespace Decimal

def digitCount (n : Nat) : Nat := (Nat.toDigits 10 n).length

/-- The greatest `k` with `10^k ≤ num / den`, for positive arguments. -/
def floorLog10 (num den : Nat) : Int :=
  if den ≤ num then (digitCount (num / den) : Int) - 1 else -(digitCount ((den - 1) / num) : Int)

/-- Moves trailing zeros of the digits to the exponent. -/
def strip (d : Decimal) : Decimal :=
  go (digitCount d.digits) d.digits d.exponent
where
  go : Nat → Nat → Int → Decimal
    | 0, n, e => ⟨n, e⟩
    | k + 1, n, e => if n ≠ 0 ∧ n % 10 = 0 then go k (n / 10) (e + 1) else ⟨n, e⟩

end Decimal

namespace Binary64

/-- The reals that are read as one number: from `low / den` to `high / den` around `mid / den`, with
the ends if it is closed. -/
structure Neighbourhood where
  low : Nat
  mid : Nat
  high : Nat
  den : Nat
  closed : Bool

/-- The reals nearest to the magnitude of `x`. -/
def neighbourhood (x : Binary64) : Neighbourhood :=
  let scale := 1 <<< (x.exponent - 2).toNat
  let below := if x.mantissa = hiddenBit ∧ -1074 < x.exponent then 1 else 2
  { low := (4 * x.mantissa - below) * scale
    mid := 4 * x.mantissa * scale
    high := (4 * x.mantissa + 2) * scale
    den := 1 <<< (2 - x.exponent).toNat
    closed := x.mantissa % 2 == 0 }

def Neighbourhood.contains (n : Neighbourhood) (d : Decimal) : Bool :=
  let value := d.digits * Nat.pow 10 d.exponent.toNat * n.den
  let low := n.low * Nat.pow 10 (-d.exponent).toNat
  let high := n.high * Nat.pow 10 (-d.exponent).toNat
  if n.closed then low ≤ value && value ≤ high else low < value && value < high

/-- The member on the grid of multiples of `10^k` that is nearest to the middle, an even one of two;
the only candidates are the neighbours of the middle. -/
def Neighbourhood.onGrid? (n : Neighbourhood) (k : Int) : Option Decimal :=
  let num := n.mid * Nat.pow 10 (-k).toNat
  let den := n.den * Nat.pow 10 k.toNat
  let below : Decimal := ⟨num / den, k⟩
  let above : Decimal := ⟨num / den + 1, k⟩
  let nearest : Decimal := ⟨roundDiv num den, k⟩
  if n.contains nearest then some nearest
  else if n.contains below then some below
  else if n.contains above then some above
  else none

/-- A decimal with the fewest digits that is read as the magnitude of `x`, and of these one nearest
to it. Seventeen digits always suffice. -/
def shortest (x : Binary64) : Decimal :=
  if x.isZero then ⟨0, 0⟩
  else
    let n := x.neighbourhood
    let top := Decimal.floorLog10 n.mid n.den
    match (List.range 17).findSome? fun i : Nat => n.onGrid? (top - i) with
    | some d => d.strip
    | none => ⟨0, 0⟩

end Binary64

end IdentityToken
