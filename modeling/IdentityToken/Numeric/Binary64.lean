/-!
# Binary floating point

A finite number of the binary format with 53 bits of precision is `± mantissa · 2^exponent`.
`Binary64.ofRatio` rounds a quotient of naturals to the nearest such number, a half to the even
mantissa; products and quotients are rounded once from their exact value.
-/

namespace IdentityToken

/-- The least mantissa with 53 bits, `2^52`. -/
abbrev Binary64.hiddenBit : Nat := 0x10000000000000

/-- The pairs that stand for a magnitude in one way only: a full mantissa, or the least exponent. -/
def Binary64.Canonical (mantissa : Nat) (exponent : Int) : Prop :=
  mantissa < 2 * hiddenBit ∧ -1074 ≤ exponent ∧ exponent ≤ 971 ∧
    (hiddenBit ≤ mantissa ∨ exponent = -1074)

instance (m : Nat) (e : Int) : Decidable (Binary64.Canonical m e) :=
  inferInstanceAs (Decidable (_ ∧ _ ∧ _ ∧ _))

/-- A finite binary floating-point number `± mantissa · 2^exponent`; zero has both signs. -/
structure Binary64 where
  negative : Bool
  mantissa : Nat
  exponent : Int
  canonical : Binary64.Canonical mantissa exponent
deriving DecidableEq

namespace Binary64

def zero (negative : Bool) : Binary64 := ⟨negative, 0, -1074, by decide⟩

instance : Inhabited Binary64 := ⟨zero false⟩

def isZero (x : Binary64) : Bool := x.mantissa == 0

/-- The magnitude is `numerator / denominator`. -/
def numerator (x : Binary64) : Nat := x.mantissa <<< x.exponent.toNat

@[inherit_doc numerator]
def denominator (x : Binary64) : Nat := 1 <<< (-x.exponent).toNat

def floor (x : Binary64) : Int :=
  if x.negative then -((x.numerator + x.denominator - 1) / x.denominator : Nat)
  else (x.numerator / x.denominator : Nat)

/-- The natural nearest to `num / den`; of two, the even one. -/
def roundDiv (num den : Nat) : Nat :=
  let q := num / den
  let r := 2 * (num % den)
  if r < den ∨ r = den ∧ q % 2 = 0 then q else q + 1

/-- The greatest `k` with `2^k ≤ num / den`, for positive arguments. -/
def floorLog2 (num den : Nat) : Int :=
  let k : Int := (Nat.log2 num : Int) - Nat.log2 den
  if den <<< k.toNat ≤ num <<< (-k).toNat then k else k - 1

/-- The number nearest to `± num / den`, a half going to the even mantissa; none if that is beyond
all finite numbers. -/
def ofRatio (negative : Bool) (num den : Nat) : Option Binary64 :=
  if num = 0 then some (zero negative)
  else
    let e := max (-1074) (floorLog2 num den - 52)
    let m := roundDiv (num <<< (-e).toNat) (den <<< e.toNat)
    let (m, e) := if m = 2 * hiddenBit then (hiddenBit, e + 1) else (m, e)
    if h : Canonical m e then some ⟨negative, m, e, h⟩ else none

def mul (x y : Binary64) : Option Binary64 :=
  ofRatio (x.negative != y.negative) (x.numerator * y.numerator) (x.denominator * y.denominator)

def div (x y : Binary64) : Option Binary64 :=
  ofRatio (x.negative != y.negative) (x.numerator * y.denominator) (x.denominator * y.numerator)

def powTen (n : Nat) : Option Binary64 := ofRatio false (Nat.pow 10 n) 1

end Binary64

end IdentityToken
