import IdentityToken.Crypto.Words
/-!
# The block cipher AES with keys of 256 bits

The substitution of octets is computed in the field of 256 elements: the inverse, then an affine
map. A block holds its columns one after the other.
-/

namespace IdentityToken.Crypto

abbrev Block := Vector UInt8 16

namespace Aes256

/-- The product with `x` in the field of 256 elements. -/
def double (a : UInt8) : UInt8 := if a < 0x80 then a <<< 1 else a <<< 1 ^^^ 0x1b

/-- The product in the field of 256 elements. -/
def times (a b : UInt8) : UInt8 := go 8 a b
where
  go : Nat → UInt8 → UInt8 → UInt8
    | 0, _, _ => 0
    | bits + 1, a, b => (if b &&& 1 = 1 then a else 0) ^^^ go bits (double a) (b >>> 1)

/-- The inverse in the field of 256 elements, and 0 for 0: the power with exponent 254. -/
def inverse (a : UInt8) : UInt8 := Nat.repeat (times a) 254 1

def substitute (a : UInt8) : UInt8 :=
  let b := inverse a
  let turn (n : UInt8) := b <<< n ||| b >>> (8 - n)
  b ^^^ turn 1 ^^^ turn 2 ^^^ turn 3 ^^^ turn 4 ^^^ 0x63

def table : Vector UInt8 256 := Vector.ofFn fun i => substitute (UInt8.ofNat i)

def look (a : UInt8) : UInt8 := table.get ⟨a.toNat, a.toNat_lt⟩

theorem look_eq (a : UInt8) : look a = substitute a := by
  have h : a.toNat < 256 := a.toNat_lt
  have e : look a = table[a.toNat] := rfl
  simp [e, table]

def lookWord (w : UInt32) : UInt32 :=
  word (look (w >>> 24).toUInt8) (look (w >>> 16).toUInt8) (look (w >>> 8).toUInt8) (look w.toUInt8)

/-- The constant of the `i`-th turn of the key. -/
def turnConstant (i : Nat) : UInt32 := (Nat.repeat double (i - 1) 1).toUInt32 <<< 24

/-- The word of the expanded key with index `i`, given the words before it with the latest first. -/
def nextKeyWord (i : Nat) (latest : List UInt32) : UInt32 :=
  let last := latest.getD 0 0
  let mixed :=
    if i % 8 = 0 then lookWord (rotateLeft last 8) ^^^ turnConstant (i / 8)
    else if i % 8 = 4 then lookWord last
    else last
  latest.getD 7 0 ^^^ mixed

def expand (key : Vector UInt8 32) : List UInt32 :=
  ((List.range 52).foldl (fun latest i => nextKeyWord (i + 8) latest :: latest)
    (words key.toList).reverse).reverse

def blockOf (a b c d : UInt32) : Block := octets a ++ octets b ++ octets c ++ octets d

def roundKeys : List UInt32 → List Block
  | a :: b :: c :: d :: rest => blockOf a b c d :: roundKeys rest
  | _ => []

def addKey (key s : Block) : Block := Vector.zipWith (· ^^^ ·) s key

/-- Turns row `r` by `r` columns. -/
def shiftRows (s : Block) : Block :=
  Vector.ofFn fun i => s.get ⟨(i.val + 4 * (i.val % 4)) % 16, Nat.mod_lt _ (by decide)⟩

def mixColumns (s : Block) : Block :=
  Vector.ofFn fun i =>
    let row (k : Nat) : UInt8 :=
      s.get ⟨4 * (i.val / 4) + (i.val % 4 + k) % 4, by have := i.isLt; omega⟩
    double (row 0) ^^^ (double (row 1) ^^^ row 1) ^^^ row 2 ^^^ row 3

/-- The rounds after the first key; the last one mixes no columns. -/
def rounds : List Block → Block → Block
  | [], s => s
  | [key], s => addKey key (shiftRows (s.map look))
  | key :: keys, s => rounds keys (addKey key (mixColumns (shiftRows (s.map look))))

end Aes256

/-- The permutation of blocks under a key. -/
def aes256 (key : Vector UInt8 32) : Block → Block :=
  match Aes256.roundKeys (Aes256.expand key) with
  | [] => id
  | first :: keys => fun s => Aes256.rounds keys (Aes256.addKey first s)

end IdentityToken.Crypto
