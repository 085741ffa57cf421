import IdentityToken.Text.Utf8
/-!
# Words and blocks of octets

Words are written with the most significant octet first. `blocks` cuts a sequence of octets into
pieces of one length.
-/

namespace IdentityToken.Crypto

/-- A word of 32 bits from its octets, the most significant first. -/
def word (a b c d : UInt8) : UInt32 :=
  a.toUInt32 <<< 24 ||| b.toUInt32 <<< 16 ||| c.toUInt32 <<< 8 ||| d.toUInt32

/-- The words that a sequence of octets is made of; octets that fill no word are dropped. -/
def words : Bytes → List UInt32
  | a :: b :: c :: d :: rest => word a b c d :: words rest
  | _ => []

def octets (w : UInt32) : Vector UInt8 4 :=
  #v[(w >>> 24).toUInt8, (w >>> 16).toUInt8, (w >>> 8).toUInt8, w.toUInt8]

/-- The octets of a natural below `2^64`. -/
def octets64 (n : Nat) : Bytes :=
  (octets (UInt32.ofNat (n >>> 32))).toList ++ (octets (UInt32.ofNat n)).toList

def rotateLeft (w : UInt32) (n : UInt32) : UInt32 := w <<< n ||| w >>> (32 - n)

def rotateRight (w : UInt32) (n : UInt32) : UInt32 := w >>> n ||| w <<< (32 - n)

/-- Cuts a sequence into pieces of `n` octets, of which the last may be shorter. -/
def blocks (n : Nat) (b : Bytes) : List Bytes := go b.length b
where
  go : Nat → Bytes → List Bytes
    | 0, _ => []
    | _ + 1, [] => []
    | bound + 1, b => b.take n :: go bound (b.drop n)

def xor (a b : Bytes) : Bytes := List.zipWith (· ^^^ ·) a b

@[simp] theorem length_xor (a b : Bytes) : (xor a b).length = min a.length b.length := by
  simp [xor]

theorem xor_xor {a b : Bytes} (h : a.length ≤ b.length) : xor (xor a b) b = a := by
  induction a generalizing b with
  | nil => rfl
  | cons x a ih =>
    cases b with
    | nil => simp at h
    | cons y b =>
      have : x ^^^ y ^^^ y = x := by rw [UInt8.xor_assoc, UInt8.xor_self, UInt8.xor_zero]
      simp only [xor, List.zipWith_cons_cons, this]
      exact congrArg (x :: ·) (ih (by simpa using h))

end IdentityToken.Crypto
