import IdentityToken.Crypto.Aes256
/-!
# Authenticated encryption in Galois/counter mode

The mode works with any cipher on blocks of 16 octets. A text is combined with the ciphers of a
counter, and the tag is the cipher of a polynomial hash of the additional data and the result.
`decrypt_encrypt` and `encrypt_of_decrypt` say that decryption accepts exactly what encryption
produces.

Nothing is said of lengths: an implementation of the mode fails on texts and additional data of more
than `2^36` octets, which are encrypted and decrypted here as any others.
-/

namespace IdentityToken.Crypto.Gcm

abbrev Iv := Vector UInt8 12

/-- A block as a number, the first octet being the most significant. -/
def toBits (b : Bytes) : BitVec 128 := BitVec.ofNat 128 (b.foldl (fun n o => 256 * n + o.toNat) 0)

def ofBits (n : BitVec 128) : Block :=
  Vector.ofFn fun i => UInt8.ofNat (n.toNat >>> (8 * (15 - i.val)))

/-- The product with `x` in the field of `2^128` elements, whose bits count from the most
significant. -/
def double (a : BitVec 128) : BitVec 128 :=
  if a.getLsbD 0 then a >>> 1 ^^^ 0xe1#128 <<< 120 else a >>> 1

def times (a b : BitVec 128) : BitVec 128 := go 128 a b
where
  go : Nat → BitVec 128 → BitVec 128 → BitVec 128
    | 0, _, _ => 0
    | bits + 1, a, b => (if a.getLsbD bits then b else 0) ^^^ go bits a (double b)

/-- Evaluates at `h` the polynomial whose coefficients are the blocks of a sequence. -/
def hash (h : BitVec 128) (b : Bytes) : BitVec 128 :=
  (blocks 16 b).foldl (fun y block => times (y ^^^ toBits block) h) 0

/-- Appends zeros up to a whole block. -/
def fill (b : Bytes) : Bytes := b ++ List.replicate ((16 - b.length % 16) % 16) 0

def counterBlock (iv : Iv) (counter : Nat) : Block := iv ++ octets (UInt32.ofNat counter)

/-- The first `16 · count` octets that are combined with a text. The counter starts at 2. -/
def keystream (cipher : Block → Block) (iv : Iv) (count : Nat) : Bytes :=
  (List.range count).flatMap fun i => (cipher (counterBlock iv (i + 2))).toList

/-- Combines a text with the keystream; a second time gives the text back. -/
def crypt (cipher : Block → Block) (iv : Iv) (b : Bytes) : Bytes :=
  xor b (keystream cipher iv ((b.length + 15) / 16))

def tag (cipher : Block → Block) (iv : Iv) (aad ciphertext : Bytes) : Bytes :=
  let h := toBits (cipher (Vector.replicate 16 0)).toList
  let lengths := octets64 (8 * aad.length) ++ octets64 (8 * ciphertext.length)
  let digest := ofBits (hash h (fill aad ++ fill ciphertext ++ lengths))
  xor digest.toList (cipher (counterBlock iv 1)).toList

/-- The ciphertext and the tag of a text. -/
def encrypt (cipher : Block → Block) (iv : Iv) (aad plaintext : Bytes) : Bytes × Bytes :=
  let ciphertext := crypt cipher iv plaintext
  (ciphertext, tag cipher iv aad ciphertext)

/-- The text of a ciphertext, if the tag is right. -/
def decrypt? (cipher : Block → Block) (iv : Iv) (aad ciphertext given : Bytes) : Option Bytes :=
  if tag cipher iv aad ciphertext = given then some (crypt cipher iv ciphertext) else none

@[simp] theorem length_tag (cipher : Block → Block) (iv : Iv) (aad ciphertext : Bytes) :
    (tag cipher iv aad ciphertext).length = 16 := by
  simp [tag]

theorem length_keystream (cipher : Block → Block) (iv : Iv) (count : Nat) :
    (keystream cipher iv count).length = 16 * count := by
  induction count with
  | zero => rfl
  | succ count ih =>
    have hstep : keystream cipher iv (count + 1)
        = keystream cipher iv count ++ (cipher (counterBlock iv (count + 2))).toList := by
      simp [keystream, List.range_succ]
    rw [hstep, List.length_append, ih, Vector.length_toList, Nat.mul_succ]

@[simp] theorem length_crypt (cipher : Block → Block) (iv : Iv) (b : Bytes) :
    (crypt cipher iv b).length = b.length := by
  rw [crypt, length_xor, length_keystream]; omega

@[simp] theorem crypt_crypt (cipher : Block → Block) (iv : Iv) (b : Bytes) :
    crypt cipher iv (crypt cipher iv b) = b := by
  rw [crypt, length_crypt]
  exact xor_xor (by rw [length_keystream]; omega)

/-- Decryption gives the text that was encrypted. -/
theorem decrypt_encrypt (cipher : Block → Block) (iv : Iv) (aad plaintext : Bytes) :
    decrypt? cipher iv aad (encrypt cipher iv aad plaintext).1 (encrypt cipher iv aad plaintext).2
      = some plaintext := by
  simp [decrypt?, encrypt]

/-- What is decrypted was encrypted. -/
theorem encrypt_of_decrypt {cipher : Block → Block} {iv : Iv}
    {aad ciphertext given plaintext : Bytes}
    (h : decrypt? cipher iv aad ciphertext given = some plaintext) :
    encrypt cipher iv aad plaintext = (ciphertext, given) := by
  unfold decrypt? at h
  split at h
  · next ht => cases h; simp [encrypt, ht]
  · cases h

end IdentityToken.Crypto.Gcm
