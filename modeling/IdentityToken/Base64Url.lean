import IdentityToken.Text.Utf8
/-!
# Base64 for addresses

Octets are written as characters of a 64-letter alphabet, six bits each, without padding. `decode?`
accepts only what `encode` writes: no other letters, no bits left over, no other length.
-/

namespace IdentityToken.Base64Url

def letter (n : Nat) : Char :=
  if n < 26 then Char.ofNat (n + 65)
  else if n < 52 then Char.ofNat (n + 71)
  else if n < 62 then Char.ofNat (n - 4)
  else if n = 62 then '-'
  else '_'

def sextet? (c : Char) : Option Nat :=
  let n := c.toNat
  if 65 ≤ n ∧ n ≤ 90 then some (n - 65)
  else if 97 ≤ n ∧ n ≤ 122 then some (n - 71)
  else if 48 ≤ n ∧ n ≤ 57 then some (n + 4)
  else if c = '-' then some 62
  else if c = '_' then some 63
  else none

/-- Octets as numbers below 64: three octets make four numbers. -/
def sextets : Bytes → List Nat
  | [] => []
  | [a] => [a.toNat / 4, a.toNat % 4 * 16]
  | [a, b] => [a.toNat / 4, a.toNat % 4 * 16 + b.toNat / 16, b.toNat % 16 * 4]
  | a :: b :: c :: rest =>
    a.toNat / 4 :: (a.toNat % 4 * 16 + b.toNat / 16) :: (b.toNat % 16 * 4 + c.toNat / 64)
      :: c.toNat % 64 :: sextets rest

/-- The octets that numbers below 64 stand for; bits that fill no octet have to be zero. -/
def ofSextets? : List Nat → Option Bytes
  | [] => some []
  | [_] => none
  | [x, y] => if y % 16 = 0 then some [UInt8.ofNat (x * 4 + y / 16)] else none
  | [x, y, z] =>
    if z % 4 = 0 then
      some [UInt8.ofNat (x * 4 + y / 16), UInt8.ofNat (y % 16 * 16 + z / 4)]
    else none
  | x :: y :: z :: w :: rest =>
    (ofSextets? rest).map fun b =>
      UInt8.ofNat (x * 4 + y / 16) :: UInt8.ofNat (y % 16 * 16 + z / 4) ::
        UInt8.ofNat (z % 4 * 64 + w) :: b

def encode (b : Bytes) : String := String.ofList ((sextets b).map letter)

def decode? (s : String) : Option Bytes := (s.toList.mapM sextet?).bind ofSextets?

theorem sextet?_letter {n : Nat} (h : n < 64) : sextet? (letter n) = some n := by
  revert n; decide

theorem lt_of_mem_sextets {b : Bytes} {n : Nat} (h : n ∈ sextets b) : n < 64 := by
  fun_induction sextets b with
  | case1 => simp at h
  | case2 a => have := a.toNat_lt; simp at h; omega
  | case3 a b => have := a.toNat_lt; have := b.toNat_lt; simp at h; omega
  | case4 a b c rest ih =>
    have := a.toNat_lt; have := b.toNat_lt; have := c.toNat_lt
    simp only [List.mem_cons] at h
    rcases h with h | h | h | h | h
    · omega
    · omega
    · omega
    · omega
    · exact ih h

theorem ofSextets?_sextets (b : Bytes) : ofSextets? (sextets b) = some b := by
  fun_induction sextets b with
  | case1 => rfl
  | case2 a =>
    have := a.toNat_lt
    have h : a.toNat / 4 * 4 + a.toNat % 4 * 16 / 16 = a.toNat := by omega
    rw [ofSextets?, if_pos (by omega), h, UInt8.ofNat_toNat]
  | case3 a b =>
    have := a.toNat_lt; have := b.toNat_lt
    have h : a.toNat / 4 * 4 + (a.toNat % 4 * 16 + b.toNat / 16) / 16 = a.toNat := by omega
    have h' : (a.toNat % 4 * 16 + b.toNat / 16) % 16 * 16 + b.toNat % 16 * 4 / 4 = b.toNat := by
      omega
    rw [ofSextets?, if_pos (by omega), h, h', UInt8.ofNat_toNat, UInt8.ofNat_toNat]
  | case4 a b c rest ih =>
    have := a.toNat_lt; have := b.toNat_lt; have := c.toNat_lt
    have h : a.toNat / 4 * 4 + (a.toNat % 4 * 16 + b.toNat / 16) / 16 = a.toNat := by omega
    have h' : (a.toNat % 4 * 16 + b.toNat / 16) % 16 * 16 + (b.toNat % 16 * 4 + c.toNat / 64) / 4
        = b.toNat := by omega
    have h'' : (b.toNat % 16 * 4 + c.toNat / 64) % 4 * 64 + c.toNat % 64 = c.toNat := by omega
    rw [ofSextets?, ih, h, h', h'', UInt8.ofNat_toNat, UInt8.ofNat_toNat, UInt8.ofNat_toNat]
    rfl

theorem mapM_sextet?_letter {l : List Nat} (h : ∀ n ∈ l, n < 64) :
    (l.map letter).mapM sextet? = some l := by
  induction l with
  | nil => rfl
  | cons n l ih =>
    have hn := sextet?_letter (h n List.mem_cons_self)
    have hl := ih fun m hm => h m (List.mem_cons_of_mem _ hm)
    simp [List.mapM_cons, hn, hl]

@[simp] theorem decode?_encode (b : Bytes) : decode? (encode b) = some b := by
  rw [decode?, encode, String.toList_ofList, mapM_sextet?_letter fun _ => lt_of_mem_sextets]
  exact ofSextets?_sextets b

end IdentityToken.Base64Url
