import IdentityToken.Proofs.Text.Octets
/-!
# The order of texts

Texts are ordered by the code points of their characters. UTF-8 keeps this order: the first octet of
a character tells how many follow, longer characters have higher code points, and the octets that
follow are digits, the highest first.
-/

namespace IdentityToken.Text

/-- The octets that follow the first: six bits each. -/
private def trailing : Nat → Nat → Bytes
  | 0, _ => []
  | k + 1, n => trailing k (n / 64) ++ [UInt8.ofNat (n % 64 + 128)]

/-- What those octets leave of a number for the first. -/
private def leading : Nat → Nat → Nat
  | 0, n => n
  | k + 1, n => leading k (n / 64)

private theorem utf8EncodeChar_eq_trailing (c : Char) :
    ∃ k lead, String.utf8EncodeChar c = UInt8.ofNat lead :: trailing k c.toNat ∧
      (k = 0 ∧ lead = c.toNat ∧ c.toNat < 0x80 ∨
        k = 1 ∧ lead = c.toNat / 64 + 192 ∧ 0x80 ≤ c.toNat ∧ c.toNat < 0x800 ∨
        k = 2 ∧ lead = c.toNat / 64 / 64 + 224 ∧ 0x800 ≤ c.toNat ∧ c.toNat < 0x10000 ∨
        k = 3 ∧ lead = c.toNat / 64 / 64 / 64 + 240 ∧ 0x10000 ≤ c.toNat ∧ c.toNat < 0x110000) := by
  have hbound : c.toNat < 0x110000 := by
    rcases c.valid with h | h
    · exact Nat.lt_trans h (by decide)
    · exact h.2
  have hval : c.val.toNat = c.toNat := rfl
  have hmod {m k : Nat} (h : m < k) (b : Nat) : m % k + b = m + b := by rw [Nat.mod_eq_of_lt h]
  simp only [String.utf8EncodeChar, hval]
  split
  · exact ⟨0, _, rfl, .inl ⟨rfl, rfl, by omega⟩⟩
  · split
    · rw [hmod (by omega)]
      exact ⟨1, _, by simp [trailing], .inr (.inl ⟨rfl, rfl, by omega, by omega⟩)⟩
    · split
      · rw [hmod (by omega)]
        refine ⟨2, c.toNat / 64 / 64 + 224, ?_, .inr (.inr (.inl ⟨rfl, rfl, by omega, by omega⟩))⟩
        simp [trailing, Nat.div_div_eq_div_mul]
      · rw [hmod (by omega)]
        refine ⟨3, c.toNat / 64 / 64 / 64 + 240, ?_,
          .inr (.inr (.inr ⟨rfl, rfl, by omega, hbound⟩))⟩
        simp [trailing, Nat.div_div_eq_div_mul]

private theorem cons_lt_cons {m n : Nat} {a b : Bytes} (hm : m < 256) (hn : n < 256)
    (h : m < n ∨ m = n ∧ a < b) : UInt8.ofNat m :: a < UInt8.ofNat n :: b := by
  rw [List.cons_lt_cons_iff, UInt8.lt_iff_toNat_lt, ← UInt8.toNat_inj, UInt8.toNat_ofNat',
    UInt8.toNat_ofNat', Nat.mod_eq_of_lt hm, Nat.mod_eq_of_lt hn]
  exact h

private theorem trailing_append_lt {m n k : Nat} (h : m < n) (hlead : leading k m = leading k n)
    (a b : Bytes) : trailing k m ++ a < trailing k n ++ b := by
  induction k generalizing m n a b with
  | zero => exact absurd hlead (Nat.ne_of_lt h)
  | succ k ih =>
    rw [trailing, trailing, List.append_assoc, List.append_assoc]
    have hle : m / 64 ≤ n / 64 := Nat.div_le_div_right (Nat.le_of_lt h)
    rcases Nat.lt_or_eq_of_le hle with hlt | heq
    · exact ih hlt hlead _ _
    · -- Only the last octets differ.
      rw [heq]
      exact List.append_left_lt (cons_lt_cons (by omega) (by omega) (.inl (by omega)))

/-- Characters are ordered as their octets, whatever follows. -/
private theorem utf8EncodeChar_append_lt {c d : Char} (h : c < d) (a b : Bytes) :
    String.utf8EncodeChar c ++ a < String.utf8EncodeChar d ++ b := by
  have hlt : c.toNat < d.toNat := UInt32.lt_iff_toNat_lt.mp h
  obtain ⟨k, lead, hc, hcase⟩ := utf8EncodeChar_eq_trailing c
  obtain ⟨k', lead', hd, hcase'⟩ := utf8EncodeChar_eq_trailing d
  -- The first octet tells how many follow.
  have hlead : lead < lead' ∨ lead = lead' ∧ k = k' ∧ leading k c.toNat = leading k d.toNat := by
    rcases hcase with ⟨rfl, hcase⟩ | ⟨rfl, hcase⟩ | ⟨rfl, hcase⟩ | ⟨rfl, hcase⟩ <;>
      rcases hcase' with ⟨rfl, hcase'⟩ | ⟨rfl, hcase'⟩ | ⟨rfl, hcase'⟩ | ⟨rfl, hcase'⟩ <;>
      simp only [leading, true_and] <;> omega
  rw [hc, hd, List.cons_append, List.cons_append]
  refine cons_lt_cons (by omega) (by omega) ?_
  rcases hlead with hlead | ⟨hlead, rfl, heq⟩
  · exact .inl hlead
  · exact .inr ⟨hlead, trailing_append_lt hlt heq a b⟩

private theorem utf8List_lt {l m : List Char} (h : l < m) : utf8List l < utf8List m := by
  induction h with
  | @nil c m =>
    obtain ⟨k, lead, hc, -⟩ := utf8EncodeChar_eq_trailing c
    rw [utf8List_cons, hc]
    exact List.nil_lt_cons ..
  | rel h => exact utf8EncodeChar_append_lt h _ _
  | cons h ih => exact List.append_left_lt ih

/-- The order of texts is the order of their octets. -/
theorem utf8_lt_utf8 {s t : String} (h : s < t) : utf8 s < utf8 t := by
  rw [utf8_eq_utf8List, utf8_eq_utf8List]
  exact utf8List_lt h

end IdentityToken.Text
