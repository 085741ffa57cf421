import IdentityToken.Text.Utf8
/-!
# The octets of characters

The octets of a text are those of its characters one after the other. A character below 128 is one
octet, and all octets of the others are at least 128, so marks are found among octets as they are
found among characters.
-/

namespace IdentityToken.Text

/-- The octets of a list of characters. -/
def utf8List (l : List Char) : Bytes := l.flatMap String.utf8EncodeChar

@[simp] theorem utf8List_nil : utf8List [] = [] := rfl

theorem utf8List_cons (c : Char) (l : List Char) :
    utf8List (c :: l) = String.utf8EncodeChar c ++ utf8List l := rfl

@[simp] theorem utf8List_append (l m : List Char) : utf8List (l ++ m) = utf8List l ++ utf8List m :=
  List.flatMap_append

theorem utf8List_nuls (n : Nat) : utf8List (List.replicate n '\x00') = List.replicate n 0 := by
  induction n with
  | zero => rfl
  | succ n ih =>
    rw [List.replicate_succ, utf8List_cons, ih]
    rfl

theorem utf8_ofList (l : List Char) : utf8 (String.ofList l) = utf8List l := by
  simp [utf8, utf8List, List.utf8Encode]

theorem utf8_eq_utf8List (s : String) : utf8 s = utf8List s.toList := by
  rw [← utf8_ofList, String.ofList_toList]

/-- A character below 128 is its own octet. -/
theorem utf8EncodeChar_of_lt {c : Char} (h : c.toNat < 0x80) :
    String.utf8EncodeChar c = [c.toNat.toUInt8] := by
  have hc : c.val.toNat ≤ 0x7f := by have : c.val.toNat = c.toNat := rfl; omega
  simp only [String.utf8EncodeChar, hc, if_true]
  rfl

private theorem le_ofNat {n : Nat} (h : 0x80 ≤ n) (h' : n < 0x100) : 0x80 ≤ UInt8.ofNat n := by
  rw [UInt8.le_iff_toNat_le]
  simpa [Nat.mod_eq_of_lt h'] using h

/-- A character that is not below 128 has no octet below 128. -/
theorem le_of_mem_utf8EncodeChar {c : Char} (h : 0x80 ≤ c.toNat) {b : UInt8}
    (hb : b ∈ String.utf8EncodeChar c) : 0x80 ≤ b := by
  have hc : ¬c.val.toNat ≤ 0x7f := by have : c.val.toNat = c.toNat := rfl; omega
  simp only [String.utf8EncodeChar, hc, if_false] at hb
  split at hb
  · next hlt =>
    simp only [List.mem_cons, List.not_mem_nil, or_false] at hb
    rcases hb with rfl | rfl <;> exact le_ofNat (by omega) (by omega)
  split at hb
  · simp only [List.mem_cons, List.not_mem_nil, or_false] at hb
    rcases hb with rfl | rfl | rfl <;> exact le_ofNat (by omega) (by omega)
  · simp only [List.mem_cons, List.not_mem_nil, or_false] at hb
    rcases hb with rfl | rfl | rfl | rfl <;> exact le_ofNat (by omega) (by omega)

/-- What starts with the octets of a character does not start with those of another. -/
theorem utf8EncodeChar_append_inj {c d : Char} {b b' : Bytes}
    (h : String.utf8EncodeChar c ++ b = String.utf8EncodeChar d ++ b') : c = d ∧ b = b' := by
  have hdecode (c : Char) (b : Bytes) :
      ByteArray.utf8DecodeChar? (List.toByteArray (String.utf8EncodeChar c ++ b)) 0 = some c := by
    rw [List.toByteArray_append]
    exact ByteArray.utf8DecodeChar?_utf8EncodeChar_append
  have hc : d = c := Option.some.inj ((hdecode d b').symm.trans (h ▸ hdecode c b))
  subst hc
  exact ⟨rfl, List.append_cancel_left h⟩

/-- Of the octets of a character only the first can be the first octet of one. -/
theorem isUTF8FirstByte_of_utf8EncodeChar_eq {c : Char} {o : UInt8} {tail : Bytes}
    (h : String.utf8EncodeChar c = o :: tail) :
    o.IsUTF8FirstByte ∧ ∀ p ∈ tail, ¬p.IsUTF8FirstByte := by
  have hget (i : Nat) (hi : i < (o :: tail).length) : (o :: tail)[i].IsUTF8FirstByte ↔ i = 0 := by
    simp only [← h]
    exact UInt8.isUTF8FirstByte_getElem_utf8EncodeChar
  refine ⟨(hget 0 (by simp)).mpr rfl, fun p hp hfirst => ?_⟩
  obtain ⟨i, hi, rfl⟩ := List.mem_iff_getElem.mp hp
  exact absurd ((hget (i + 1) (by simpa using hi)).mp hfirst) (by simp)

end IdentityToken.Text
