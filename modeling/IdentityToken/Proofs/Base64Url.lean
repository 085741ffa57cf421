import IdentityToken.Base64Url
import IdentityToken.Text.Blank
/-!
# Strict base64url

Decoding accepts exactly what encoding writes: foreign letters, padding, a length of one more than a
multiple of four, and bits left over that are not zero are all refused. So each sequence of octets
has one text, and no text contains a dot.
-/

namespace IdentityToken.Base64Url

private theorem letter_of_sextet? {c : Char} {n : Nat} (h : sextet? c = some n) :
    n < 64 ∧ letter n = c := by
  have hc : Char.ofNat c.toNat = c := Char.ofNat_toNat c
  simp only [sextet?] at h
  split at h
  · cases h
    refine ⟨by omega, ?_⟩
    rw [letter, if_pos (by omega), Nat.sub_add_cancel (by omega), hc]
  split at h
  · cases h
    refine ⟨by omega, ?_⟩
    rw [letter, if_neg (by omega), if_pos (by omega), Nat.sub_add_cancel (by omega), hc]
  split at h
  · cases h
    refine ⟨by omega, ?_⟩
    rw [letter, if_neg (by omega), if_neg (by omega), if_pos (by omega), Nat.add_sub_cancel, hc]
  split at h
  · next hd => cases h; exact ⟨by decide, hd.symm⟩
  split at h
  · next hd => cases h; exact ⟨by decide, hd.symm⟩
  · cases h

private theorem map_letter_of_mapM {cs : List Char} {ns : List Nat}
    (h : cs.mapM sextet? = some ns) : (∀ n ∈ ns, n < 64) ∧ ns.map letter = cs := by
  induction cs generalizing ns with
  | nil => simp at h; subst h; simp
  | cons c cs ih =>
    simp only [List.mapM_cons, Option.bind_eq_bind, Option.bind_eq_some_iff, Option.pure_def,
      Option.some.injEq] at h
    obtain ⟨n, hn, ms, hms, rfl⟩ := h
    obtain ⟨hlt, hletter⟩ := letter_of_sextet? hn
    obtain ⟨hall, hmap⟩ := ih hms
    refine ⟨?_, by simp [hletter, hmap]⟩
    intro m hm
    rcases List.mem_cons.mp hm with rfl | hm
    · exact hlt
    · exact hall m hm

private theorem toNat_ofNat_of_lt {n : Nat} (h : n < 256) : (UInt8.ofNat n).toNat = n := by
  simpa using Nat.mod_eq_of_lt h

private theorem sextets_of_ofSextets? {ns : List Nat} {b : Bytes} (hlt : ∀ n ∈ ns, n < 64)
    (h : ofSextets? ns = some b) : sextets b = ns := by
  fun_induction ofSextets? ns generalizing b with
  | case1 => cases h; rfl
  | case2 => cases h
  | case3 x y hy =>
    cases h
    have hx : x < 64 := hlt x (by simp)
    have hy' : y < 64 := hlt y (by simp)
    rw [sextets, toNat_ofNat_of_lt (by omega)]
    congr 1
    · omega
    · congr 1; omega
  | case4 => cases h
  | case5 x y z hz =>
    cases h
    have hx : x < 64 := hlt x (by simp)
    have hy : y < 64 := hlt y (by simp)
    have hz' : z < 64 := hlt z (by simp)
    rw [sextets, toNat_ofNat_of_lt (by omega), toNat_ofNat_of_lt (by omega)]
    congr 1
    · omega
    congr 1
    · omega
    · congr 1; omega
  | case6 => cases h
  | case7 x y z w rest ih =>
    obtain ⟨c, hc, rfl⟩ := Option.map_eq_some_iff.mp h
    have hx : x < 64 := hlt x (by simp)
    have hy : y < 64 := hlt y (by simp)
    have hz : z < 64 := hlt z (by simp)
    have hw : w < 64 := hlt w (by simp)
    have hrest := ih (fun n hn => hlt n (by simp [hn])) hc
    rw [sextets, toNat_ofNat_of_lt (by omega), toNat_ofNat_of_lt (by omega),
      toNat_ofNat_of_lt (by omega), hrest]
    congr 1
    · omega
    congr 1
    · omega
    congr 1
    · omega
    · congr 1; omega

/-- What is read was written. -/
theorem encode_of_decode? {s : String} {b : Bytes} (h : decode? s = some b) : encode b = s := by
  simp only [decode?, Option.bind_eq_some_iff] at h
  obtain ⟨ns, hns, hb⟩ := h
  obtain ⟨hlt, hmap⟩ := map_letter_of_mapM hns
  rw [encode, sextets_of_ofSextets? hlt hb, hmap, String.ofList_toList]

/-- Decoding accepts exactly the texts that are written. -/
theorem decode?_eq_some_iff {s : String} {b : Bytes} : decode? s = some b ↔ s = encode b :=
  ⟨fun h => (encode_of_decode? h).symm, fun h => h ▸ decode?_encode b⟩

theorem encode_injective {a b : Bytes} (h : encode a = encode b) : a = b :=
  Option.some.inj ((decode?_encode a).symm.trans (decode?_eq_some_iff.mpr h))

theorem forall_mem_encode {P : Char → Prop} (h : ∀ n < 64, P (letter n)) (b : Bytes) :
    ∀ c ∈ (encode b).toList, P c := by
  rw [encode, String.toList_ofList, List.forall_mem_map]
  intro n hn
  exact h n (lt_of_mem_sextets hn)

theorem isAlphanum_of_mem_encode (b : Bytes) :
    ∀ c ∈ (encode b).toList, c.isAlphanum = true ∨ c = '-' ∨ c = '_' :=
  forall_mem_encode (by decide) b

private theorem length_sextets (b : Bytes) : (sextets b).length = (4 * b.length + 2) / 3 := by
  fun_induction sextets b with
  | case1 => rfl
  | case2 a => simp
  | case3 a b => simp
  | case4 a b c rest ih =>
    simp only [List.length_cons, ih]
    omega

/-- Three octets take four letters, and the last ones no more than they need. -/
theorem length_encode (b : Bytes) : (encode b).length = (4 * b.length + 2) / 3 := by
  rw [encode, String.length_ofList, List.length_map, length_sextets]

theorem length_encode_eq_iff {a b : Bytes} :
    (encode a).length = (encode b).length ↔ a.length = b.length := by
  rw [length_encode, length_encode]
  omega

/-- A segment that is written contains no dot. -/
theorem dot_not_mem_encode (b : Bytes) : '.' ∉ (encode b).toList := fun h =>
  forall_mem_encode (P := (· ≠ '.')) (by decide) b '.' h rfl

/-- A segment that is written contains no white space. -/
theorem isSpace_of_mem_encode (b : Bytes) : ∀ c ∈ (encode b).toList, Text.isSpace c = false :=
  forall_mem_encode (by decide) b

end IdentityToken.Base64Url
