import IdentityToken.Json.Render
import IdentityToken.Json.Scan
import IdentityToken.Proofs.Text.Octets
/-!
# Strings of JSON are read back

What `quoted` writes, `Scan.string` reads. Each written character is read as pieces that denote its
octets, whatever follows, so a whole string is read by putting together the pieces of its
characters.
-/

namespace IdentityToken.Json.Scan

open Text

/-- Octets inside a string are read as pieces that denote `value`, whatever follows them. -/
def ReadAs (written value : Bytes) : Prop :=
  ∃ ps, (∀ rest, pieces (written ++ rest) = (pieces rest).map fun (qs, b) => (ps ++ qs, b)) ∧
    ∀ qs, join (ps ++ qs) = (join qs).map (value ++ ·)

namespace ReadAs

theorem nil : ReadAs [] [] := ⟨[], by simp, by simp⟩

theorem append {w w' v v' : Bytes} (h : ReadAs w v) (h' : ReadAs w' v') :
    ReadAs (w ++ w') (v ++ v') := by
  obtain ⟨ps, hpieces, hjoin⟩ := h
  obtain ⟨qs, hpieces', hjoin'⟩ := h'
  refine ⟨ps ++ qs, ?_, ?_⟩
  · intro rest
    rw [List.append_assoc, hpieces, hpieces', Option.map_map]
    simp [Function.comp_def]
  · intro rs
    rw [List.append_assoc, hjoin, hjoin', Option.map_map]
    simp [Function.comp_def]

/-- An octet that is no control character, quotation mark or reverse solidus is read as it is. -/
theorem octet {b : UInt8} (hquote : b ≠ ascii '"') (hsolidus : b ≠ ascii '\\') (h : ¬b < 0x20) :
    ReadAs [b] [b] := by
  refine ⟨[.octet b], ?_, ?_⟩
  · intro rest
    rw [List.singleton_append, pieces.eq_def]
    simp only [hquote, hsolidus, h, if_false]
    cases pieces rest <;> rfl
  · intro qs
    rw [List.singleton_append, join]
    rfl

/-- A reverse solidus and a letter are read as the octet that the letter stands for. -/
theorem escaped {e o : UInt8} (hu : e ≠ ascii 'u') (h : escaped? e = some o) :
    ReadAs [ascii '\\', e] [o] := by
  have hquote : ascii '\\' ≠ ascii '"' := by decide
  refine ⟨[.octet o], ?_, ?_⟩
  · intro rest
    rw [List.cons_append, List.singleton_append, pieces.eq_def]
    simp only [hquote, hu, h, if_true, if_false]
    cases pieces rest <;> rfl
  · intro qs
    rw [List.singleton_append, join]
    rfl

theorem octets_toNat (c : Char) : octets c.toNat = String.utf8EncodeChar c := by
  rw [Scan.octets, Char.ofNat_toNat, utf8_eq_utf8List]
  simp [utf8List]

/-- Four hexadecimal digits are read as the character of that number. -/
theorem unit {d₁ d₂ d₃ d₄ : UInt8} {c : Char} (h : unit? d₁ d₂ d₃ d₄ = some c.toNat) :
    ReadAs [ascii '\\', ascii 'u', d₁, d₂, d₃, d₄] (String.utf8EncodeChar c) := by
  have hquote : ascii '\\' ≠ ascii '"' := by decide
  -- No character has the number of a half of a pair.
  have hvalid : c.toNat < 0xD800 ∨ 0xDFFF < c.toNat := c.valid.imp_right And.left
  have hhigh : isHigh c.toNat = false := by simp [isHigh]; omega
  have hlow : isLow c.toNat = false := by simp [isLow]; omega
  refine ⟨[.unit c.toNat], ?_, ?_⟩
  · intro rest
    simp only [List.cons_append, List.nil_append]
    rw [pieces.eq_def]
    simp only [hquote, h, if_true, if_false]
    cases pieces rest <;> rfl
  · intro qs
    rw [List.singleton_append, join.eq_def]
    simp only [hhigh, hlow, octets_toNat, Bool.false_eq_true, if_false]

/-- The two halves of a pair are read as the character that they make up. -/
theorem pair {d₁ d₂ d₃ d₄ e₁ e₂ e₃ e₄ : UInt8} {c : Char} (hc : 0x10000 ≤ c.toNat)
    (h : unit? d₁ d₂ d₃ d₄ = some (0xD800 + (c.toNat - 0x10000) / 0x400))
    (h' : unit? e₁ e₂ e₃ e₄ = some (0xDC00 + (c.toNat - 0x10000) % 0x400)) :
    ReadAs [ascii '\\', ascii 'u', d₁, d₂, d₃, d₄, ascii '\\', ascii 'u', e₁, e₂, e₃, e₄]
      (String.utf8EncodeChar c) := by
  have hquote : ascii '\\' ≠ ascii '"' := by decide
  have hbound : c.toNat < 0x110000 := by
    rcases c.valid with hlow | hhigh
    · exact Nat.lt_trans hlow (by decide)
    · exact hhigh.2
  have hhigh : isHigh (0xD800 + (c.toNat - 0x10000) / 0x400) = true := by simp [isHigh]; omega
  have hlow : isLow (0xDC00 + (c.toNat - 0x10000) % 0x400) = true := by simp [isLow]; omega
  have hnumber : 0x10000 + (0xD800 + (c.toNat - 0x10000) / 0x400 - 0xD800) * 0x400
      + (0xDC00 + (c.toNat - 0x10000) % 0x400 - 0xDC00) = c.toNat := by omega
  refine ⟨[.unit (0xD800 + (c.toNat - 0x10000) / 0x400),
    .unit (0xDC00 + (c.toNat - 0x10000) % 0x400)], ?_, ?_⟩
  · intro rest
    simp only [List.cons_append, List.nil_append]
    rw [pieces.eq_def]
    simp only [hquote, h, if_true, if_false]
    rw [pieces.eq_def]
    simp only [hquote, h', if_true, if_false]
    cases pieces rest <;> rfl
  · intro qs
    rw [List.cons_append, List.singleton_append, join.eq_def]
    simp only [hhigh, hlow, hnumber, octets_toNat, if_true]

/-- Octets of characters beyond 127 are read as they are. -/
theorem octets {b : Bytes} (h : ∀ o ∈ b, 0x80 ≤ o) : ReadAs b b := by
  induction b with
  | nil => exact nil
  | cons o b ih =>
    have ho : 0x80 ≤ o := h o (by simp)
    have hb : ReadAs b b := ih fun p hp => h p (List.mem_cons_of_mem _ hp)
    have hquote : o ≠ ascii '"' := by rintro rfl; revert ho; decide
    have hsolidus : o ≠ ascii '\\' := by rintro rfl; revert ho; decide
    have hcontrol : ¬o < 0x20 := by
      rw [UInt8.lt_iff_toNat_lt]
      rw [UInt8.le_iff_toNat_le] at ho
      have h80 : (0x80 : UInt8).toNat = 128 := rfl
      have h20 : (0x20 : UInt8).toNat = 32 := rfl
      omega
    exact (octet hquote hsolidus hcontrol).append hb

end ReadAs

private theorem unit?_hexDigit {n : Nat} (h : n < 0x20) :
    unit? (ascii '0') (ascii '0') (ascii (hexDigit (n / 16))) (ascii (hexDigit (n % 16)))
      = some n := by
  revert n; decide

private theorem hexDigit_lt {n : Nat} (h : n < 16) : (hexDigit n).toNat < 0x80 := by
  revert n; decide

private theorem utf8List_control {n : Nat} (h : n < 0x20) :
    utf8List ['\\', 'u', '0', '0', hexDigit (n / 16), hexDigit (n % 16)]
      = [ascii '\\', ascii 'u', ascii '0', ascii '0', ascii (hexDigit (n / 16)),
        ascii (hexDigit (n % 16))] := by
  have hhigh := utf8EncodeChar_of_lt (hexDigit_lt (show n / 16 < 16 by omega))
  have hlow := utf8EncodeChar_of_lt (hexDigit_lt (show n % 16 < 16 by omega))
  simp only [utf8List_cons, hhigh, hlow]
  rfl

theorem readAs_utf8EncodeChar {c : Char} (hquote : c ≠ '"') (hsolidus : c ≠ '\\')
    (h : ¬c.toNat < 0x20) : ReadAs (String.utf8EncodeChar c) (String.utf8EncodeChar c) := by
  by_cases hc : c.toNat < 0x80
  · have hne {d : Char} (hd : d.toNat < 0x80) (hcd : c ≠ d) : c.toNat.toUInt8 ≠ ascii d := by
      intro e
      apply hcd
      apply Char.toNat_inj.mp
      have ht := congrArg UInt8.toNat e
      simp only [ascii, Nat.toUInt8, UInt8.toNat_ofNat'] at ht
      omega
    have hcontrol : ¬c.toNat.toUInt8 < 0x20 := by
      rw [UInt8.lt_iff_toNat_lt]
      simp only [Nat.toUInt8, UInt8.toNat_ofNat', UInt8.toNat_ofNat]
      omega
    rw [utf8EncodeChar_of_lt hc]
    exact .octet (hne (by decide) hquote) (hne (by decide) hsolidus) hcontrol
  · exact .octets fun o ho => le_of_mem_utf8EncodeChar (by omega) ho

/-- Each character is read back from how it is escaped. -/
theorem readAs_escape (c : Char) : ReadAs (utf8List (escape c)) (String.utf8EncodeChar c) := by
  have hletter {d e : Char} (hd : c.toNat = d.toNat) (hu : ascii e ≠ ascii 'u')
      (he : escaped? (ascii e) = some (ascii d)) (hutf8 : String.utf8EncodeChar d = [ascii d])
      (hwritten : utf8List ['\\', e] = [ascii '\\', ascii e]) :
      ReadAs (utf8List ['\\', e]) (String.utf8EncodeChar c) := by
    rw [Char.toNat_inj.mp hd, hutf8, hwritten]
    exact .escaped hu he
  unfold escape
  split
  · next h => exact hletter (d := '"') (by rw [h]) (by decide) (by decide) rfl rfl
  split
  · next h => exact hletter (d := '\\') (by rw [h]) (by decide) (by decide) rfl rfl
  split
  · next h => exact hletter (d := '\x08') h (by decide) (by decide) rfl rfl
  split
  · next h => exact hletter (d := '\x09') h (by decide) (by decide) rfl rfl
  split
  · next h => exact hletter (d := '\x0a') h (by decide) (by decide) rfl rfl
  split
  · next h => exact hletter (d := '\x0c') h (by decide) (by decide) rfl rfl
  split
  · next h => exact hletter (d := '\x0d') h (by decide) (by decide) rfl rfl
  split
  · next h =>
    rw [utf8List_control h]
    exact .unit (unit?_hexDigit h)
  · next hquote hsolidus _ _ _ _ _ hcontrol =>
    rw [utf8List_cons, utf8List_nil, List.append_nil]
    exact readAs_utf8EncodeChar hquote hsolidus hcontrol

private theorem readAs_flatMap_escape (l : List Char) :
    ReadAs (utf8List (l.flatMap escape)) (utf8List l) := by
  induction l with
  | nil => exact .nil
  | cons c l ih =>
    rw [List.flatMap_cons, utf8List_append, utf8List_cons]
    exact (readAs_escape c).append ih

theorem eat_ascii (c : Char) (b : Bytes) : eat c (ascii c :: b) = some b := by
  simp [eat]

theorem eat_self {c : Char} (h : String.utf8EncodeChar c = [ascii c]) (l : List Char)
    (rest : Bytes) : eat c (utf8List (c :: l) ++ rest) = some (utf8List l ++ rest) := by
  rw [utf8List_cons, h]
  exact eat_ascii c _

theorem pieces_close {b value : Bytes} (h : ReadAs b value) :
    ∃ ps, (∀ rest, pieces (b ++ ascii '"' :: rest) = some (ps, rest)) ∧ join ps = some value := by
  obtain ⟨ps, hpieces, hjoin⟩ := h
  have hclose (rest : Bytes) : pieces (ascii '"' :: rest) = some ([], rest) := by
    rw [pieces.eq_def]
    rfl
  refine ⟨ps, fun rest => ?_, ?_⟩
  · rw [hpieces, hclose]
    simp
  · simpa [join] using hjoin []

/-- A text is read from what stands between quotation marks for it, and what follows is left. -/
theorem string_of_readAs {b : Bytes} {s : String} (h : ReadAs b (utf8 s)) (rest : Bytes) :
    string (ascii '"' :: (b ++ ascii '"' :: rest)) = some (s, rest) := by
  obtain ⟨ps, hpieces, hjoin⟩ := pieces_close h
  rw [string, eat_ascii]
  simp [hpieces, hjoin]

theorem anyString_of_readAs {b value : Bytes} (h : ReadAs b value) (rest : Bytes) :
    anyString (ascii '"' :: (b ++ ascii '"' :: rest)) = some ((), rest) := by
  obtain ⟨ps, hpieces, -⟩ := pieces_close h
  rw [anyString, eat_ascii]
  simp [hpieces]

/-- A text is read back from its quoted form, and what follows is left. -/
theorem string_quoted (s : String) (rest : Bytes) :
    string (utf8List (quoted s) ++ rest) = some (s, rest) := by
  have hread : ReadAs (utf8List (s.toList.flatMap escape)) (utf8 s) :=
    utf8_eq_utf8List s ▸ readAs_flatMap_escape s.toList
  have htext : utf8List (quoted s) ++ rest
      = ascii '"' :: (utf8List (s.toList.flatMap escape) ++ ascii '"' :: rest) := by
    rw [quoted, List.cons_append, utf8List_cons, utf8List_append]
    simp only [List.append_assoc]
    rfl
  rw [htext, string_of_readAs hread]

end IdentityToken.Json.Scan
