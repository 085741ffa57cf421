import IdentityToken.Proofs.Json.Checks
import IdentityToken.Proofs.Json.Denotation
/-!
# Strings and numbers that are read are written

Whatever a scanner takes off the front of a text is a way to write what it finds. A string is taken
apart into pieces that may be less than a character; since the octets of a character tell where it
ends, the pieces that denote characters are a way to write these.
-/

namespace IdentityToken.Json.Scan

open Text

variable {b rest : Bytes}

/-! ## Strings -/

private theorem isHex_of_hexValue? {o : UInt8} {n : Nat} (h : hexValue? o = some n) :
    IsHex n o := by
  have hall : ∀ k : Fin 256, ∀ n ∈ hexValue? (.ofNat k), n < 16 ∧
      (UInt8.ofNat k = ascii (hexDigit n) ∨ UInt8.ofNat k = ascii (hexDigit n).toUpper) := by
    decide +kernel
  have ho : UInt8.ofNat o.toNat = o := UInt8.ofNat_toNat
  exact ho ▸ hall ⟨o.toNat, o.toNat_lt⟩ n (ho.symm ▸ h)

private theorem isUnit_of_unit? {d₁ d₂ d₃ d₄ : UInt8} {n : Nat}
    (h : unit? d₁ d₂ d₃ d₄ = some n) : IsUnit n [d₁, d₂, d₃, d₄] := by
  simp only [unit?, Option.bind_eq_bind, Option.bind_eq_some_iff, Option.some.injEq] at h
  obtain ⟨k₁, h₁, k₂, h₂, k₃, h₃, k₄, h₄, rfl⟩ := h
  have hlt₁ := (isHex_of_hexValue? h₁).1
  have hlt₂ := (isHex_of_hexValue? h₂).1
  have hlt₃ := (isHex_of_hexValue? h₃).1
  have hlt₄ := (isHex_of_hexValue? h₄).1
  obtain ⟨e₁, e₂, e₃, e₄⟩ : ((k₁ * 16 + k₂) * 256 + (k₃ * 16 + k₄)) / 4096 = k₁ ∧
      ((k₁ * 16 + k₂) * 256 + (k₃ * 16 + k₄)) / 256 % 16 = k₂ ∧
      ((k₁ * 16 + k₂) * 256 + (k₃ * 16 + k₄)) / 16 % 16 = k₃ ∧
      ((k₁ * 16 + k₂) * 256 + (k₃ * 16 + k₄)) % 16 = k₄ := by omega
  constructor
  · exact e₁.symm ▸ isHex_of_hexValue? h₁
  · exact e₂.symm ▸ isHex_of_hexValue? h₂
  · exact e₃.symm ▸ isHex_of_hexValue? h₃
  · exact e₄.symm ▸ isHex_of_hexValue? h₄

private theorem exists_letter_of_escaped? {e o : UInt8} (h : escaped? e = some o) :
    ∃ d c, (d, c) ∈ letters ∧ e = ascii d ∧ String.utf8EncodeChar c = [o] := by
  have hall : ∀ k : Fin 256, ∀ o ∈ escaped? (.ofNat k), ∃ p ∈ letters,
      UInt8.ofNat k = ascii p.1 ∧ String.utf8EncodeChar p.2 = [o] := by
    decide +kernel
  have he : UInt8.ofNat e.toNat = e := UInt8.ofNat_toNat
  obtain ⟨⟨d, c⟩, hmem, hd, hc⟩ := hall ⟨e.toNat, e.toNat_lt⟩ o (he.symm ▸ h)
  exact ⟨d, c, hmem, he.symm.trans hd, hc⟩

/-- The octets inside a string are taken apart into pieces. -/
inductive Taken : Bytes → List Piece → Prop where
  | nil : Taken [] []
  | plain {o : UInt8} {b : Bytes} {ps : List Piece} (hquote : o ≠ ascii '"')
      (hsolidus : o ≠ ascii '\\') (hcontrol : ¬o < 0x20) (h : Taken b ps) :
      Taken (o :: b) (.octet o :: ps)
  | letter {d c : Char} {o : UInt8} {b : Bytes} {ps : List Piece} (hd : (d, c) ∈ letters)
      (hc : String.utf8EncodeChar c = [o]) (h : Taken b ps) :
      Taken (ascii '\\' :: ascii d :: b) (.octet o :: ps)
  | unit {digits b : Bytes} {n : Nat} {ps : List Piece} (hdigits : IsUnit n digits)
      (h : Taken b ps) : Taken (ascii '\\' :: ascii 'u' :: (digits ++ b)) (.unit n :: ps)

theorem exists_taken {ps : List Piece} (h : pieces b = some (ps, rest)) :
    ∃ w, Taken w ps ∧ b = w ++ ascii '"' :: rest := by
  fun_induction pieces b generalizing ps with
  | case1 => cases h
  | case2 =>
    cases h
    exact ⟨[], .nil, rfl⟩
  | case3 => cases h
  | case4 d₁ d₂ d₃ d₄ b _ ih =>
    simp only [Option.bind_eq_bind, Option.bind_eq_some_iff, Option.some.injEq, Prod.mk.injEq] at h
    obtain ⟨n, hunit, ⟨qs, _⟩, hqs, rfl, rfl⟩ := h
    obtain ⟨w, hw, rfl⟩ := ih hqs
    exact ⟨_, .unit (isUnit_of_unit? hunit) hw, rfl⟩
  | case5 => cases h
  | case6 e b _ _ ih =>
    simp only [Option.bind_eq_bind, Option.bind_eq_some_iff, Option.some.injEq, Prod.mk.injEq] at h
    obtain ⟨o, he, ⟨qs, _⟩, hqs, rfl, rfl⟩ := h
    obtain ⟨w, hw, rfl⟩ := ih hqs
    obtain ⟨d, c, hd, rfl, hc⟩ := exists_letter_of_escaped? he
    exact ⟨_, .letter hd hc hw, rfl⟩
  | case7 => cases h
  | case8 o b hquote hsolidus hcontrol ih =>
    simp only [Option.bind_eq_bind, Option.bind_eq_some_iff, Option.some.injEq, Prod.mk.injEq] at h
    obtain ⟨⟨qs, _⟩, hqs, rfl, rfl⟩ := h
    obtain ⟨w, hw, rfl⟩ := ih hqs
    exact ⟨_, .plain hquote hsolidus hcontrol hw, rfl⟩

private theorem exists_char {n : Nat} (h : n < 0xD800 ∨ 0xDFFF < n ∧ n < 0x110000) :
    ∃ c : Char, c.toNat = n :=
  ⟨.ofNatAux n h, rfl⟩

/-- A unit that is read stands for a character, alone or with the one after it. -/
theorem join_unit_eq_some {n : Nat} {digits v : Bytes} {ps : List Piece}
    (hdigits : IsUnit n digits) (h : join (.unit n :: ps) = some v) :
    (∃ (c : Char) (v' : Bytes), c.toNat = n ∧ join ps = some v' ∧
      v = String.utf8EncodeChar c ++ v') ∨
    ∃ (c : Char) (m : Nat) (qs : List Piece) (v' : Bytes), ps = .unit m :: qs ∧
      0x10000 ≤ c.toNat ∧ n = 0xD800 + (c.toNat - 0x10000) / 0x400 ∧
      m = 0xDC00 + (c.toNat - 0x10000) % 0x400 ∧ join qs = some v' ∧
      v = String.utf8EncodeChar c ++ v' := by
  have hn : n < 0x10000 := by
    obtain ⟨⟨hlt, -⟩, -, -, -⟩ := hdigits
    omega
  rw [join.eq_def] at h
  simp only at h
  split at h
  · next hhigh =>
    simp only [isHigh, Bool.and_eq_true, decide_eq_true_eq] at hhigh
    split at h
    · next m qs =>
      split at h
      · next hlow =>
        simp only [isLow, Bool.and_eq_true, decide_eq_true_eq] at hlow
        obtain ⟨v', hv', hv⟩ := Option.map_eq_some_iff.mp h
        obtain ⟨c, hc⟩ : ∃ c : Char,
            c.toNat = 0x10000 + (n - 0xD800) * 0x400 + (m - 0xDC00) := exists_char (by omega)
        rw [← hc, ReadAs.octets_toNat] at hv
        exact .inr ⟨c, m, qs, v', rfl, by omega, by omega, by omega, hv', hv.symm⟩
      · cases h
    · cases h
  · next hhigh =>
    simp only [isHigh, Bool.and_eq_true, decide_eq_true_eq] at hhigh
    split at h
    · cases h
    · next hlow =>
      simp only [isLow, Bool.and_eq_true, decide_eq_true_eq] at hlow
      obtain ⟨v', hv', hv⟩ := Option.map_eq_some_iff.mp h
      obtain ⟨c, rfl⟩ : ∃ c : Char, c.toNat = n := exists_char (by omega)
      rw [ReadAs.octets_toNat] at hv
      exact .inl ⟨c, v', rfl, hv', hv.symm⟩

/-- Octets that can only follow others in a character stand for themselves. -/
theorem exists_taken_of_trailing {w v tail : Bytes} {ps : List Piece}
    (htail : ∀ o ∈ tail, ¬o.IsUTF8FirstByte) (h : Taken w ps) (hjoin : join ps = some (tail ++ v)) :
    ∃ w' qs, w = tail ++ w' ∧ Taken w' qs ∧ join qs = some v := by
  induction tail generalizing w ps with
  | nil => exact ⟨w, ps, rfl, h, hjoin⟩
  | cons p tail ih =>
    obtain ⟨hp, hrest⟩ := List.forall_mem_cons.mp htail
    have hfirst {c : Char} {v' : Bytes} : p :: tail ++ v ≠ String.utf8EncodeChar c ++ v' := by
      intro hv
      obtain ⟨o, l, hc⟩ := List.exists_cons_of_ne_nil (String.utf8EncodeChar_ne_nil (c := c))
      rw [hc, List.cons_append, List.cons_append] at hv
      obtain ⟨rfl, -⟩ := List.cons.inj hv
      exact hp (isUTF8FirstByte_of_utf8EncodeChar_eq hc).1
    -- All other pieces give whole characters, and these begin with a first octet.
    cases h with
    | nil => cases hjoin
    | @plain o w ps _ _ _ h =>
      obtain ⟨v', hv', hv⟩ := Option.map_eq_some_iff.mp hjoin
      obtain ⟨rfl, rfl⟩ := List.cons.inj hv
      obtain ⟨w', qs, rfl, hw', hqs⟩ := ih hrest h hv'
      exact ⟨w', qs, rfl, hw', hqs⟩
    | @letter d c o w ps _ hc h =>
      obtain ⟨v', -, hv⟩ := Option.map_eq_some_iff.mp hjoin
      rw [← List.singleton_append, ← hc] at hv
      exact absurd hv.symm hfirst
    | unit hdigits h =>
      rcases join_unit_eq_some hdigits hjoin with
        ⟨c, v', -, -, hv⟩ | ⟨c, m, qs, v', -, -, -, -, -, hv⟩
      · exact absurd hv hfirst
      · exact absurd hv hfirst

private theorem eq_nil_of_join {w : Bytes} {ps : List Piece} (h : Taken w ps)
    (hjoin : join ps = some []) : w = [] := by
  cases h with
  | nil => rfl
  | plain =>
    obtain ⟨_, -, hv⟩ := Option.map_eq_some_iff.mp hjoin
    cases hv
  | letter =>
    obtain ⟨_, -, hv⟩ := Option.map_eq_some_iff.mp hjoin
    cases hv
  | unit hdigits =>
    have hne {c : Char} {v : Bytes} : [] ≠ String.utf8EncodeChar c ++ v := fun h =>
      String.utf8EncodeChar_ne_nil (List.append_eq_nil_iff.mp h.symm).1
    rcases join_unit_eq_some hdigits hjoin with
      ⟨c, v', -, -, hv⟩ | ⟨c, m, qs, v', -, -, -, -, -, hv⟩
    · exact absurd hv hne
    · exact absurd hv hne

private theorem not_control {c : Char} {o : UInt8} {tail : Bytes}
    (hc : String.utf8EncodeChar c = o :: tail) (hcontrol : ¬o < 0x20) : 0x20 ≤ c.toNat := by
  refine Nat.not_lt.mp fun hlt => hcontrol ?_
  rw [utf8EncodeChar_of_lt (by omega)] at hc
  rw [← (List.cons.inj hc).1, UInt8.lt_iff_toNat_lt]
  simp only [Nat.toUInt8, UInt8.toNat_ofNat', UInt8.toNat_ofNat]
  omega

/-- Pieces that denote characters are a way to write them. -/
theorem spelled_of_taken {l : List Char} {w : Bytes} {ps : List Piece} (h : Taken w ps)
    (hjoin : join ps = some (utf8List l)) : Spelled l w := by
  -- The induction is on the characters, since one of them may take several pieces.
  induction l generalizing w ps with
  | nil =>
    rw [eq_nil_of_join h hjoin]
    exact .nil
  | cons c l ih =>
    rw [utf8List_cons] at hjoin
    obtain ⟨first, tail, hc⟩ := List.exists_cons_of_ne_nil (String.utf8EncodeChar_ne_nil (c := c))
    cases h with
    | nil =>
      rw [hc] at hjoin
      cases hjoin
    | @plain o w ps hquote hsolidus hcontrol h =>
      obtain ⟨v', hv', hv⟩ := Option.map_eq_some_iff.mp hjoin
      rw [hc, List.cons_append] at hv
      obtain ⟨rfl, rfl⟩ := List.cons.inj hv
      obtain ⟨w', qs, rfl, hw', hqs⟩ :=
        exists_taken_of_trailing (isUTF8FirstByte_of_utf8EncodeChar_eq hc).2 h hv'
      rw [← List.cons_append, ← hc]
      refine .plain ?_ ?_ (not_control hc hcontrol) (ih hw' hqs)
      · rintro rfl
        exact hquote (List.cons.inj hc).1.symm
      · rintro rfl
        exact hsolidus (List.cons.inj hc).1.symm
    | @letter d c' o w ps hd hc' h =>
      obtain ⟨v', hv', hv⟩ := Option.map_eq_some_iff.mp hjoin
      rw [← List.singleton_append, ← hc'] at hv
      obtain ⟨rfl, rfl⟩ := utf8EncodeChar_append_inj hv
      exact .letter hd (ih h hv')
    | @unit digits w n ps hdigits h =>
      rcases join_unit_eq_some hdigits hjoin with
        ⟨c', v', rfl, hv', hv⟩ | ⟨c', m, qs, v', rfl, hlarge, hn, hm, hv', hv⟩
      · obtain ⟨rfl, rfl⟩ := utf8EncodeChar_append_inj hv
        exact .unit hdigits (ih h hv')
      · obtain ⟨rfl, rfl⟩ := utf8EncodeChar_append_inj hv
        cases h with
        | unit hdigits' h => exact .pair hlarge (hn ▸ hdigits) (hm ▸ hdigits') (ih h hv')

/-- A string that is read is written between quotation marks. -/
theorem exists_spelled_of_string {s : String} (h : string b = some (s, rest)) :
    ∃ w, Spelled s.toList w ∧ b = quotation w ++ rest := by
  simp only [string, Option.bind_eq_bind, Option.bind_eq_some_iff, Option.some.injEq,
    Prod.mk.injEq] at h
  obtain ⟨tail, heat, ⟨ps, _⟩, hpieces, v, hjoin, _, htext, rfl, rfl⟩ := h
  obtain ⟨w, hw, rfl⟩ := exists_taken hpieces
  rw [ofUtf8?_eq_some_iff.mp htext, utf8_eq_utf8List] at hjoin
  refine ⟨w, spelled_of_taken hw hjoin, ?_⟩
  rw [eat_eq_some_iff.mp heat, quotation_append]

/-! ## Numbers -/

private theorem exists_digits {ds : List Nat} (h : digits₁ b = some (ds, rest)) :
    ∃ w, Digits w ∧ b = w ++ rest ∧ digitsOf w = ds := by
  have hfound : digits b = (ds, rest) ∧ ds ≠ [] := by
    unfold digits₁ at h
    split at h
    · cases h
    · next hne =>
      obtain hfound := Option.some.inj h
      exact ⟨hfound, fun hnil => hne rest (by rw [hfound, hnil])⟩
  obtain ⟨hds, hrest⟩ := Prod.mk.inj hfound.1
  refine ⟨b.takeWhile isDigit, ⟨?_, List.all_eq_true.mp List.all_takeWhile⟩, ?_, hds⟩
  · intro hnil
    rw [hnil] at hds
    exact hfound.2 hds.symm
  · rw [← hrest, List.takeWhile_append_dropWhile]

private theorem eq_zero_of_digitsOf {w : Bytes} (hw : Digits w) (h : digitsOf w = [0]) :
    w = [ascii '0'] := by
  obtain ⟨o, rfl, ho⟩ := List.map_eq_singleton_iff.mp h
  have h0 : (ascii '0').toNat = 0x30 := rfl
  have hdigit := hw.2 o (by simp)
  simp only [isDigit, Bool.and_eq_true, decide_eq_true_eq, UInt8.le_iff_toNat_le, h0] at hdigit
  exact congrArg (fun o => [o]) (UInt8.toNat_inj.mp (by omega))

private theorem exists_isWhole {ds : List Nat} (h : whole b = some (ds, rest)) :
    ∃ w, IsWhole w ∧ b = w ++ rest ∧ digitsOf w = ds := by
  simp only [whole, Option.bind_eq_bind, Option.bind_eq_some_iff] at h
  obtain ⟨⟨ds', rest'⟩, hdigits, h⟩ := h
  split at h
  · cases h
  · next hzero =>
    cases h
    obtain ⟨w, hw, hb, rfl⟩ := exists_digits hdigits
    refine ⟨w, ?_, hb, rfl⟩
    by_cases hhead : w.head? = some (ascii '0')
    · have hfirst : (digitsOf w).head? = some 0 := by
        rw [digitsOf, List.head?_map, hhead]
        rfl
      have hds : digitsOf w = [0] := Decidable.byContradiction fun hne => hzero ⟨hfirst, hne⟩
      rw [eq_zero_of_digitsOf hw hds]
      exact .zero
    · exact .digits hw hhead

private theorem exists_isFraction {fs : Option (List Nat)} (h : fraction b = some (fs, rest)) :
    ∃ w, IsFraction w ∧ b = w ++ rest ∧ fractionOf w = fs := by
  unfold fraction at h
  split at h
  · cases h
    exact ⟨[], .none, rfl, rfl⟩
  · next tail heat =>
    obtain ⟨⟨ds, _⟩, hdigits, h⟩ := Option.map_eq_some_iff.mp h
    cases h
    obtain ⟨w, hw, rfl, rfl⟩ := exists_digits hdigits
    exact ⟨_, .point hw, eat_eq_some_iff.mp heat, rfl⟩

private theorem exists_isExponent {e : Option Int} (h : exponent b = some (e, rest)) :
    ∃ w, IsExponent w ∧ b = w ++ rest ∧ exponentOf w = e := by
  unfold exponent at h
  split at h
  · cases h
    exact ⟨[], .none, rfl, rfl⟩
  · next tail heat =>
    obtain ⟨mark, hmark, rfl⟩ : ∃ mark, (mark = 'e' ∨ mark = 'E') ∧ b = ascii mark :: tail := by
      rcases Option.or_eq_some_iff.mp heat with he | ⟨-, he⟩
      · exact ⟨'e', .inl rfl, eat_eq_some_iff.mp he⟩
      · exact ⟨'E', .inr rfl, eat_eq_some_iff.mp he⟩
    simp only [Option.bind_eq_bind, Option.bind_eq_some_iff, Option.some.injEq, Prod.mk.injEq] at h
    obtain ⟨⟨ds, _⟩, hdigits, rfl, rfl⟩ := h
    cases hminus : eat '-' tail with
    | some tail' =>
      rw [hminus] at hdigits
      obtain ⟨w, hw, rfl, rfl⟩ := exists_digits hdigits
      refine ⟨ascii mark :: ([ascii '-'] ++ w), .power hmark (.inr (.inl rfl)) hw, ?_, ?_⟩
      · rw [eat_eq_some_iff.mp hminus]
        rfl
      · exact congrArg some (signedOf_minus w)
    | none =>
      rw [hminus] at hdigits
      cases hplus : eat '+' tail with
      | some tail' =>
        rw [hplus] at hdigits
        obtain ⟨w, hw, rfl, rfl⟩ := exists_digits hdigits
        refine ⟨ascii mark :: ([ascii '+'] ++ w), .power hmark (.inr (.inr rfl)) hw, ?_, ?_⟩
        · rw [eat_eq_some_iff.mp hplus]
          rfl
        · exact congrArg some (signedOf_plus w)
      | none =>
        rw [hplus] at hdigits
        obtain ⟨w, hw, rfl, rfl⟩ := exists_digits hdigits
        exact ⟨ascii mark :: ([] ++ w), .power hmark (.inl rfl) hw, rfl,
          congrArg some (signedOf_digits hw)⟩

/-- A number that is read is written with all its digits. -/
theorem exists_numeral_of_literal {l : Literal} (h : literal b = some (l, rest)) :
    ∃ n : Numeral, b = n.octets ++ rest ∧ n.literal = l := by
  simp only [literal, Option.bind_eq_bind, Option.bind_eq_some_iff, Option.some.injEq,
    Prod.mk.injEq] at h
  obtain ⟨⟨ds, b₁⟩, hwhole, ⟨fs, b₂⟩, hfraction, ⟨e, _⟩, hexponent, rfl, rfl⟩ := h
  obtain ⟨w, hw, hb, rfl⟩ := exists_isWhole hwhole
  obtain ⟨f, hf, rfl, rfl⟩ := exists_isFraction hfraction
  obtain ⟨x, hx, rfl, rfl⟩ := exists_isExponent hexponent
  cases heat : eat '-' b with
  | none =>
    rw [heat] at hb
    exact ⟨⟨[], w, f, x, .inl rfl, hw, hf, hx⟩, by simpa [Numeral.octets] using hb, rfl⟩
  | some tail =>
    rw [heat] at hb
    refine ⟨⟨[ascii '-'], w, f, x, .inr rfl, hw, hf, hx⟩, ?_, rfl⟩
    rw [eat_eq_some_iff.mp heat, show tail = _ from hb]
    simp [Numeral.octets]

end IdentityToken.Json.Scan
