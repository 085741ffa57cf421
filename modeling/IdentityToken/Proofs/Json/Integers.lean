import IdentityToken.Proofs.Json.Strings
/-!
# Integers of JSON are read back

An integer is written in decimal without needless zeros. It is read back when what follows cannot be
a part of a number: no digit, no point and no exponent.
-/

namespace IdentityToken.Json.Scan

open Text

/-- What follows cannot continue a number. -/
def EndsNumber (rest : Bytes) : Prop :=
  ∀ b ∈ rest.head?, isDigit b = false ∧ b ≠ ascii '.' ∧ b ≠ ascii 'e' ∧ b ≠ ascii 'E'

theorem endsNumber_nil : EndsNumber [] := by simp [EndsNumber]

theorem endsNumber_cons {b : UInt8} {rest : Bytes} (hdigit : isDigit b = false)
    (hmark : b ≠ ascii '.' ∧ b ≠ ascii 'e' ∧ b ≠ ascii 'E') : EndsNumber (b :: rest) := by
  intro c hc
  cases hc
  exact ⟨hdigit, hmark⟩

/-- The decimal digits of a natural as numbers. -/
def digitValues (n : Nat) : List Nat := (Nat.toDigits 10 n).map fun c => c.toNat - 0x30

private theorem toNat_digitChar {d : Nat} (h : d < 10) : d.digitChar.toNat - 0x30 = d := by
  revert d; decide

theorem digitValues_of_lt {n : Nat} (h : n < 10) : digitValues n = [n] := by
  simp [digitValues, Nat.toDigits_of_lt_base h, toNat_digitChar h]

theorem digitValues_of_le {n : Nat} (h : 10 ≤ n) :
    digitValues n = digitValues (n / 10) ++ [n % 10] := by
  simp [digitValues, Nat.toDigits_of_base_le (by decide) h,
    toNat_digitChar (Nat.mod_lt n (by decide))]

theorem naturalOf_append (ds : List Nat) (d : Nat) :
    Literal.naturalOf (ds ++ [d]) = 10 * Literal.naturalOf ds + d := by
  simp [Literal.naturalOf]

/-- The digits of a natural spell it. -/
theorem naturalOf_digitValues (n : Nat) : Literal.naturalOf (digitValues n) = n := by
  induction n using Nat.strongRecOn with
  | _ n ih =>
    by_cases h : n < 10
    · simp [digitValues_of_lt h, Literal.naturalOf]
    · rw [digitValues_of_le (by omega), naturalOf_append, ih (n / 10) (by omega)]
      omega

theorem digitValues_ne_nil (n : Nat) : digitValues n ≠ [] := by
  by_cases h : n < 10
  · simp [digitValues_of_lt h]
  · simp [digitValues_of_le (show 10 ≤ n by omega)]

/-- Only zero is written with a zero in front. -/
theorem eq_zero_of_head?_digitValues {n : Nat} (h : (digitValues n).head? = some 0) : n = 0 := by
  induction n using Nat.strongRecOn with
  | _ n ih =>
    by_cases hn : n < 10
    · simpa [digitValues_of_lt hn] using h
    · rw [digitValues_of_le (by omega), List.head?_append] at h
      cases hd : (digitValues (n / 10)).head? with
      | none => exact absurd (List.head?_eq_none_iff.mp hd) (digitValues_ne_nil _)
      | some d =>
        rw [hd, Option.some_or, ← hd] at h
        have := ih (n / 10) (by omega) h
        omega

private theorem isDigit_bounds {c : Char} (h : c.isDigit = true) :
    0x30 ≤ c.toNat ∧ c.toNat ≤ 0x39 := by
  simp only [Char.isDigit, Bool.and_eq_true, decide_eq_true_eq] at h
  obtain ⟨hlow, hhigh⟩ := h
  rw [ge_iff_le, UInt32.le_iff_toNat_le] at hlow
  rw [UInt32.le_iff_toNat_le] at hhigh
  exact ⟨hlow, hhigh⟩

private theorem toNat_ascii {c : Char} (h : c.toNat < 0x80) : (ascii c).toNat = c.toNat := by
  simp only [ascii, Nat.toUInt8, UInt8.toNat_ofNat']
  omega

private theorem isDigit_ascii {c : Char} (h : c.isDigit = true) : isDigit (ascii c) = true := by
  obtain ⟨hlow, hhigh⟩ := isDigit_bounds h
  have hc : (ascii c).toNat = c.toNat := toNat_ascii (by omega)
  have h0 : (ascii '0').toNat = 0x30 := rfl
  have h9 : (ascii '9').toNat = 0x39 := rfl
  simp only [isDigit, Bool.and_eq_true, decide_eq_true_eq, UInt8.le_iff_toNat_le]
  omega

private theorem utf8List_digits {l : List Char} (h : ∀ c ∈ l, c.isDigit = true) :
    utf8List l = l.map ascii := by
  induction l with
  | nil => rfl
  | cons c l ih =>
    have hc := (isDigit_bounds (h c (by simp))).2
    rw [utf8List_cons, utf8EncodeChar_of_lt (by omega),
      ih fun d hd => h d (List.mem_cons_of_mem _ hd)]
    rfl

private theorem takeWhile_dropWhile_of_head {rest : Bytes}
    (h : ∀ o ∈ rest.head?, isDigit o = false) :
    rest.takeWhile isDigit = [] ∧ rest.dropWhile isDigit = rest := by
  cases rest with
  | nil => simp
  | cons b rest =>
    have hb : isDigit b = false := h b rfl
    simp [hb]

/-- Digits are taken off the front up to the first octet that is none. -/
theorem digits_append {b rest : Bytes} (hb : ∀ o ∈ b, isDigit o = true)
    (h : ∀ o ∈ rest.head?, isDigit o = false) :
    digits (b ++ rest) = (b.map fun d => d.toNat - 0x30, rest) := by
  obtain ⟨htake, hdrop⟩ := takeWhile_dropWhile_of_head h
  rw [digits, List.takeWhile_append_of_pos hb, List.dropWhile_append_of_pos hb, htake, hdrop,
    List.append_nil]

theorem digits_toDigits (n : Nat) {rest : Bytes} (h : EndsNumber rest) :
    digits (utf8List (Nat.toDigits 10 n) ++ rest) = (digitValues n, rest) := by
  have hdigit : ∀ c ∈ Nat.toDigits 10 n, c.isDigit = true := fun c hc =>
    Nat.isDigit_of_mem_toDigits (by decide) (by decide) hc
  have hascii : ∀ b ∈ (Nat.toDigits 10 n).map ascii, isDigit b = true := by
    intro b hb
    obtain ⟨c, hc, rfl⟩ := List.mem_map.mp hb
    exact isDigit_ascii (hdigit c hc)
  rw [utf8List_digits hdigit, digits_append hascii fun o ho => (h o ho).1, List.map_map,
    digitValues]
  congr 1
  apply List.map_congr_left
  intro c hc
  have hc := (isDigit_bounds (hdigit c hc)).2
  simp [toNat_ascii (show c.toNat < 0x80 by omega)]

private theorem whole_toDigits (n : Nat) {rest : Bytes} (h : EndsNumber rest) :
    whole (utf8List (Nat.toDigits 10 n) ++ rest) = some (digitValues n, rest) := by
  have hzero : ¬((digitValues n).head? = some 0 ∧ digitValues n ≠ [0]) := by
    rintro ⟨hhead, hne⟩
    have hn : n = 0 := eq_zero_of_head?_digitValues hhead
    subst hn
    exact hne (digitValues_of_lt (by decide))
  have hfirst : digits₁ (utf8List (Nat.toDigits 10 n) ++ rest) = some (digitValues n, rest) := by
    rw [digits₁, digits_toDigits n h]
    cases hd : digitValues n with
    | nil => exact absurd hd (digitValues_ne_nil n)
    | cons d ds => rfl
  rw [whole, hfirst]
  simp [hzero]

theorem eat_eq_none {c : Char} {b : UInt8} {rest : Bytes} (h : b ≠ ascii c) :
    eat c (b :: rest) = none := by
  simp [eat, h]

theorem fraction_exponent_of_endsNumber {rest : Bytes} (h : EndsNumber rest) :
    fraction rest = some (none, rest) ∧ exponent rest = some (none, rest) := by
  cases rest with
  | nil => exact ⟨rfl, rfl⟩
  | cons b rest =>
    obtain ⟨_, hpoint, he, hE⟩ := h b rfl
    simp [fraction, exponent, eat, hpoint, he, hE]

private theorem literal_digits (n : Nat) {rest : Bytes} (h : EndsNumber rest) :
    literal (utf8List (Nat.toDigits 10 n) ++ rest)
      = some (⟨false, digitValues n, none, none⟩, rest) := by
  have hminus : eat '-' (utf8List (Nat.toDigits 10 n) ++ rest) = none := by
    have hdigit : ∀ c ∈ Nat.toDigits 10 n, c.isDigit = true := fun c hc =>
      Nat.isDigit_of_mem_toDigits (by decide) (by decide) hc
    rw [utf8List_digits hdigit]
    cases hl : Nat.toDigits 10 n with
    | nil => exact absurd (by simp [digitValues, hl]) (digitValues_ne_nil n)
    | cons c l =>
      apply eat_eq_none
      intro e
      have hc := isDigit_ascii (hdigit c (by simp [hl]))
      rw [e] at hc
      revert hc; decide
  obtain ⟨hfraction, hexponent⟩ := fraction_exponent_of_endsNumber h
  rw [literal, hminus]
  simp [whole_toDigits n h, hfraction, hexponent]

private theorem literal_minus_digits (n : Nat) {rest : Bytes} (h : EndsNumber rest) :
    literal (utf8List ('-' :: Nat.toDigits 10 n) ++ rest)
      = some (⟨true, digitValues n, none, none⟩, rest) := by
  obtain ⟨hfraction, hexponent⟩ := fraction_exponent_of_endsNumber h
  rw [literal, eat_self rfl]
  simp [whole_toDigits n h, hfraction, hexponent]

private theorem integer?_of_neg {n : Int}
    (hn : -0x8000000000000000 ≤ n ∧ n < 0x10000000000000000) (hneg : n < 0) :
    Literal.integer? ⟨true, digitValues n.natAbs, none, none⟩ = some (.int n hn) := by
  have hvalue : (0 : Int) < n.natAbs ∧ (n.natAbs : Int) ≤ 0x8000000000000000 := by omega
  have habs : -(n.natAbs : Int) = n := by omega
  simp only [Literal.integer?, naturalOf_digitValues, if_true]
  rw [dif_pos hvalue]
  simp only [habs]

private theorem integer?_of_nonneg {n : Int}
    (hn : -0x8000000000000000 ≤ n ∧ n < 0x10000000000000000) (hneg : ¬n < 0) :
    Literal.integer? ⟨false, digitValues n.natAbs, none, none⟩ = some (.int n hn) := by
  have hvalue : (n.natAbs : Int) < 0x10000000000000000 := by omega
  have habs : (n.natAbs : Int) = n := by omega
  simp only [Literal.integer?, naturalOf_digitValues, Bool.false_eq_true, if_false]
  rw [dif_pos hvalue]
  simp only [habs]

/-- An integer starts with a digit or a minus sign. -/
theorem utf8List_render_int {n : Int} (hn : -0x8000000000000000 ≤ n ∧ n < 0x10000000000000000) :
    ∃ o b, utf8List (Number.render (.int n hn)) = o :: b ∧ (isDigit o = true ∨ o = ascii '-') := by
  by_cases hneg : n < 0
  · refine ⟨ascii '-', utf8List (Nat.toDigits 10 n.natAbs), ?_, .inr rfl⟩
    simp only [Number.render, Number.renderInt, hneg, if_true, utf8List_cons]
    rfl
  · have hdigit : ∀ c ∈ Nat.toDigits 10 n.natAbs, c.isDigit = true := fun c hc =>
      Nat.isDigit_of_mem_toDigits (by decide) (by decide) hc
    simp only [Number.render, Number.renderInt, hneg, if_false, Number.digits,
      utf8List_digits hdigit]
    cases hl : Nat.toDigits 10 n.natAbs with
    | nil => exact absurd (by simp [digitValues, hl]) (digitValues_ne_nil n.natAbs)
    | cons c cs =>
      exact ⟨ascii c, cs.map ascii, rfl, .inl (isDigit_ascii (hdigit c (by simp [hl])))⟩

theorem number_of_literal {b rest : Bytes} {l : Literal} {n : Number}
    (hl : literal b = some (l, rest)) (hn : l.integer? = some n) :
    number b = some (n, rest) := by
  rw [number, hl]
  simp [Literal.number?, hn]

/-- An integer is read back, and what follows is left. -/
theorem number_int {n : Int} (hn : -0x8000000000000000 ≤ n ∧ n < 0x10000000000000000)
    {rest : Bytes} (h : EndsNumber rest) :
    number (utf8List (Number.render (.int n hn)) ++ rest) = some (.int n hn, rest) := by
  by_cases hneg : n < 0
  · have hrender : Number.render (.int n hn) = '-' :: Nat.toDigits 10 n.natAbs := by
      simp only [Number.render, Number.renderInt, hneg, if_true, Number.digits]
    rw [hrender]
    exact number_of_literal (literal_minus_digits _ h) (integer?_of_neg hn hneg)
  · have hrender : Number.render (.int n hn) = Nat.toDigits 10 n.natAbs := by
      simp only [Number.render, Number.renderInt, hneg, if_false, Number.digits]
    rw [hrender]
    exact number_of_literal (literal_digits _ h) (integer?_of_nonneg hn hneg)

end IdentityToken.Json.Scan
