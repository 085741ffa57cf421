import IdentityToken.Proofs.Json.Grammar
import IdentityToken.Proofs.Json.RoundTrip
/-!
# Values that are passed over

A reader that looks for some members of an object passes over the values of the others. It passes
over every value in every way of writing it: its depth, the size of its numbers and the names of its
members do not matter. Strings and nulls are read for what they are.
-/

namespace IdentityToken.Json.Scan

open Text

/-! ## Numbers -/

variable {b rest : Bytes}

private theorem digits₁_append (hb : Digits b) (h : ∀ o ∈ rest.head?, isDigit o = false) :
    digits₁ (b ++ rest) = some (digitsOf b, rest) := by
  rw [digits₁, digits_append hb.2 h]
  cases b with
  | nil => exact absurd rfl hb.1
  | cons o b => rfl

private theorem toNat_ne_zero {o : UInt8} (h : isDigit o = true) (hzero : o ≠ ascii '0') :
    o.toNat - 0x30 ≠ 0 := by
  have h0 : (ascii '0').toNat = 0x30 := rfl
  have hne : o.toNat ≠ 0x30 := fun e => hzero (UInt8.toNat_inj.mp (e.trans h0.symm))
  simp only [isDigit, Bool.and_eq_true, decide_eq_true_eq, UInt8.le_iff_toNat_le, h0] at h
  omega

private theorem whole_append (hb : IsWhole b) (h : ∀ o ∈ rest.head?, isDigit o = false) :
    whole (b ++ rest) = some (digitsOf b, rest) := by
  cases hb with
  | zero =>
    have hdigits : Digits [ascii '0'] := ⟨by simp, by simp; decide⟩
    rw [whole, digits₁_append hdigits h]
    rfl
  | digits hb hzero =>
    rw [whole, digits₁_append hb h]
    cases b with
    | nil => exact absurd rfl hb.1
    | cons o b =>
      -- Only zero is zero as a digit.
      have hne : o.toNat - 0x30 ≠ 0 := toNat_ne_zero (hb.2 o (by simp)) (by simpa using hzero)
      simp [digitsOf, hne]

private theorem fraction_append (hb : IsFraction b)
    (h : ∀ o ∈ rest.head?, isDigit o = false ∧ o ≠ ascii '.') :
    fraction (b ++ rest) = some (fractionOf b, rest) := by
  cases hb with
  | none =>
    have hpoint : eat '.' rest = none := by
      cases rest with
      | nil => rfl
      | cons o rest => exact eat_eq_none (h o rfl).2
    simp [fraction, hpoint, fractionOf]
  | @point b hb =>
    rw [fraction, List.cons_append, eat_ascii]
    simp only [digits₁_append hb fun o ho => (h o ho).1]
    rfl

private theorem exponent_append (hb : IsExponent b) (h : EndsNumber rest) :
    exponent (b ++ rest) = some (exponentOf b, rest) := by
  cases hb with
  | none => exact (fraction_exponent_of_endsNumber h).2
  | @power mark sign b hmark hsign hb =>
    have hmark (b : Bytes) :
        (eat 'e' (ascii mark :: b)).or (eat 'E' (ascii mark :: b)) = some b := by
      rcases hmark with rfl | rfl
      · simp [eat]
      · have hne : ascii 'E' ≠ ascii 'e' := by decide
        simp [eat, hne]
    have hdigits := digits₁_append hb fun o ho => (h o ho).1
    have hne : ascii '+' ≠ ascii '-' := by decide
    simp only [exponent, List.cons_append, List.append_assoc, hmark]
    rcases hsign with rfl | rfl | rfl
    · obtain ⟨o, b, rfl⟩ := List.exists_cons_of_ne_nil hb.1
      have hmark {c : Char} (hc : isDigit (ascii c) = false) : o ≠ ascii c := by
        rintro rfl
        exact Bool.false_ne_true (hc.symm.trans (hb.2 _ (by simp)))
      rw [List.cons_append] at hdigits
      simp only [List.nil_append, List.cons_append, eat_eq_none (hmark (c := '-') (by decide)),
        eat_eq_none (hmark (c := '+') (by decide)), Option.getD_none, hdigits]
      exact congrArg (fun n => some (some n, rest)) (signedOf_digits hb).symm
    · simp only [List.cons_append, List.nil_append, eat_ascii, hdigits]
      exact congrArg (fun n => some (some n, rest)) (signedOf_minus b).symm
    · simp only [List.cons_append, List.nil_append, eat_eq_none hne, eat_ascii, Option.getD_some,
        hdigits]
      exact congrArg (fun n => some (some n, rest)) (signedOf_plus b).symm

private theorem head?_exponent (hb : IsExponent b) (h : EndsNumber rest) :
    ∀ o ∈ (b ++ rest).head?, isDigit o = false ∧ o ≠ ascii '.' := by
  cases hb with
  | none => exact fun o ho => ⟨(h o ho).1, (h o ho).2.1⟩
  | power hmark _ _ =>
    intro o ho
    obtain rfl := Option.some.inj ho
    rcases hmark with rfl | rfl <;> exact ⟨by decide, by decide⟩

private theorem head?_fraction (hb : IsFraction b) (h : ∀ o ∈ rest.head?, isDigit o = false) :
    ∀ o ∈ (b ++ rest).head?, isDigit o = false := by
  cases hb with
  | none => exact h
  | point _ =>
    intro o ho
    obtain rfl := Option.some.inj ho
    decide

private theorem exists_cons_of_isWhole (hb : IsWhole b) :
    ∃ o tail, b = o :: tail ∧ isDigit o = true := by
  cases hb with
  | zero => exact ⟨_, _, rfl, by decide⟩
  | digits hb _ =>
    obtain ⟨o, tail, rfl⟩ := List.exists_cons_of_ne_nil hb.1
    exact ⟨o, tail, rfl, hb.2 o (by simp)⟩

/-- A number starts with a digit or a minus sign. -/
theorem exists_cons_octets (n : Numeral) :
    ∃ o tail, n.octets = o :: tail ∧ (isDigit o = true ∨ o = ascii '-') := by
  obtain ⟨o, tail, ho, hdigit⟩ := exists_cons_of_isWhole n.isWhole
  rcases n.isSign with hsign | hsign
  · exact ⟨o, _, by rw [Numeral.octets, hsign, ho]; rfl, .inl hdigit⟩
  · exact ⟨ascii '-', _, by rw [Numeral.octets, hsign]; rfl, .inr rfl⟩

/-- A number is found as it is written, with all its digits. -/
theorem literal_octets (n : Numeral) (h : EndsNumber rest) :
    literal (n.octets ++ rest) = some (n.literal, rest) := by
  have hexponent := head?_exponent n.isExponent h
  have hfraction := head?_fraction n.isFraction fun o ho => (hexponent o ho).1
  have hwhole := whole_append n.isWhole hfraction
  have htext : n.octets ++ rest
      = n.sign ++ (n.whole ++ (n.fraction ++ (n.exponent ++ rest))) := by simp [Numeral.octets]
  rcases n.isSign with hsign | hsign
  · have hminus : eat '-' (n.whole ++ (n.fraction ++ (n.exponent ++ rest))) = none := by
      obtain ⟨o, tail, ho, hdigit⟩ := exists_cons_of_isWhole n.isWhole
      rw [ho]
      apply eat_eq_none
      rintro rfl
      exact absurd hdigit (by decide)
    rw [htext, hsign, List.nil_append, literal, hminus]
    simp [hwhole, fraction_append n.isFraction hexponent, exponent_append n.isExponent h,
      Numeral.literal, hsign]
  · rw [htext, hsign, List.singleton_append, literal, eat_ascii]
    simp [hwhole, fraction_append n.isFraction hexponent, exponent_append n.isExponent h,
      Numeral.literal, hsign]

/-! ## Strings -/

private theorem hexValue?_of_isHex {n : Nat} {o : UInt8} (h : IsHex n o) :
    hexValue? o = some n := by
  have hdigits : ∀ m < 16, hexValue? (ascii (hexDigit m)) = some m ∧
      hexValue? (ascii (hexDigit m).toUpper) = some m := by decide
  obtain ⟨hn, rfl | rfl⟩ := h
  · exact (hdigits n hn).1
  · exact (hdigits n hn).2

private theorem exists_unit? {n : Nat} {b : Bytes} (h : IsUnit n b) :
    ∃ d₁ d₂ d₃ d₄, b = [d₁, d₂, d₃, d₄] ∧ unit? d₁ d₂ d₃ d₄ = some n := by
  cases h with
  | mk h₁ h₂ h₃ h₄ =>
    refine ⟨_, _, _, _, rfl, ?_⟩
    have hlead := h₁.1
    simp only [unit?, hexValue?_of_isHex h₁, hexValue?_of_isHex h₂, hexValue?_of_isHex h₃,
      hexValue?_of_isHex h₄, Option.bind_eq_bind, Option.bind_some, Option.some.injEq]
    omega

private theorem letter_of_mem {e c : Char} (h : (e, c) ∈ letters) :
    ascii e ≠ ascii 'u' ∧ ∃ o, escaped? (ascii e) = some o ∧ String.utf8EncodeChar c = [o] := by
  have hall : ∀ p ∈ letters, ascii p.1 ≠ ascii 'u' ∧
      escaped? (ascii p.1) = some (ascii p.2) ∧ String.utf8EncodeChar p.2 = [ascii p.2] := by
    decide
  obtain ⟨hu, hescaped, hutf8⟩ := hall _ h
  exact ⟨hu, _, hescaped, hutf8⟩

/-- Characters are read from how they are written inside a string. -/
theorem readAs_of_spelled {l : List Char} (h : Spelled l b) : ReadAs b (utf8List l) := by
  induction h with
  | nil => exact .nil
  | plain hquote hsolidus hcontrol _ ih =>
    rw [utf8List_cons]
    exact (readAs_utf8EncodeChar hquote hsolidus (Nat.not_lt.mpr hcontrol)).append ih
  | letter he _ ih =>
    obtain ⟨hu, o, hescaped, hutf8⟩ := letter_of_mem he
    rw [utf8List_cons, hutf8]
    exact (ReadAs.escaped hu hescaped).append ih
  | unit hdigits _ ih =>
    obtain ⟨d₁, d₂, d₃, d₄, rfl, hunit⟩ := exists_unit? hdigits
    rw [utf8List_cons]
    exact (ReadAs.unit hunit).append ih
  | pair hc hhigh hlow _ ih =>
    obtain ⟨d₁, d₂, d₃, d₄, rfl, hunit⟩ := exists_unit? hhigh
    obtain ⟨e₁, e₂, e₃, e₄, rfl, hunit'⟩ := exists_unit? hlow
    rw [utf8List_cons]
    exact (ReadAs.pair hc hunit hunit').append ih

theorem quotation_append (b rest : Bytes) :
    quotation b ++ rest = ascii '"' :: (b ++ ascii '"' :: rest) := by
  simp [quotation]

/-- A text is read from each way to write it. -/
theorem string_quotation {s : String} (h : Spelled s.toList b) (rest : Bytes) :
    string (quotation b ++ rest) = some (s, rest) := by
  have hread : ReadAs b (utf8 s) := utf8_eq_utf8List s ▸ readAs_of_spelled h
  rw [quotation_append, string_of_readAs hread]

theorem anyString_quotation {l : List Char} (h : Spelled l b) (rest : Bytes) :
    anyString (quotation b ++ rest) = some ((), rest) := by
  rw [quotation_append, anyString_of_readAs (readAs_of_spelled h)]

/-! ## Values -/

theorem startsScalar_quotation (b : Bytes) : StartsScalar (quotation b) :=
  startsScalar_ascii (c := '"') (by simp) _

theorem startsScalar_octets (n : Numeral) : StartsScalar n.octets := by
  obtain ⟨o, tail, ho, hdigit⟩ := exists_cons_octets n
  obtain ⟨hblank, hmark⟩ := isDigit_ne hdigit
  exact ⟨o, tail, ho, hblank, fun c hc => hmark c (List.mem_append_right ['n', 't', 'f', '"'] hc)⟩

/-- A list starts with the mark that opens it. -/
theorem exists_cons_of_listed {opening close : Char} {parts : List Bytes}
    (h : Listed opening close parts b) : ∃ tail, b = ascii opening :: tail := by
  cases h with
  | nil => exact ⟨_, rfl⟩
  | cons => exact ⟨_, rfl⟩

/-- After blanks a list starts with its mark. -/
theorem skipBlanks_of_listed {opening close : Char} {parts : List Bytes} {gap : Bytes}
    (hopening : isBlank (ascii opening) = false) (hgap : Blanks gap)
    (h : Listed opening close parts b) (rest : Bytes) :
    ∃ tail, b = ascii opening :: tail ∧
      skipBlanks (gap ++ (b ++ rest)) = ascii opening :: (tail ++ rest) := by
  obtain ⟨tail, rfl⟩ := exists_cons_of_listed h
  exact ⟨tail, rfl, by rw [skipBlanks_append hgap, List.cons_append, skipBlanks_cons hopening]⟩

theorem starts_of_written {t : Term} (h : Written t b) : Starts b := by
  cases h with
  | null => exact (startsScalar_ascii (c := 'n') (by simp) _).starts
  | false => exact (startsScalar_ascii (c := 'f') (by simp) _).starts
  | true => exact (startsScalar_ascii (c := 't') (by simp) _).starts
  | number n => exact (startsScalar_octets n).starts
  | string _ => exact (startsScalar_quotation _).starts
  | array _ h =>
    obtain ⟨tail, rfl⟩ := exists_cons_of_listed h
    exact ⟨_, tail, rfl, by decide, by decide, by decide⟩
  | object _ h =>
    obtain ⟨tail, rfl⟩ := exists_cons_of_listed h
    exact ⟨_, tail, rfl, by decide, by decide, by decide⟩

theorem Entry.starts_octets (e : Entry) : Starts e.octets :=
  (startsScalar_quotation e.spelling).starts.append _

private theorem length_lt_of_continued {parts : List Bytes} (h : Continued parts b) :
    ∀ p ∈ parts, p.length < b.length := by
  induction h with
  | nil => simp
  | cons _ _ _ ih =>
    refine List.forall_mem_cons.mpr ⟨?_, fun p hp => ?_⟩
    · simp only [List.length_append, List.length_cons]
      omega
    · have := ih p hp
      simp only [List.length_append, List.length_cons]
      omega

private theorem length_lt_of_listed {opening close : Char} {parts : List Bytes}
    (h : Listed opening close parts b) : ∀ p ∈ parts, p.length < b.length := by
  cases h with
  | nil => simp
  | cons _ _ h =>
    refine List.forall_mem_cons.mpr ⟨?_, fun p hp => ?_⟩
    · simp only [List.length_append, List.length_cons]
      omega
    · have := length_lt_of_continued h p hp
      simp only [List.length_append, List.length_cons]
      omega

private theorem anyValueWithin_of_startsScalar (h : StartsScalar (skipBlanks b)) (d : Nat) :
    anyValueWithin d b = anyScalar (skipBlanks b) := by
  obtain ⟨o, tail, ho, hblank, hmark⟩ := h
  cases d with
  | zero => rfl
  | succ d =>
    have hsquare : o ≠ ascii '[' := hmark _ (by simp)
    have hcurly : o ≠ ascii '{' := hmark _ (by simp)
    simp only [anyValueWithin, ho, hsquare, hcurly, if_false]

private theorem reads_any_of_scalar (hstart : StartsScalar b)
    (h : ∀ rest, EndsNumber rest → anyScalar (b ++ rest) = some ((), rest)) (d : Nat) :
    Reads (anyValueWithin d) b (some ()) := by
  intro gap rest hgap hrest
  obtain ⟨o, tail, rfl, hblank, hmark⟩ := hstart
  have hskip : skipBlanks (gap ++ (o :: tail ++ rest)) = o :: tail ++ rest := by
    rw [skipBlanks_append hgap, List.cons_append, skipBlanks_cons hblank]
  have hscalar : StartsScalar (skipBlanks (gap ++ (o :: tail ++ rest))) := by
    rw [hskip]
    exact ⟨o, tail ++ rest, rfl, hblank, hmark⟩
  rw [anyValueWithin_of_startsScalar hscalar, hskip, h rest hrest]
  rfl

private theorem anyScalar_octets (n : Numeral) (h : EndsNumber rest) :
    anyScalar (n.octets ++ rest) = some ((), rest) := by
  have hl := literal_octets n h
  obtain ⟨o, tail, ho, hdigit⟩ := exists_cons_octets n
  obtain ⟨-, hmark⟩ := isDigit_ne hdigit
  rw [ho, List.cons_append] at hl ⊢
  simp only [anyScalar, hmark _ (show 'n' ∈ _ by simp), hmark _ (show 't' ∈ _ by simp),
    hmark _ (show 'f' ∈ _ by simp), hmark _ (show '"' ∈ _ by simp), if_false, hl]
  rfl

private theorem anyScalar_quotation {l : List Char} (h : Spelled l b) (rest : Bytes) :
    anyScalar (quotation b ++ rest) = some ((), rest) := by
  have hscalar : anyScalar (quotation b ++ rest) = anyString (quotation b ++ rest) := rfl
  rw [hscalar, anyString_quotation h]

private theorem anyValueWithin_array {tail : Bytes} (h : skipBlanks b = ascii '[' :: tail)
    (d : Nat) :
    anyValueWithin (d + 1) b
      = (items '[' ']' (fun _ => anyValueWithin d) (ascii '[' :: tail)).map
        fun (_, rest) => ((), rest) := by
  simp only [anyValueWithin, h, if_true]

private theorem anyValueWithin_object {tail : Bytes} (h : skipBlanks b = ascii '{' :: tail)
    (d : Nat) :
    anyValueWithin (d + 1) b
      = (items '{' '}' (fun _ => member anyString fun _ => anyValueWithin d)
        (ascii '{' :: tail)).map fun (_, rest) => ((), rest) := by
  have hne : ascii '{' ≠ ascii '[' := by decide
  simp only [anyValueWithin, h, hne, if_true, if_false]

/-- A list is passed over when its parts are, on a level below. -/
private theorem reads_any_of_listed {α : Type} {opening close : Char} {parts : List Bytes}
    {item : Nat → Scan α} (x : α) (hopening : isBlank (ascii opening) = false)
    (hclose : Closes close) (h : Listed opening close parts b) {d : Nat} (hd : b.length ≤ d)
    (hany : ∀ {b tail : Bytes} (d : Nat), skipBlanks b = ascii opening :: tail →
      anyValueWithin (d + 1) b = (items opening close (fun _ => item d) (ascii opening :: tail)).map
        fun (_, rest) => ((), rest))
    (hstart : ∀ p ∈ parts, Starts p)
    (hread : ∀ p ∈ parts, ∀ d, p.length ≤ d → Reads (item d) p (some x)) :
    Reads (anyValueWithin d) b (some ()) := by
  intro gap rest hgap _
  have hlength := length_lt_of_listed h
  obtain ⟨tail, htail, hskip⟩ := skipBlanks_of_listed hopening hgap h rest
  cases d with
  | zero =>
    rw [htail, List.length_cons] at hd
    omega
  | succ d =>
    have hitems : items opening close (fun _ => item d) (b ++ rest)
        = (parts.mapM fun _ => some x).map fun xs => (xs, rest) := by
      refine items_listed hclose ((List.map_id parts).symm ▸ h) hstart (fun p hp _ => ?_) rest
      have := hlength p hp
      exact hread p hp d (by omega)
    have hall : (parts.mapM fun _ => some x) = some (parts.map fun _ => x) := List.mapM_pure
    rw [hany d hskip, ← List.cons_append, ← htail, hitems, hall]
    rfl

/-- A value is passed over by a reader that may go down as many levels as the value has octets. -/
theorem reads_anyValueWithin {t : Term} (h : Written t b) {d : Nat} (hd : b.length ≤ d) :
    Reads (anyValueWithin d) b (some ()) := by
  induction h generalizing d with
  | null => exact reads_any_of_scalar (startsScalar_ascii (c := 'n') (by simp) _) (fun _ _ => rfl) d
  | false =>
    exact reads_any_of_scalar (startsScalar_ascii (c := 'f') (by simp) _) (fun _ _ => rfl) d
  | true => exact reads_any_of_scalar (startsScalar_ascii (c := 't') (by simp) _) (fun _ _ => rfl) d
  | number n =>
    exact reads_any_of_scalar (startsScalar_octets n) (fun _ h => anyScalar_octets n h) d
  | string hs =>
    exact reads_any_of_scalar (startsScalar_quotation _)
      (fun rest _ => anyScalar_quotation hs rest) d
  | @array xs b each h ih =>
    refine reads_any_of_listed () (by decide) (.inl rfl) h hd
      (fun d hb => anyValueWithin_array hb d) ?_ ?_
    · exact List.forall_mem_map.mpr fun x hx => starts_of_written (each x hx)
    · exact List.forall_mem_map.mpr fun x hx d => ih x hx
  | @object entries b each h ih =>
    refine reads_any_of_listed ((), ()) (by decide) (.inr rfl) h hd
      (fun d hb => anyValueWithin_object hb d) ?_ ?_
    · exact List.forall_mem_map.mpr fun e _ => Entry.starts_octets e
    · refine List.forall_mem_map.mpr fun e he d hlength => ?_
      have htext : e.text.length ≤ d := by
        simp only [Entry.octets, List.length_append, List.length_cons] at hlength
        omega
      have hvalue : Reads (anyValueWithin d) e.text (some ()) := ih e he htext
      have hmember : Reads (member anyString fun _ => anyValueWithin d) e.octets
          ((some ()).map fun x => ((), x)) :=
        reads_member (anyString_quotation e.spelled) (startsScalar_quotation _).starts
          e.blanks_before e.blanks_after hvalue
      exact hmember

/-- Every value is passed over. -/
theorem reads_anyValue {t : Term} (h : Written t b) : Reads anyValue b (some ()) := by
  intro gap rest hgap hrest
  exact reads_anyValueWithin h (by simp only [List.length_append]; omega) gap rest hgap hrest

end IdentityToken.Json.Scan
