import IdentityToken.Proofs.Json.Lists
/-!
# JSON as it is written

A `Term` is what a text of JSON says when nothing is left out: numbers have as many digits as they
are given, and an object may list several members of one name. A term can be written in many ways:
blanks may stand around each mark, and characters of strings may be escaped or not. `Written` says
which octets write a term, without reading them. Each term can be written (`exists_document`).
-/

namespace IdentityToken.Json

open Scan Text

/-! ## Numbers -/

/-- Decimal digits, at least one. -/
def Digits (b : Bytes) : Prop := b ≠ [] ∧ ∀ o ∈ b, isDigit o = true

/-- The digits before the point: zero, or digits of which the first is not zero. -/
inductive IsWhole : Bytes → Prop where
  | zero : IsWhole [ascii '0']
  | digits {b : Bytes} (h : Digits b) (hzero : b.head? ≠ some (ascii '0')) : IsWhole b

/-- A point and the digits after it, or nothing. -/
inductive IsFraction : Bytes → Prop where
  | none : IsFraction []
  | point {b : Bytes} (h : Digits b) : IsFraction (ascii '.' :: b)

/-- A power of ten, or nothing. -/
inductive IsExponent : Bytes → Prop where
  | none : IsExponent []
  | power {mark : Char} {sign b : Bytes} (hmark : mark = 'e' ∨ mark = 'E')
      (hsign : sign = [] ∨ sign = [ascii '-'] ∨ sign = [ascii '+']) (h : Digits b) :
      IsExponent (ascii mark :: (sign ++ b))

/-- A number as it is written. -/
structure Numeral where
  sign : Bytes
  whole : Bytes
  fraction : Bytes
  exponent : Bytes
  isSign : sign = [] ∨ sign = [ascii '-']
  isWhole : IsWhole whole
  isFraction : IsFraction fraction
  isExponent : IsExponent exponent

/-- The octets of a number. -/
def Numeral.octets (n : Numeral) : Bytes := n.sign ++ (n.whole ++ (n.fraction ++ n.exponent))

/-- The values of digits. -/
def digitsOf (b : Bytes) : List Nat := b.map fun o => o.toNat - 0x30

/-- The digits after the point, if there is one. -/
def fractionOf : Bytes → Option (List Nat)
  | [] => none
  | _ :: b => some (digitsOf b)

/-- The integer that digits with a sign or without one spell. -/
def signedOf : Bytes → Int
  | [] => 0
  | o :: b =>
    if o = ascii '-' then -Literal.naturalOf (digitsOf b)
    else if o = ascii '+' then Literal.naturalOf (digitsOf b)
    else Literal.naturalOf (digitsOf (o :: b))

theorem signedOf_minus (b : Bytes) :
    signedOf (ascii '-' :: b) = -Literal.naturalOf (digitsOf b) := by
  rw [signedOf, if_pos rfl]

theorem signedOf_plus (b : Bytes) :
    signedOf (ascii '+' :: b) = Literal.naturalOf (digitsOf b) := by
  have hne : ascii '+' ≠ ascii '-' := by decide
  rw [signedOf, if_neg hne, if_pos rfl]

theorem signedOf_digits {b : Bytes} (h : Digits b) :
    signedOf b = Literal.naturalOf (digitsOf b) := by
  cases b with
  | nil => rfl
  | cons o b =>
    have hmark {c : Char} (hc : isDigit (ascii c) = false) : o ≠ ascii c := by
      rintro rfl
      exact Bool.false_ne_true (hc.symm.trans (h.2 _ (by simp)))
    rw [signedOf, if_neg (hmark (by decide)), if_neg (hmark (by decide))]

/-- The power of ten after its mark, if there is one. -/
def exponentOf : Bytes → Option Int
  | [] => none
  | _ :: b => some (signedOf b)

/-- What a number says: its sign, its digits and its power of ten. -/
def Numeral.literal (n : Numeral) : Literal :=
  ⟨!n.sign.isEmpty, digitsOf n.whole, fractionOf n.fraction, exponentOf n.exponent⟩

/-! ## Strings -/

/-- The characters that have a letter or mark of their own after a reverse solidus. -/
def letters : List (Char × Char) :=
  [('"', '"'), ('\\', '\\'), ('/', '/'), ('b', '\x08'), ('t', '\x09'), ('n', '\x0a'),
    ('f', '\x0c'), ('r', '\x0d')]

/-- A hexadecimal digit, whose letter may be small or capital. -/
def IsHex (n : Nat) (o : UInt8) : Prop :=
  n < 16 ∧ (o = ascii (hexDigit n) ∨ o = ascii (hexDigit n).toUpper)

/-- Four hexadecimal digits. -/
inductive IsUnit (n : Nat) : Bytes → Prop where
  | mk {a b c d : UInt8} (ha : IsHex (n / 4096) a) (hb : IsHex (n / 256 % 16) b)
      (hc : IsHex (n / 16 % 16) c) (hd : IsHex (n % 16) d) : IsUnit n [a, b, c, d]

/-- Characters as they are written inside a string. Each may be escaped by its number, which takes
two units beyond `U+FFFF`, and all but quotation marks, reverse solidi and control characters may
stand for themselves. -/
inductive Spelled : List Char → Bytes → Prop where
  | nil : Spelled [] []
  | plain {c : Char} {l : List Char} {b : Bytes} (hquote : c ≠ '"') (hsolidus : c ≠ '\\')
      (hcontrol : 0x20 ≤ c.toNat) (h : Spelled l b) :
      Spelled (c :: l) (String.utf8EncodeChar c ++ b)
  | letter {e c : Char} {l : List Char} {b : Bytes} (he : (e, c) ∈ letters) (h : Spelled l b) :
      Spelled (c :: l) (ascii '\\' :: ascii e :: b)
  | unit {c : Char} {l : List Char} {digits b : Bytes} (hdigits : IsUnit c.toNat digits)
      (h : Spelled l b) : Spelled (c :: l) (ascii '\\' :: ascii 'u' :: (digits ++ b))
  | pair {c : Char} {l : List Char} {high low b : Bytes} (hc : 0x10000 ≤ c.toNat)
      (hhigh : IsUnit (0xD800 + (c.toNat - 0x10000) / 0x400) high)
      (hlow : IsUnit (0xDC00 + (c.toNat - 0x10000) % 0x400) low) (h : Spelled l b) :
      Spelled (c :: l)
        (ascii '\\' :: ascii 'u' :: (high ++ ascii '\\' :: ascii 'u' :: (low ++ b)))

/-- What is written between quotation marks. -/
def quotation (b : Bytes) : Bytes := ascii '"' :: (b ++ [ascii '"'])

/-! ## Values -/

/-- What a text of JSON says. -/
inductive Term where
  | null
  | bool (value : Bool)
  | number (value : Numeral)
  | string (value : String)
  | array (items : List Term)
  | object (members : List (String × Term))

/-- A member of an object with how it is written: its name, the blanks around the colon, and the
text of its value. -/
structure Entry where
  name : String
  value : Term
  spelling : Bytes
  before : Bytes
  after : Bytes
  text : Bytes
  spelled : Spelled name.toList spelling
  blanks_before : Blanks before
  blanks_after : Blanks after

namespace Entry

/-- The member without how it is written. -/
def member (e : Entry) : String × Term := (e.name, e.value)

/-- The octets of a member. -/
def octets (e : Entry) : Bytes :=
  quotation e.spelling ++ (e.before ++ ascii ':' :: (e.after ++ e.text))

end Entry

/-- The octets write a value. -/
inductive Written : Term → Bytes → Prop where
  | null : Written .null (utf8List ['n', 'u', 'l', 'l'])
  | false : Written (.bool false) (utf8List ['f', 'a', 'l', 's', 'e'])
  | true : Written (.bool true) (utf8List ['t', 'r', 'u', 'e'])
  | number (n : Numeral) : Written (.number n) n.octets
  | string {s : String} {b : Bytes} (h : Spelled s.toList b) : Written (.string s) (quotation b)
  | array {items : List (Term × Bytes)} {b : Bytes} (each : ∀ x ∈ items, Written x.1 x.2)
      (h : Listed '[' ']' (items.map Prod.snd) b) : Written (.array (items.map Prod.fst)) b
  | object {entries : List Entry} {b : Bytes} (each : ∀ e ∈ entries, Written e.value e.text)
      (h : Listed '{' '}' (entries.map Entry.octets) b) :
      Written (.object (entries.map Entry.member)) b

/-- The octets are a text of JSON: a value with blanks around it. -/
inductive Document (t : Term) : Bytes → Prop where
  | mk {before b after : Bytes} (hbefore : Blanks before) (hafter : Blanks after)
      (h : Written t b) : Document t (before ++ (b ++ after))

/-! ## Every value can be written -/

private theorem exists_isUnit {n : Nat} (h : n < 0x10000) : ∃ digits, IsUnit n digits := by
  have hdigit (m : Nat) (hm : m < 16) : IsHex m (ascii (hexDigit m)) := ⟨hm, .inl rfl⟩
  exact ⟨_, .mk (hdigit _ (by omega)) (hdigit _ (by omega)) (hdigit _ (by omega))
    (hdigit _ (by omega))⟩

private theorem exists_spelled (l : List Char) : ∃ b, Spelled l b := by
  induction l with
  | nil => exact ⟨_, .nil⟩
  | cons c l ih =>
    obtain ⟨b, hb⟩ := ih
    by_cases hplain : c ≠ '"' ∧ c ≠ '\\' ∧ 0x20 ≤ c.toNat
    · exact ⟨_, .plain hplain.1 hplain.2.1 hplain.2.2 hb⟩
    · have hsmall : c.toNat < 0x10000 := by
        by_cases hquote : c = '"'
        · rw [hquote]
          decide
        · by_cases hsolidus : c = '\\'
          · rw [hsolidus]
            decide
          · have hcontrol : ¬0x20 ≤ c.toNat := fun h => hplain ⟨hquote, hsolidus, h⟩
            omega
      obtain ⟨digits, hdigits⟩ := exists_isUnit hsmall
      exact ⟨_, .unit hdigits hb⟩

private theorem exists_continued (parts : List Bytes) : ∃ b, Continued parts b := by
  induction parts with
  | nil => exact ⟨_, .nil⟩
  | cons part parts ih =>
    obtain ⟨b, hb⟩ := ih
    exact ⟨_, .cons blanks_nil blanks_nil hb⟩

private theorem exists_listed (opening close : Char) (parts : List Bytes) :
    ∃ b, Listed opening close parts b := by
  cases parts with
  | nil => exact ⟨_, .nil blanks_nil⟩
  | cons part parts =>
    obtain ⟨b, hb⟩ := exists_continued parts
    exact ⟨_, .cons blanks_nil blanks_nil hb⟩

mutual

private theorem exists_written : ∀ t : Term, ∃ b, Written t b
  | .null => ⟨_, .null⟩
  | .bool false => ⟨_, .false⟩
  | .bool true => ⟨_, .true⟩
  | .number n => ⟨_, .number n⟩
  | .string s => by
    obtain ⟨b, hb⟩ := exists_spelled s.toList
    exact ⟨_, .string hb⟩
  | .array terms => by
    obtain ⟨items, rfl, each⟩ := exists_items terms
    obtain ⟨b, hb⟩ := exists_listed '[' ']' (items.map Prod.snd)
    exact ⟨b, .array each hb⟩
  | .object members => by
    obtain ⟨entries, rfl, each⟩ := exists_entries members
    obtain ⟨b, hb⟩ := exists_listed '{' '}' (entries.map Entry.octets)
    exact ⟨b, .object each hb⟩

private theorem exists_items : ∀ terms : List Term,
    ∃ items : List (Term × Bytes), items.map Prod.fst = terms ∧ ∀ x ∈ items, Written x.1 x.2
  | [] => ⟨[], rfl, by simp⟩
  | t :: terms => by
    obtain ⟨b, hb⟩ := exists_written t
    obtain ⟨items, rfl, each⟩ := exists_items terms
    exact ⟨(t, b) :: items, rfl, List.forall_mem_cons.mpr ⟨hb, each⟩⟩

private theorem exists_entries : ∀ members : List (String × Term),
    ∃ entries : List Entry, entries.map Entry.member = members ∧
      ∀ e ∈ entries, Written e.value e.text
  | [] => ⟨[], rfl, by simp⟩
  | (name, t) :: members => by
    obtain ⟨spelling, hspelling⟩ := exists_spelled name.toList
    obtain ⟨b, hb⟩ := exists_written t
    obtain ⟨entries, rfl, each⟩ := exists_entries members
    let e : Entry := ⟨name, t, spelling, [], [], b, hspelling, blanks_nil, blanks_nil⟩
    exact ⟨e :: entries, rfl, List.forall_mem_cons.mpr ⟨hb, each⟩⟩

end

/-- Every value is what some text says. -/
theorem exists_document (t : Term) : ∃ b, Document t b := by
  obtain ⟨b, hb⟩ := exists_written t
  exact ⟨_, .mk blanks_nil blanks_nil hb⟩

end IdentityToken.Json
