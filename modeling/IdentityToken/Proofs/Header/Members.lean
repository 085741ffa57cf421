import IdentityToken.Proofs.Header
import IdentityToken.Proofs.Outcome
/-!
# What the members of an object say about a header

An object is a header exactly if it names one algorithm and says at most one thing about each of the
other fields. In which order its members stand, what else is among them and how they are written
does not matter.
-/

namespace IdentityToken.Header

open Text Json Json.Scan

/-! ## Fields -/

/-- What a value says about the field of a name; null stands for absence. -/
def readField? (name : String) : Term → Option (Option String)
  | .null => if name = "alg" then none else some none
  | .string s => some (some s)
  | _ => none

private theorem reads_none {b tail : Bytes} {o : UInt8} (hb : b = o :: tail)
    (hblank : isBlank o = false) (hnull : o ≠ ascii 'n') (hquote : o ≠ ascii '"') (name : String) :
    Reads (scanField name) b none := by
  intro gap rest hgap _
  have hskip : skipBlanks (gap ++ (b ++ rest)) = o :: (tail ++ rest) := by
    rw [hb, skipBlanks_append hgap, List.cons_append, skipBlanks_cons hblank]
  simp only [scanField, hskip, word_of_ne hnull, string_of_ne hquote, ite_self]
  rfl

private theorem reads_null (name : String) :
    Reads (scanField name) (utf8List ['n', 'u', 'l', 'l']) (readField? name .null) := by
  intro gap rest hgap _
  have hskip : skipBlanks (gap ++ (utf8List ['n', 'u', 'l', 'l'] ++ rest))
      = utf8List ['n', 'u', 'l', 'l'] ++ rest :=
    (skipBlanks_append hgap _).trans (skipBlanks_cons (by decide) _)
  have hword : word ['n', 'u', 'l', 'l'] (utf8List ['n', 'u', 'l', 'l'] ++ rest) = some rest := rfl
  have hstring : Scan.string (utf8List ['n', 'u', 'l', 'l'] ++ rest) = none :=
    string_of_ne (by decide) _
  by_cases hname : name = "alg"
  · simp only [scanField, hskip, hname, if_true, hstring, readField?]
    rfl
  · simp only [scanField, hskip, hname, if_false, hword, readField?]
    rfl

/-- A field is read from its value, however that is written. -/
theorem reads_scanField_of_written (name : String) {t : Term} {b : Bytes} (h : Written t b) :
    Reads (scanField name) b (readField? name t) := by
  cases h with
  | null => exact reads_null name
  | false | true => exact reads_none rfl (by decide) (by decide) (by decide) name
  | number n =>
    obtain ⟨o, tail, ho, hdigit⟩ := exists_cons_octets n
    obtain ⟨hblank, hmark⟩ := isDigit_ne hdigit
    exact reads_none ho hblank (hmark _ (by simp)) (hmark _ (by simp)) name
  | string h => exact reads_scanField rfl (string_quotation h) name
  | array _ h | object _ h =>
    obtain ⟨tail, htail⟩ := exists_cons_of_listed h
    exact reads_none htail (by decide) (by decide) (by decide) name

/-! ## Values by name -/

/-- The values that are listed under a name. -/
def valuesOf (name : String) (fields : List (String × Term)) : List Term :=
  (fields.filter (·.1 == name)).map Prod.snd

/-- What the values under a name say about its field, of which there should be at most one. -/
def onlyField? (name : String) : List Term → Option (Option (Option String))
  | [] => some none
  | [t] => (readField? name t).map some
  | _ => none

/-- What a member says about its field. -/
def readMember? (m : String × Term) : Option (String × Option String) :=
  (readField? m.1 m.2).map fun x => (m.1, x)

theorem ofJson?_document {fields : List (String × Term)} {b : Bytes}
    (hb : Document (.object fields) b) :
    ofJson? b = ((fields.filter (·.1 ∈ names)).mapM readMember?).bind ofFields? := by
  have hread : complete (Scan.fields names scanField) b
      = (fields.filter (·.1 ∈ names)).mapM readMember? :=
    complete_fields_document (fun name _ t b h => reads_scanField_of_written name h) hb
  rw [ofJson?, fields?, hread]

private theorem mapM_cons_eq_some_iff {m : String × Term} {fields : List (String × Term)}
    {found : List (String × Option String)} :
    (m :: fields).mapM readMember? = some found ↔ ∃ x others, readField? m.1 m.2 = some x ∧
      fields.mapM readMember? = some others ∧ found = (m.1, x) :: others := by
  simp only [List.mapM_cons, readMember?, Option.bind_eq_bind, Option.bind_eq_some_iff,
    Option.map_eq_some_iff, Option.pure_def, Option.some.injEq]
  constructor
  · rintro ⟨_, ⟨x, hx, rfl⟩, others, hothers, rfl⟩
    exact ⟨x, others, hx, hothers, rfl⟩
  · rintro ⟨x, others, hx, hothers, rfl⟩
    exact ⟨_, ⟨x, hx, rfl⟩, others, hothers, rfl⟩

private theorem mapM_filter {fields : List (String × Term)} {found : List (String × Option String)}
    (h : fields.mapM readMember? = some found) (name : String) :
    (fields.filter (·.1 == name)).mapM readMember? = some (found.filter (·.1 == name)) := by
  induction fields generalizing found with
  | nil =>
    cases h
    rfl
  | cons m fields ih =>
    obtain ⟨x, others, hx, hothers, rfl⟩ := mapM_cons_eq_some_iff.mp h
    simp only [List.filter_cons]
    cases m.1 == name with
    | true => exact mapM_cons_eq_some_iff.mpr ⟨x, _, hx, ih hothers, rfl⟩
    | false => exact ih hothers

/-- The only field of a name is what the values under the name say. -/
private theorem unique?_eq_onlyField? {fields : List (String × Term)}
    {found : List (String × Option String)} (h : fields.mapM readMember? = some found)
    (name : String) : Fields.unique? name found = onlyField? name (valuesOf name fields) := by
  have hfilter := mapM_filter h name
  have hname : ∀ m ∈ fields.filter (·.1 == name), m.1 = name := fun m hm =>
    eq_of_beq (List.mem_filter.mp hm).2
  rw [Fields.unique?, valuesOf]
  generalize fields.filter (·.1 == name) = ms at hfilter hname ⊢
  generalize found.filter (·.1 == name) = xs at hfilter ⊢
  rcases ms with _ | ⟨m, _ | ⟨m', ms⟩⟩
  · cases hfilter
    rfl
  · obtain ⟨x, others, hx, hothers, rfl⟩ := mapM_cons_eq_some_iff.mp hfilter
    rw [List.mapM_nil] at hothers
    cases hothers
    rw [hname m (by simp)] at hx
    simp only [List.map_cons, List.map_nil, onlyField?, hx, Option.map_some]
  · obtain ⟨x, others, -, hothers, rfl⟩ := mapM_cons_eq_some_iff.mp hfilter
    obtain ⟨x', others', -, -, rfl⟩ := mapM_cons_eq_some_iff.mp hothers
    rfl

private theorem exists_mapM {fields : List (String × Term)}
    (h : ∀ m ∈ fields, ∃ x, readField? m.1 m.2 = some x) :
    ∃ found, fields.mapM readMember? = some found := by
  induction fields with
  | nil => exact ⟨[], rfl⟩
  | cons m fields ih =>
    obtain ⟨hm, hfields⟩ := List.forall_mem_cons.mp h
    obtain ⟨x, hx⟩ := hm
    obtain ⟨others, hothers⟩ := ih hfields
    exact ⟨_, mapM_cons_eq_some_iff.mpr ⟨x, others, hx, hothers, rfl⟩⟩

/-- Some values under each name say something about its field, if there is at most one of them. -/
private theorem exists_readField? {name : String} {values : List Term} {x : Option (Option String)}
    (h : onlyField? name values = some x) : ∀ t ∈ values, ∃ y, readField? name t = some y := by
  rcases values with _ | ⟨t, _ | ⟨t', values⟩⟩
  · simp
  · obtain ⟨y, hy, -⟩ := Option.map_eq_some_iff.mp h
    simpa using ⟨y, hy⟩
  · cases h

theorem valuesOf_filter {name : String} (h : name ∈ names) (fields : List (String × Term)) :
    valuesOf name (fields.filter (·.1 ∈ names)) = valuesOf name fields := by
  rw [valuesOf, valuesOf, List.filter_filter]
  congr 1
  apply List.filter_congr
  intro m _
  cases hm : m.1 == name with
  | false => rfl
  | true => simp [eq_of_beq hm, h]

private theorem unique?_of_known {fields : List (String × Term)}
    {found : List (String × Option String)}
    (h : (fields.filter (·.1 ∈ names)).mapM readMember? = some found) {name : String}
    (hname : name ∈ names) :
    Fields.unique? name found = onlyField? name (valuesOf name fields) := by
  rw [unique?_eq_onlyField? h, valuesOf_filter hname]

/-! ## Headers -/

/-- An optional field: a text if it is present, otherwise null or nothing. -/
def Gives (values : List Term) : Option String → Prop
  | some s => values = [.string s]
  | none => values = [] ∨ values = [.null]

/-- What members mean as a header. -/
structure Means (fields : List (String × Term)) (h : Header) : Prop where
  alg : valuesOf "alg" fields = [.string h.alg]
  enc : Gives (valuesOf "enc" fields) h.enc
  cty : Gives (valuesOf "cty" fields) h.cty
  typ : Gives (valuesOf "typ" fields) h.typ

private theorem onlyField?_alg {values : List Term} {s : String} :
    onlyField? "alg" values = some (some (some s)) ↔ values = [.string s] := by
  rcases values with _ | ⟨t, _ | ⟨t', values⟩⟩
  · simp [onlyField?]
  · cases t <;> simp [onlyField?, readField?]
  · simp [onlyField?]

private theorem onlyField?_of_ne {name : String} (h : name ≠ "alg") {values : List Term}
    {field : Option String} :
    (onlyField? name values).map Option.join = some field ↔ Gives values field := by
  rcases values with _ | ⟨t, _ | ⟨t', values⟩⟩
  · cases field <;> simp [onlyField?, Gives]
  · cases t <;> cases field <;> simp [onlyField?, readField?, Gives, h]
  · cases field <;> simp [onlyField?, Gives]

private theorem ofFields?_eq_some_iff {found : List (String × Option String)} {h : Header} :
    ofFields? found = some h ↔ Fields.unique? "alg" found = some (some (some h.alg)) ∧
      (Fields.unique? "enc" found).map Option.join = some h.enc ∧
      (Fields.unique? "cty" found).map Option.join = some h.cty ∧
      (Fields.unique? "typ" found).map Option.join = some h.typ := by
  simp only [ofFields?, Option.bind_eq_bind, Option.bind_eq_some_iff, Option.map_eq_some_iff,
    Option.join_eq_some_iff, Option.some.injEq]
  constructor
  · rintro ⟨_, halg, alg, rfl, enc, henc, cty, hcty, typ, htyp, rfl⟩
    exact ⟨halg, ⟨enc, henc, rfl⟩, ⟨cty, hcty, rfl⟩, typ, htyp, rfl⟩
  · rintro ⟨halg, ⟨enc, henc, hh⟩, ⟨cty, hcty, hh'⟩, typ, htyp, hh''⟩
    refine ⟨_, halg, h.alg, rfl, enc, henc, cty, hcty, typ, htyp, ?_⟩
    rw [hh, hh', hh'']

private theorem exists_onlyField? {fields : List (String × Term)} {h : Header}
    (hh : Means fields h) :
    ∀ name ∈ names, ∃ x, onlyField? name (valuesOf name fields) = some x := by
  have hoptional {name : String} {field : Option String} (hne : name ≠ "alg")
      (hgives : Gives (valuesOf name fields) field) :
      ∃ x, onlyField? name (valuesOf name fields) = some x := by
    obtain ⟨x, hx, -⟩ := Option.map_eq_some_iff.mp ((onlyField?_of_ne hne).mpr hgives)
    exact ⟨x, hx⟩
  simp only [names, List.forall_mem_cons]
  exact ⟨⟨_, onlyField?_alg.mpr hh.alg⟩, hoptional (by decide) hh.enc, hoptional (by decide) hh.cty,
    hoptional (by decide) hh.typ, by simp⟩

/-- The members of an object are read as the header they mean. -/
theorem ofJson?_document_iff {fields : List (String × Term)} {b : Bytes} {h : Header}
    (hb : Document (.object fields) b) : ofJson? b = some h ↔ Means fields h := by
  rw [ofJson?_document hb, Option.bind_eq_some_iff]
  constructor
  · -- What was found under a name is what its values say, so both have a field or none.
    rintro ⟨found, hfound, hh⟩
    obtain ⟨halg, henc, hcty, htyp⟩ := ofFields?_eq_some_iff.mp hh
    rw [unique?_of_known hfound (by decide)] at halg henc hcty htyp
    exact ⟨onlyField?_alg.mp halg, (onlyField?_of_ne (by decide)).mp henc,
      (onlyField?_of_ne (by decide)).mp hcty, (onlyField?_of_ne (by decide)).mp htyp⟩
  · intro hh
    -- A member of a name that matters is the only one of that name, so it says something.
    obtain ⟨found, hfound⟩ : ∃ found,
        (fields.filter (·.1 ∈ names)).mapM readMember? = some found := by
      apply exists_mapM
      intro m hm
      obtain ⟨hmem, hname⟩ := List.mem_filter.mp hm
      obtain ⟨x, hx⟩ := exists_onlyField? hh m.1 (of_decide_eq_true hname)
      exact exists_readField? hx m.2
        (List.mem_map_of_mem (List.mem_filter.mpr ⟨hmem, beq_self_eq_true m.1⟩))
    refine ⟨found, hfound, ofFields?_eq_some_iff.mpr ?_⟩
    rw [unique?_of_known hfound (by decide), unique?_of_known hfound (by decide),
      unique?_of_known hfound (by decide), unique?_of_known hfound (by decide)]
    exact ⟨onlyField?_alg.mpr hh.alg, (onlyField?_of_ne (by decide)).mpr hh.enc,
      (onlyField?_of_ne (by decide)).mpr hh.cty, (onlyField?_of_ne (by decide)).mpr hh.typ⟩

private theorem exists_gives_iff {values : List Term} :
    (∃ field, Gives values field) ↔
      values = [] ∨ values = [.null] ∨ ∃ s, values = [.string s] := by
  constructor
  · rintro ⟨_ | s, h⟩
    · rcases h with h | h
      · exact .inl h
      · exact .inr (.inl h)
    · exact .inr (.inr ⟨s, h⟩)
  · rintro (h | h | ⟨s, h⟩)
    · exact ⟨none, .inl h⟩
    · exact ⟨none, .inr h⟩
    · exact ⟨some s, h⟩

/-- Which objects are headers. -/
theorem exists_means_iff {fields : List (String × Term)} :
    (∃ h, Means fields h) ↔ (∃ s, valuesOf "alg" fields = [.string s]) ∧
      ∀ name ∈ ["enc", "cty", "typ"], valuesOf name fields = [] ∨
        valuesOf name fields = [.null] ∨ ∃ s, valuesOf name fields = [.string s] := by
  simp only [List.forall_mem_cons, ← exists_gives_iff]
  constructor
  · rintro ⟨h, hh⟩
    exact ⟨⟨_, hh.alg⟩, ⟨_, hh.enc⟩, ⟨_, hh.cty⟩, ⟨_, hh.typ⟩, by simp⟩
  · rintro ⟨⟨alg, halg⟩, ⟨enc, henc⟩, ⟨cty, hcty⟩, ⟨typ, htyp⟩, -⟩
    exact ⟨⟨alg, enc, cty, typ⟩, halg, henc, hcty, htyp⟩

private theorem gives_of_perm {values values' : List Term} {field : Option String}
    (hperm : values'.Perm values) (h : Gives values field) : Gives values' field := by
  cases field with
  | some s =>
    obtain rfl : values = [.string s] := h
    exact List.perm_singleton.mp hperm
  | none =>
    rcases h with rfl | rfl
    · exact .inl (List.perm_nil.mp hperm)
    · exact .inr (List.perm_singleton.mp hperm)

/-- Only the members whose names matter count, and their order does not. -/
theorem means_of_perm {fields fields' : List (String × Term)} {h : Header}
    (hperm : (fields'.filter (·.1 ∈ names)).Perm (fields.filter (·.1 ∈ names)))
    (hh : Means fields h) : Means fields' h := by
  have hvalues {name : String} (hname : name ∈ names) :
      (valuesOf name fields').Perm (valuesOf name fields) := by
    rw [← valuesOf_filter hname fields', ← valuesOf_filter hname fields]
    exact (hperm.filter _).map _
  refine ⟨?_, gives_of_perm (hvalues (by decide)) hh.enc,
    gives_of_perm (hvalues (by decide)) hh.cty, gives_of_perm (hvalues (by decide)) hh.typ⟩
  have halg : (valuesOf "alg" fields').Perm (valuesOf "alg" fields) := hvalues (by decide)
  rw [hh.alg] at halg
  exact List.perm_singleton.mp halg

theorem decode_eq_ok_iff_means {fields : List (String × Term)} {b : Bytes} {h : Header}
    (hb : Document (.object fields) b) :
    decode (Base64Url.encode b) = .ok h ↔ Means fields h :=
  (decode_eq_ok_iff (Base64Url.decode?_encode b)).trans (ofJson?_document_iff hb)

/-- An object, in whatever way it is written, is the header that its members mean. It is one exactly
if it names one algorithm and has at most one text or null under each other name. Other members and
the order of all of them do not matter, but a refusal quotes all that was written. Two algorithms
are refused. -/
theorem decode_document (fields : List (String × Term)) :
    (∃ b, Document (.object fields) b) ∧
    ∀ b, Document (.object fields) b →
      (∀ h, decode (Base64Url.encode b) = .ok h ↔ Means fields h) ∧
      ((∃ h, decode (Base64Url.encode b) = .ok h) ↔
        (∃ s, valuesOf "alg" fields = [.string s]) ∧
        ∀ name ∈ ["enc", "cty", "typ"], valuesOf name fields = [] ∨
          valuesOf name fields = [.null] ∨ ∃ s, valuesOf name fields = [.string s]) ∧
      (∀ fields' b', Document (.object fields') b' →
        (fields'.filter (·.1 ∈ names)).Perm (fields.filter (·.1 ∈ names)) →
        decode (Base64Url.encode b')
          = (decode (Base64Url.encode b)).mapError fun _ => .headerNotRecord b') ∧
      (1 < (valuesOf "alg" fields).length →
        decode (Base64Url.encode b) = .error (.headerNotRecord b)) := by
  refine ⟨exists_document _, fun b hb => ⟨fun h => decode_eq_ok_iff_means hb, ?accepted, ?order,
    ?twice⟩⟩
  case accepted => simp only [decode_eq_ok_iff_means hb, exists_means_iff]
  case order =>
    intro fields' b' hb' hperm
    have hjson : ofJson? b' = ofJson? b := by
      apply Option.ext
      intro h
      rw [ofJson?_document_iff hb', ofJson?_document_iff hb]
      exact ⟨means_of_perm hperm.symm, means_of_perm hperm⟩
    simp only [decode, Base64Url.decode?_encode, hjson]
    cases ofJson? b <;> rfl
  case twice =>
    intro htwice
    apply decode_eq_error (Base64Url.decode?_encode b)
    intro h hd
    have halg := ((decode_eq_ok_iff_means hb).mp hd).alg
    rw [halg, List.length_singleton] at htwice
    omega

/-! ## A header with escapes -/

private theorem spelled_self {l : List Char} (h : ∀ c ∈ l, c ≠ '"' ∧ c ≠ '\\' ∧ 0x20 ≤ c.toNat) :
    Spelled l (utf8List l) := by
  induction l with
  | nil => exact .nil
  | cons c l ih =>
    obtain ⟨⟨hquote, hsolidus, hcontrol⟩, hl⟩ := List.forall_mem_cons.mp h
    rw [utf8List_cons]
    exact .plain hquote hsolidus hcontrol (ih hl)

/-- A number that is too large for every format of fixed width. -/
private def huge : Numeral where
  sign := []
  whole := utf8List ['1']
  fraction := []
  exponent := utf8List ['e', '4', '0', '0']
  isSign := .inl rfl
  isWhole := .digits ⟨by decide, forall_mem_of_all (by decide)⟩ (by decide)
  isFraction := .none
  isExponent := .power (.inl rfl) (.inl rfl) ⟨by decide, forall_mem_of_all (by decide)⟩

/-- An array in an array, so many levels deep. -/
private def nested : Nat → Term
  | 0 => .null
  | n + 1 => .array [nested n]

private theorem blanks_space : Blanks (utf8List [' ']) := blanks_nil.cons rfl

private theorem spelled_alg :
    Spelled ['a', 'l', 'g'] (utf8List ['\\', 'u', '0', '0', '6', '1', 'l', 'g']) := by
  have hdigits : IsUnit 'a'.toNat (utf8List ['0', '0', '6', '1']) :=
    .mk ⟨by decide, .inl rfl⟩ ⟨by decide, .inl rfl⟩ ⟨by decide, .inl rfl⟩ ⟨by decide, .inl rfl⟩
  have hl : Spelled ['l', 'g'] (utf8List ['l', 'g']) := spelled_self (forall_mem_of_all (by decide))
  have halg := Spelled.unit hdigits hl
  exact halg

/-- A header with an escaped name, a huge number under another name and a null. -/
private def escaped : List Json.Entry := [
  { name := "x", value := .number huge, spelling := utf8List ['x'], before := [], after := [],
    text := huge.octets, spelled := spelled_self (forall_mem_of_all (by decide)),
    blanks_before := blanks_nil, blanks_after := blanks_nil },
  { name := "alg", value := .string "HS256",
    spelling := utf8List ['\\', 'u', '0', '0', '6', '1', 'l', 'g'], before := utf8List [' '],
    after := utf8List [' '], text := quotation (utf8List ['H', 'S', '2', '5', '6']),
    spelled := spelled_alg, blanks_before := blanks_space, blanks_after := blanks_space },
  { name := "typ", value := .null, spelling := utf8List ['t', 'y', 'p'], before := [], after := [],
    text := utf8List ['n', 'u', 'l', 'l'], spelled := spelled_self (forall_mem_of_all (by decide)),
    blanks_before := blanks_nil, blanks_after := blanks_nil }]

private theorem document_escaped :
    Document (.object (escaped.map Entry.member))
      (utf8 "\x7b\"x\":1e400, \"\\u0061lg\" : \"HS256\",\"typ\":null\x7d") := by
  have halg : Spelled "HS256".toList (utf8List ['H', 'S', '2', '5', '6']) :=
    spelled_self (forall_mem_of_all (by decide))
  have each : ∀ e ∈ escaped, Written e.value e.text := by
    simp only [escaped, List.forall_mem_cons]
    exact ⟨.number huge, .string halg, .null, by simp⟩
  have hlisted : Listed '{' '}' (escaped.map Entry.octets) _ := .cons blanks_nil blanks_nil
    (.cons blanks_nil blanks_space (.cons blanks_nil blanks_nil .nil))
  exact .mk blanks_nil blanks_nil (.object each hlisted)

/-- A header with an escaped name beside a huge number is read, also in another order and beside a
value of 200 levels. With a second algorithm it is refused. -/
theorem decode_document_escaped :
    (∃ b, Document (.object [("x", .number huge), ("alg", .string hs256), ("typ", .null)]) b ∧
      b = utf8 "\x7b\"x\":1e400, \"\\u0061lg\" : \"HS256\",\"typ\":null\x7d" ∧
      decode (Base64Url.encode b) = .ok (signed hs256) ∧
      ∃ b', Document (.object [("typ", .null), ("y", nested 200), ("alg", .string hs256),
          ("y", .number huge)]) b' ∧
        decode (Base64Url.encode b') = decode (Base64Url.encode b)) ∧
    ∃ b, Document (.object [("alg", .string hs256), ("alg", .string unsecured)]) b ∧
      decode (Base64Url.encode b) = .error (.headerNotRecord b) := by
  obtain ⟨-, hread⟩ :=
    decode_document [("x", .number huge), ("alg", .string hs256), ("typ", .null)]
  obtain ⟨hmeans, -, horder, -⟩ := hread _ document_escaped
  obtain ⟨⟨b', hb'⟩, -⟩ := decode_document [("typ", .null), ("y", nested 200),
    ("alg", .string hs256), ("y", .number huge)]
  obtain ⟨⟨b, hb⟩, htwice⟩ :=
    decode_document [("alg", .string hs256), ("alg", .string unsecured)]
  obtain ⟨-, -, -, hrefused⟩ := htwice b hb
  have hfirst : decode (Base64Url.encode _) = .ok (signed hs256) :=
    (hmeans _).mpr ⟨rfl, .inl rfl, .inl rfl, .inr rfl⟩
  have hother := (horder _ b' hb' (.swap _ _ _)).trans (mapError_ok hfirst _)
  exact ⟨⟨_, document_escaped, rfl, hfirst, b', hb', hother.trans hfirst.symm⟩, b, hb,
    hrefused (by decide)⟩

end IdentityToken.Header
