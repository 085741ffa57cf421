import IdentityToken.Proofs.Header
import IdentityToken.Proofs.Json.Checks
import IdentityToken.Proofs.Token.Forms
import IdentityToken.Proofs.Validation.Acceptance
import IdentityToken.Proofs.Validation.Failures
import IdentityToken.Proofs.Validation.Inspection
/-!
# Headers that are no objects

A header is written as an object, but it is also read from an array that lists its fields in their
order, the last ones of which may be left out. No other text that is no object is a header, and a
token with such a text in front is refused by everybody.
-/

namespace IdentityToken

open Text Json

namespace Header

/-- A field as an item of a list; null stands for absence. -/
def listedField : Option String → Json
  | none => Json.null
  | some s => Json.string s

/-- Values list the fields of a header: a text for the algorithm and at most three more. -/
def Listed (xs : List Json) (h : Header) : Prop :=
  ∃ fields : List (Option String), fields.length ≤ 3 ∧
    xs = Json.string h.alg :: fields.map listedField ∧
    h.enc = fields[0]?.join ∧ h.cty = fields[1]?.join ∧ h.typ = fields[2]?.join

/-- The field that a value is. -/
def fieldOf? (name : String) (x : Json) : Option (Option String) :=
  match x.raw with
  | .null => if name = "alg" then none else some none
  | .string s => some (some s)
  | _ => none

theorem fieldOf?_eq_some_iff {name : String} {x : Json} {field : Option String} :
    fieldOf? name x = some field ↔ x = listedField field ∧ (name = "alg" → field ≠ none) := by
  obtain ⟨r, hr⟩ := x
  cases r <;> cases field <;> simp [fieldOf?, listedField, Json.string, Json.null, eq_comm]

open Scan

private theorem scanField_eq_scalar (name : String) (b : Bytes) :
    scanField name b = filterMap (fieldOf? name) scalar (skipBlanks b) := by
  unfold scanField filterMap
  cases skipBlanks b with
  | nil =>
    have hnull : word ['n', 'u', 'l', 'l'] [] = none := rfl
    simp only [hnull, ite_self]
    rfl
  | cons o rest =>
    -- A null starts with its first letter and a text with a quotation mark.
    by_cases hn : o = ascii 'n'
    · subst hn
      have hstring : Scan.string (ascii 'n' :: rest) = none := string_of_ne (by decide) rest
      simp only [scalar, hstring, if_true]
      by_cases hname : name = "alg"
      · cases word ['n', 'u', 'l', 'l'] (ascii 'n' :: rest) <;> simp [hname, fieldOf?, Json.null]
      · cases word ['n', 'u', 'l', 'l'] (ascii 'n' :: rest) <;> simp [hname, fieldOf?, Json.null]
    · have hnull : word ['n', 'u', 'l', 'l'] (o :: rest) = none := word_of_ne hn _ rest
      simp only [hnull, ite_self, scalar, hn, if_false]
      by_cases hquote : o = ascii '"'
      · subst hquote
        have hne : ascii '"' ≠ ascii 't' ∧ ascii '"' ≠ ascii 'f' := by decide
        simp only [hne.1, hne.2, if_false, if_true]
        cases Scan.string (ascii '"' :: rest) <;> rfl
      · rw [string_of_ne hquote]
        simp only [hquote, if_false]
        split
        · cases word ['t', 'r', 'u', 'e'] (o :: rest) <;> rfl
        · split
          · cases word ['f', 'a', 'l', 's', 'e'] (o :: rest) <;> rfl
          · cases number (o :: rest) <;> rfl

private theorem filterMap_value (name : String) (d : Nat) (b : Bytes) :
    filterMap (fieldOf? name) (value d) b = filterMap (fieldOf? name) scalar (skipBlanks b) := by
  cases d with
  | zero => rfl
  | succ d =>
    simp only [filterMap, value]
    cases skipBlanks b with
    | nil => rfl
    | cons o rest =>
      -- An array or object is no field.
      by_cases hsquare : o = ascii '['
      · subst hsquare
        simp only [if_true, scalar_mark (.inl rfl)]
        cases items '[' ']' (fun _ => value d) (ascii '[' :: rest) <;> rfl
      · by_cases hcurly : o = ascii '{'
        · subst hcurly
          simp only [hsquare, if_true, if_false, scalar_mark (.inr rfl)]
          cases members (fun _ => value d) (ascii '{' :: rest) <;> rfl
        · simp only [hsquare, hcurly, if_false]

/-- Reading a field is reading a value of any depth and checking it. -/
theorem scanField_eq (name : String) (d : Nat) :
    scanField name = filterMap (fieldOf? name) (value d) := by
  funext b
  rw [scanField_eq_scalar, filterMap_value]

/-- What an item is to a header: the field whose turn it is. -/
def itemOf? (index : Nat) (x : Json) : Option (String × Option String) :=
  names[index]?.bind fun name => (fieldOf? name x).map fun field => (name, field)

/-- The header that a list of values is. -/
def ofItems? (xs : List Json) : Option Header := (checkFrom itemOf? 0 xs).bind ofFields?

private theorem scanItem_eq (d : Nat) :
    (fun (index : Nat) (b : Bytes) => names[index]?.bind fun name =>
        (scanField name b).bind fun (x, rest) => some ((name, x), rest))
      = fun index => filterMap (itemOf? index) (value d) := by
  funext index b
  rw [filterMap]
  cases hname : names[index]? with
  | none => cases value d b <;> simp [itemOf?, hname]
  | some name =>
    rw [Option.bind_some, scanField_eq name d, filterMap]
    cases value d b with
    | none => rfl
    | some found => cases hfield : fieldOf? name found.1 <;> simp [itemOf?, hname, hfield]

private theorem fields_of_not_opensObject {b : Bytes} (h : ¬OpensObject b) (d : Nat) :
    Scan.fields names scanField b
      = filterMap (checkFrom itemOf? 0) (items '[' ']' fun _ => value d) (skipBlanks b) := by
  rw [← items_filterMap, ← scanItem_eq d]
  simp only [Scan.fields]
  cases hb : skipBlanks b with
  | nil => rfl
  | cons o rest =>
    by_cases hsquare : o = ascii '['
    · subst hsquare
      rw [if_pos (by simp [eat])]
      rfl
    · have hcurly : o ≠ ascii '{' := fun ho => h ⟨rest, by rw [hb, ho]⟩
      simp only [items, members, eat_eq_none hsquare, eat_eq_none hcurly]
      rfl

/-- A text that is no object is a header exactly if it is an array that is one. -/
theorem ofJson?_eq_some_iff {b : Bytes} (h : ¬OpensObject b) {d : Header} :
    ofJson? b = some d ↔ ∃ xs, Json.ofBytes? b = some (Json.array xs) ∧ ofItems? xs = some d := by
  have hcomplete : complete (Scan.fields names scanField) b
      = complete (filterMap (checkFrom itemOf? 0) (items '[' ']' fun _ => value 126))
          (skipBlanks b) := by
    rw [complete, complete, fields_of_not_opensObject h 126]
  rw [ofJson?, fields?, hcomplete, complete_filterMap, Option.bind_assoc, Option.bind_eq_some_iff]
  simp only [Json.ofBytes?_eq_array_iff]
  rfl

private theorem itemOf?_eq_some_iff {index : Nat} {x : Json} {y : String × Option String} :
    itemOf? index x = some y ↔ ∃ name field, names[index]? = some name ∧
      x = listedField field ∧ (name = "alg" → field ≠ none) ∧ y = (name, field) := by
  simp only [itemOf?, Option.bind_eq_some_iff, Option.map_eq_some_iff, fieldOf?_eq_some_iff]
  constructor
  · rintro ⟨name, hname, field, ⟨hx, halg⟩, rfl⟩
    exact ⟨name, field, hname, hx, halg, rfl⟩
  · rintro ⟨name, field, hname, hx, halg, rfl⟩
    exact ⟨name, hname, field, ⟨hx, halg⟩, rfl⟩

private theorem ne_alg_of_getElem? {n : Nat} {name : String} (h : names[n + 1]? = some name) :
    name ≠ "alg" := by
  have hmem : name ∈ ["enc", "cty", "typ"] := List.mem_of_getElem? h
  rintro rfl
  revert hmem
  decide

/-- After the algorithm the items are fields as long as there are names for them. -/
private theorem checkFrom_itemOf? {n : Nat} {xs : List Json}
    {found : List (String × Option String)} :
    checkFrom itemOf? (n + 1) xs = some found ↔ ∃ fields : List (Option String),
      fields.length ≤ 3 - n ∧ xs = fields.map listedField ∧
        found = (names.drop (n + 1)).zip fields := by
  induction xs generalizing n found with
  | nil =>
    rw [checkFrom, Option.some.injEq]
    constructor
    · rintro rfl
      exact ⟨[], Nat.zero_le _, rfl, List.zip_nil_right.symm⟩
    · rintro ⟨fields, -, hxs, rfl⟩
      rw [List.map_eq_nil_iff.mp hxs.symm, List.zip_nil_right]
  | cons x xs ih =>
    simp only [checkFrom, Option.bind_eq_some_iff, Option.map_eq_some_iff, itemOf?_eq_some_iff, ih]
    constructor
    · rintro ⟨_, ⟨name, field, hname, rfl, -, rfl⟩, _, ⟨fields, hlength, rfl, rfl⟩, rfl⟩
      obtain ⟨hlt, hname⟩ := List.getElem?_eq_some_iff.mp hname
      have hn : n + 1 < 4 := hlt
      refine ⟨field :: fields, ?_, rfl, ?_⟩
      · rw [List.length_cons]
        omega
      · rw [List.drop_eq_getElem_cons hlt, hname, List.zip_cons_cons]
    · rintro ⟨_ | ⟨field, fields⟩, hlength, hxs, rfl⟩
      · cases hxs
      · obtain ⟨rfl, rfl⟩ := List.cons.inj hxs
        rw [List.length_cons] at hlength
        have hlt : n + 1 < names.length := show n + 1 < 4 by omega
        have hname := List.getElem?_eq_getElem hlt
        refine ⟨_, ⟨_, field, hname, rfl, fun halg => absurd halg (ne_alg_of_getElem? hname), rfl⟩,
          _, ⟨fields, by omega, rfl, rfl⟩, ?_⟩
        rw [List.drop_eq_getElem_cons hlt, List.zip_cons_cons]

private theorem ofFields?_zip {alg : String} {fields : List (Option String)}
    (h : fields.length ≤ 3) :
    ofFields? (("alg", some alg) :: (names.drop 1).zip fields)
      = some ⟨alg, fields[0]?.join, fields[1]?.join, fields[2]?.join⟩ := by
  rcases fields with _ | ⟨enc, _ | ⟨cty, _ | ⟨typ, _ | ⟨other, fields⟩⟩⟩⟩
  · rfl
  · rfl
  · rfl
  · rfl
  · simp only [List.length_cons] at h
    omega

theorem ofItems?_eq_some_iff {xs : List Json} {d : Header} :
    ofItems? xs = some d ↔ Listed xs d := by
  cases xs with
  | nil =>
    refine iff_of_false (fun h => by cases h) ?_
    rintro ⟨fields, -, hxs, -⟩
    cases hxs
  | cons x xs =>
    simp only [ofItems?, checkFrom, Option.bind_eq_some_iff, Option.map_eq_some_iff,
      itemOf?_eq_some_iff, checkFrom_itemOf?]
    constructor
    · rintro ⟨_, ⟨_, ⟨name, field, hname, rfl, halg, rfl⟩, _, ⟨fields, hlength, rfl, rfl⟩, rfl⟩, hd⟩
      obtain rfl : "alg" = name := Option.some.inj hname
      obtain ⟨s, rfl⟩ := Option.ne_none_iff_exists'.mp (halg rfl)
      rw [ofFields?_zip hlength, Option.some.injEq] at hd
      obtain rfl := hd
      exact ⟨fields, hlength, rfl, rfl, rfl, rfl⟩
    · rintro ⟨fields, hlength, hxs, henc, hcty, htyp⟩
      obtain ⟨rfl, rfl⟩ := List.cons.inj hxs
      refine ⟨_, ⟨_, ⟨"alg", some d.alg, rfl, rfl, fun _ => Option.some_ne_none _, rfl⟩, _,
        ⟨fields, hlength, rfl, rfl⟩, rfl⟩, ?_⟩
      rw [ofFields?_zip hlength, ← henc, ← hcty, ← htyp]

variable {segment : String} {b : Bytes} {d : Header}

theorem decode_eq_ok_iff_listed (hb : Base64Url.decode? segment = some b) (h : ¬OpensObject b) :
    decode segment = .ok d ↔ ∃ xs, Json.ofBytes? b = some (Json.array xs) ∧ Listed xs d := by
  rw [decode_eq_ok_iff hb, ofJson?_eq_some_iff h]
  simp only [ofItems?_eq_some_iff]

theorem exists_encode_of_decode (h : decode segment = .ok d) :
    ∃ b, segment = Base64Url.encode b := by
  cases hb : Base64Url.decode? segment with
  | some b => exact ⟨b, Base64Url.decode?_eq_some_iff.mp hb⟩
  | none => simp [decode, hb] at h

end Header

variable {text segment : String} {rest : List String}

/-! ## Tokens with such headers -/

theorem Token.parse_of_decode_error {e : FormatError}
    (hsegments : Token.Segmented text (segment :: rest)) (he : Header.decode segment = .error e) :
    ∃ cause, Token.parse text = .error cause := by
  cases hparse : Token.parse text with
  | error cause => exact ⟨cause, rfl⟩
  | ok token =>
    obtain ⟨first, others, hothers, hd⟩ := Token.decode_header_of_parse hparse
    have hsplit := Token.segmented_iff.mp hothers
    rw [Token.segmented_iff.mp hsegments] at hsplit
    rw [← (List.cons.inj hsplit).1, he] at hd
    cases hd

theorem Validator.validate_of_parse_error {e : FormatError} (hparse : Token.parse text = .error e)
    (v : Validator) :
    ∃ cause, v.validate text = .error cause ∧
      (¬Secret.Unusable v.signing → cause.kind = .format) := by
  by_cases hunusable : Secret.Unusable v.signing
  · have hclaims : v.claims text = .error (.setup (.blankSecret .signing)) := by
      simp only [claims, Secret.usable?_eq_none_iff.mpr hunusable]
    exact ⟨_, bind_error hclaims _, fun h => absurd hunusable h⟩
  · obtain ⟨secret, hsigning, hblank⟩ := Secret.not_unusable_iff.mp hunusable
    have hclaims : v.claims text = .error (.format e) := by
      rw [claims_eq, conclude_of_usable hsigning hblank, v.find_of_error hparse]
      rfl
    exact ⟨_, bind_error hclaims _, fun _ => rfl⟩

/-- A header of signed tokens can stand in an accepted token, whatever its text is. -/
theorem Validator.exists_validate_of_header (secret : Secret) (hblank : secret.isBlank = false)
    (hlength : 32 ≤ secret.bytes.length) {d : Header} (hd : Header.decode segment = .ok d)
    (halg : d.alg = Header.hs256) (r : Identity)
    (hintegral : ∀ m ∈ r.attributes.toList, m.2.Integral)
    (hdepth : ∀ m ∈ r.attributes.toList, m.2.depth ≤ 126) (at_ : Instant) :
    ∃ text payload signature, Token.Segmented text [segment, payload, signature] ∧
      ∃ c, (ofSigning secret).claims text = .ok c ∧
        (ofSigning secret).validate text = .ok (r.withKind (ofSigning secret).defaultKind) := by
  let c := ClaimSet.forIdentity r Issuer.name at_
  let payload := Base64Url.encode c.payload
  let code := Crypto.hmacSha256 secret.bytes (utf8 (join '.' [segment, payload]))
  have hshallow : c.toJson.depth ≤ Json.maxDepth := ClaimSet.depth_toJson_le_iff.mpr hdepth
  have hread : ClaimSet.ofPayload c.payload = .ok c.readBack := by
    rw [ClaimSet.ofPayload_payload hintegral, if_pos hshallow]
  have hdot : '.' ∉ segment.toList := by
    obtain ⟨b, rfl⟩ := Header.exists_encode_of_decode hd
    exact Base64Url.dot_not_mem_encode b
  have hseparated : Separated '.' [segment, payload, Base64Url.encode code] := by
    simp only [separated_cons, separated_nil, and_true]
    exact ⟨hdot, Base64Url.dot_not_mem_encode _, Base64Url.dot_not_mem_encode _⟩
  have hauthentic : Authentic secret (join '.' [segment, payload, Base64Url.encode code])
      c.readBack :=
    ⟨_, _, _, d, _, hseparated, rfl, hd, halg, rfl, Base64Url.decode?_encode _, hread⟩
  obtain ⟨t, hparse, hauth⟩ := exists_authenticate_iff.mpr ⟨hlength, hauthentic⟩
  have hclaims : (ofSigning secret).claims (join '.' [segment, payload, Base64Url.encode code])
      = .ok c.readBack := by
    rw [claims_eq, find_of_signed _ hparse]
    exact conclude_eq_ok_iff.mpr ⟨secret, t, rfl, hblank, rfl, hauth⟩
  refine ⟨_, payload, Base64Url.encode code, ⟨hseparated, rfl⟩, c.readBack, hclaims, ?_⟩
  rw [validate, bind_ok hclaims]
  exact mapError_ok (ClaimSet.toIdentity_forIdentity r Issuer.name at_ _) _

/-- What is no object is a header only if it is an array that lists one, and otherwise it is refused
wherever it stands in front. -/
theorem Header.decode_of_not_opensObject (segment : String) (b : Bytes)
    (hb : Base64Url.decode? segment = some b) :
    (∀ x, Json.ofBytes? b = some x → ((∃ m, x = Json.object m) ↔ OpensObject b)) ∧
    (¬OpensObject b → ∀ d, decode segment = .ok d ↔
      ∃ xs, Json.ofBytes? b = some (Json.array xs) ∧ Listed xs d) ∧
    (¬OpensObject b → (∀ xs d, Json.ofBytes? b = some (Json.array xs) → ¬Listed xs d) →
      decode segment = .error (.headerNotRecord b) ∧
      ∀ text rest, Token.Segmented text (segment :: rest) →
        (∃ e, Token.parse text = .error e) ∧ (∃ e, Inspection.ofText text = .error e) ∧
        ∀ v : Validator, ∃ e, v.validate text = .error e ∧
          (¬Secret.Unusable v.signing → e.kind = .format)) := by
  refine ⟨fun x => exists_eq_object_iff_opensObject, ?_, ?_⟩
  · intro hopens d
    exact decode_eq_ok_iff_listed hb hopens
  · intro hopens hlisted
    have herror : decode segment = .error (.headerNotRecord b) := by
      apply decode_eq_error hb
      intro d hd
      obtain ⟨xs, hxs, hd⟩ := (decode_eq_ok_iff_listed hb hopens).mp hd
      exact hlisted xs d hxs hd
    refine ⟨herror, fun text rest hsegments => ?_⟩
    obtain ⟨cause, hparse⟩ := Token.parse_of_decode_error hsegments herror
    exact ⟨⟨cause, hparse⟩, ⟨cause, Inspection.ofText_eq_error_iff.mpr (.inl hparse)⟩,
      Validator.validate_of_parse_error hparse⟩

/-- The array of one text is a header, and the array of two numbers is none. -/
theorem Header.decode_of_arrays :
    decode "WyJIUzI1NiJd" = .ok (signed hs256) ∧
      decode "WzEsMl0" = .error (.headerNotRecord (utf8 "[1,2]")) ∧
      ∀ v : Validator, ∃ e, v.validate "WzEsMl0.e30." = .error e := by
  obtain ⟨-, htext, -⟩ := decode_of_not_opensObject "WyJIUzI1NiJd" (utf8 "[\"HS256\"]")
    (by decide +kernel)
  obtain ⟨-, hnumbers, hrefused⟩ := decode_of_not_opensObject "WzEsMl0" (utf8 "[1,2]")
    (by decide +kernel)
  have hread : Json.ofBytes? (utf8 "[\"HS256\"]") = some (Json.array [Json.string "HS256"]) := rfl
  have hopens : ¬OpensObject (utf8 "[1,2]") := not_opensObject_of_square rfl
  have hnone : (decode "WzEsMl0").toOption = none := by decide +kernel
  have hlisted : ∀ xs d, Json.ofBytes? (utf8 "[1,2]") = some (Json.array xs) → ¬Listed xs d := by
    intro xs d hxs hd
    rw [(hnumbers hopens d).mpr ⟨xs, hxs, hd⟩] at hnone
    cases hnone
  obtain ⟨herror, htokens⟩ := hrefused hopens hlisted
  obtain ⟨-, -, hvalidate⟩ := htokens "WzEsMl0.e30." ["e30", ""] (Token.segmented_iff.mpr rfl)
  refine ⟨(htext (not_opensObject_of_square rfl) _).mpr
    ⟨_, hread, [], Nat.zero_le 3, rfl, rfl, rfl, rfl⟩, herror, fun v => ?_⟩
  obtain ⟨e, he, -⟩ := hvalidate v
  exact ⟨e, he⟩

/-- The array of one text stands in front of a token that is accepted. -/
theorem Validator.accepted_with_array :
    ∃ b x, Base64Url.decode? "WyJIUzI1NiJd" = some b ∧ Json.ofBytes? b = some x ∧
      (∀ m, x ≠ Json.object m) ∧ Header.decode "WyJIUzI1NiJd" = .ok (Header.signed "HS256") ∧
      ∃ text payload signature, Token.Segmented text ["WyJIUzI1NiJd", payload, signature] ∧
        (∃ t, Token.parse text = .ok t) ∧ (∃ i, Inspection.ofText text = .ok i) ∧
        ∃ r, (ofSigning ⟨"0123456789abcdef0123456789abcdef"⟩).validate text = .ok r := by
  have hb : Base64Url.decode? "WyJIUzI1NiJd" = some (utf8 "[\"HS256\"]") := by decide +kernel
  have hopens : ¬OpensObject (utf8 "[\"HS256\"]") := not_opensObject_of_square rfl
  have hx : Json.ofBytes? (utf8 "[\"HS256\"]") = some (Json.array [Json.string "HS256"]) := rfl
  have hd : Header.decode "WyJIUzI1NiJd" = .ok (Header.signed "HS256") :=
    (Header.decode_eq_ok_iff_listed hb hopens).mpr
      ⟨_, hx, [], Nat.zero_le 3, rfl, rfl, rfl, rfl⟩
  refine ⟨_, _, hb, hx, fun m hm => hopens ((exists_eq_object_iff_opensObject hx).mp ⟨m, hm⟩), hd,
    ?_⟩
  have hdepth : ∀ m ∈ (Issuer.nestedRecord 0).attributes.toList, m.2.depth ≤ 126 := by
    intro m hm
    rw [Issuer.depth_nestedRecord 0 m hm]
    exact Nat.zero_le 126
  obtain ⟨text, payload, signature, hsegments, c, hclaims, hvalidate⟩ :=
    exists_validate_of_header ⟨"0123456789abcdef0123456789abcdef"⟩ (by decide) (by decide) hd rfl
      (Issuer.nestedRecord 0) (Issuer.integral_nestedRecord 0) hdepth ⟨0, 0, by decide, by decide⟩
  obtain ⟨i, hi, -⟩ := exists_ofText_of_claims hclaims
  obtain ⟨t, hparse, -⟩ := Inspection.ofText_eq_ok_iff.mp hi
  exact ⟨text, payload, signature, hsegments, ⟨t, hparse⟩, ⟨i, hi⟩, _, hvalidate⟩

end IdentityToken
