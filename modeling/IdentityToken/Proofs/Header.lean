import IdentityToken.Header
import IdentityToken.Proofs.Base64Url
import IdentityToken.Proofs.Json.Fields
/-!
# Headers are read back

A header is written as an object of texts in which absent fields are left out. Decoding gives back
exactly the header that was encoded, whatever texts its fields are, so the segment of a header
stands for no other header.
-/

namespace IdentityToken.Header

open Text Json Json.Scan

/-- The fields of a header that are present, with their names. -/
def present (h : Header) : List (String × String) :=
  ("alg", h.alg) :: h.enc.toList.map (fun s => ("enc", s)) ++ h.cty.toList.map (fun s => ("cty", s))
    ++ h.typ.toList.map (fun s => ("typ", s))

private theorem toRaw_eq (h : Header) :
    h.toRaw = .object (h.present.map fun (k, s) => (k, .string s)) := by
  simp [toRaw, present, Function.comp_def]

private theorem mem_names_of_mem_present {h : Header} {m : String × String} (hm : m ∈ h.present) :
    m.1 ∈ names := by
  simp only [present, List.cons_append, List.mem_cons, List.mem_append, List.mem_map] at hm
  rcases hm with rfl | ⟨⟨_, _, rfl⟩ | ⟨_, _, rfl⟩⟩ | ⟨_, _, rfl⟩ <;> simp [names]

/-- A text in quotation marks is read as a field that is present. -/
theorem reads_scanField {s : String} {b tail : Bytes} (hb : b = ascii '"' :: tail)
    (h : ∀ rest, Scan.string (b ++ rest) = some (s, rest)) (name : String) :
    Reads (scanField name) b (some (some s)) := by
  intro gap rest hgap _
  have hskip : skipBlanks (gap ++ (b ++ rest)) = b ++ rest := by
    rw [skipBlanks_append hgap, hb]
    exact skipBlanks_cons (by decide) _
  have hnull : word ['n', 'u', 'l', 'l'] (b ++ rest) = none := by
    rw [hb]
    exact word_of_ne (by decide) _ _
  simp only [scanField, hskip, hnull, ite_self, h]
  rfl

private theorem fields?_toJson (h : Header) :
    fields? names scanField (utf8 h.toJson) = some (h.present.map fun m => (m.1, some m.2)) := by
  have hfields : Scan.fields names scanField (utf8List (h.toRaw.render .compact 0) ++ [])
      = (h.present.mapM fun m => (some (some m.2)).map fun x => (m.1, x)).map
          fun found => (found, []) := by
    rw [toRaw_eq]
    exact fields_object .string Layout.regular_compact
      (fun m hm => ⟨mem_names_of_mem_present hm, reads_scanField rfl (string_quoted m.2) m.1⟩) []
  have hall : (h.present.mapM fun m => (some (some m.2)).map fun x => (m.1, x))
      = some (h.present.map fun m => (m.1, some m.2)) := List.mapM_pure
  rw [List.append_nil] at hfields
  rw [fields?, toJson, utf8_ofList, Scan.complete, hfields, hall]
  rfl

private theorem ofFields?_present (h : Header) :
    ofFields? (h.present.map fun m => (m.1, some m.2)) = some h := by
  obtain ⟨alg, enc, cty, typ⟩ := h
  cases enc <;> cases cty <;> cases typ <;> rfl

/-- A header is read back from the segment it is encoded as. -/
theorem decode_encode (h : Header) : decode h.encode = .ok h := by
  have hjson : ofJson? (utf8 h.toJson) = some h := by
    rw [ofJson?, fields?_toJson, Option.bind_some, ofFields?_present]
  simp only [decode, encode, Base64Url.decode?_encode, hjson]

theorem encode_injective {h h' : Header} (he : h.encode = h'.encode) : h = h' := by
  have hdecode : decode h.encode = .ok h' := by rw [he, decode_encode]
  exact Except.ok.inj ((decode_encode h).symm.trans hdecode)

/-! ## Other segments -/

variable {segment : String} {b : Bytes} {d : Header}

theorem decode_eq_ok_iff (hb : Base64Url.decode? segment = some b) :
    decode segment = .ok d ↔ ofJson? b = some d := by
  simp only [decode, hb]
  cases ofJson? b <;> simp

theorem decode_eq_error (hb : Base64Url.decode? segment = some b)
    (h : ∀ d, decode segment ≠ .ok d) : decode segment = .error (.headerNotRecord b) := by
  cases hd : ofJson? b with
  | some d => exact absurd ((decode_eq_ok_iff hb).mpr hd) (h d)
  | none => simp only [decode, hb, hd]

/-- The segment of a header is base64url of its JSON without padding and dots. The header is read
back from it, and an empty field is told apart from an absent one, as are any two headers. -/
theorem encode_faithful (h : Header) :
    Base64Url.decode? h.encode = some (utf8 h.toJson) ∧
    (∀ c ∈ h.encode.toList, c.isAlphanum = true ∨ c = '-' ∨ c = '_') ∧
    '.' ∉ h.encode.toList ∧
    decode h.encode = .ok h ∧
    (∀ h' : Header, h'.encode = h.encode ↔ h' = h) ∧
    { h with enc := some "" }.encode ≠ { h with enc := none }.encode ∧
    { h with cty := some "" }.encode ≠ { h with cty := none }.encode ∧
    { h with typ := some "" }.encode ≠ { h with typ := none }.encode := by
  refine ⟨Base64Url.decode?_encode _, Base64Url.isAlphanum_of_mem_encode _,
    Base64Url.dot_not_mem_encode _, decode_encode h, fun h' => ⟨encode_injective, congrArg encode⟩,
    ?enc, ?cty, ?typ⟩
  case enc =>
    intro he
    cases congrArg enc (encode_injective he)
  case cty =>
    intro he
    cases congrArg cty (encode_injective he)
  case typ =>
    intro he
    cases congrArg typ (encode_injective he)

end IdentityToken.Header
