import IdentityToken.Proofs.Command.Acceptance
/-!
# Records as profiles

A record is written as JSON in a single line or in an indented form, and both are read back. The two
objects around an attribute take a level of depth each, so an attribute may be two levels less deep
than a text of JSON. What validating a token shows can be the profile of the next token, except that
a token can carry an attribute that is one level too deep for a profile.
-/

namespace IdentityToken

open Text Json

namespace Identity

/-! ## Reading records back -/

/-- A part of a record as a tree of JSON. -/
def Part.toRaw : Part → Raw
  | .typedId s => .string s
  | .attributes m => (Json.object m).raw

/-- The parts of a record with their names. -/
def parts (r : Identity) : List (String × Part) :=
  [(typedIdField, .typedId r.typedId), (attributesField, .attributes r.attributes)]

/-- What is read of a part: attributes that are too deep are refused. -/
def Part.readBack? : Part → Option Part
  | .typedId s => some (.typedId s)
  | .attributes m =>
    if (Json.object m).depth ≤ maxDepth - 1 then some (.attributes m) else none

private theorem toRaw_eq_parts (r : Identity) :
    r.toRaw = .object (r.parts.map fun (k, p) => (k, p.toRaw)) := rfl

private theorem reads_typedId (s : String) :
    Scan.Reads (Part.scan typedIdField) (utf8List (quoted s)) (some (.typedId s)) := by
  intro gap rest hgap _
  have hskip : Scan.skipBlanks (gap ++ (utf8List (quoted s) ++ rest))
      = utf8List (quoted s) ++ rest :=
    (Scan.skipBlanks_append hgap _).trans (Scan.skipBlanks_cons (by decide) _)
  simp only [Part.scan, if_true, hskip, Scan.string_quoted]
  rfl

variable {l : Layout} {r : Identity}

private theorem reads_attributes (hl : l.Regular) {m : Members} (hm : (Json.object m).Integral)
    (level : Nat) :
    Scan.Reads (Part.scan attributesField) (utf8List ((Json.object m).raw.render l level))
      (Part.attributes m).readBack? := by
  intro gap rest hgap hrest
  have hne : attributesField ≠ typedIdField := by decide
  have hvalue := Scan.reads_value hl hm (maxDepth - 1) level gap rest hgap hrest
  simp only [Part.scan, hne, if_false, hvalue, Part.readBack?]
  by_cases hdepth : (Json.object m).depth ≤ maxDepth - 1
  · simp [hdepth]
  · simp [hdepth]

/-- The attributes of a record stand one level below the record. -/
theorem depth_attributes_le_iff :
    (Json.object r.attributes).depth ≤ maxDepth - 1 ↔
      ∀ m ∈ r.attributes.toList, m.2.depth ≤ 125 := depth_object_le_iff

private theorem fields_render (hl : l.Regular) (hr : ∀ m ∈ r.attributes.toList, m.2.Integral)
    (rest : Bytes) :
    Scan.fields [typedIdField, attributesField] Part.scan (utf8 (r.render l) ++ rest)
      = if ∀ m ∈ r.attributes.toList, m.2.depth ≤ 125 then some (r.parts, rest) else none := by
  have hfields : Scan.fields [typedIdField, attributesField] Part.scan (utf8 (r.render l) ++ rest)
      = (r.parts.mapM fun (m : String × Part) => m.2.readBack?.map fun x => (m.1, x)).map
          fun found => (found, rest) := by
    rw [render, utf8_ofList, toRaw_eq_parts]
    apply Scan.fields_object Part.toRaw hl
    simp only [parts, List.forall_mem_cons]
    exact ⟨⟨by simp, reads_typedId _⟩,
      ⟨by simp, reads_attributes hl (integral_object_iff.mpr hr) _⟩, by simp⟩
  rw [hfields]
  -- The typed id is always read, so the record is as soon as its attributes are.
  simp only [parts, List.mapM_cons, List.mapM_nil, Part.readBack?, depth_attributes_le_iff]
  split <;> rfl

/-- A record is read back unless one of its attributes is too deep. -/
theorem ofJson_render (hl : l.Regular) (hr : ∀ m ∈ r.attributes.toList, m.2.Integral)
    {rest : Bytes} (hrest : Blanks rest) :
    ofJson (utf8 (r.render l) ++ rest)
      = if ∀ m ∈ r.attributes.toList, m.2.depth ≤ 125 then .ok r
        else .error (.malformed (b := utf8 (r.render l) ++ rest)) := by
  have hblank : Scan.skipBlanks rest = [] := Scan.skipBlanks_eq_nil hrest
  have hparts : parts? r.parts = some (r.typedId, r.attributes) := rfl
  rw [ofJson, fields_render hl hr]
  by_cases hdepth : ∀ m ∈ r.attributes.toList, m.2.depth ≤ 125
  · simp only [if_pos hdepth, hparts, ofParts_eq_ok r.typedId_not_blank r.allowed, hblank, if_true]
  · simp only [if_neg hdepth]

end Identity

namespace Command

/-! ## Profiles -/

theorem ofLines_singleton (line : String) : ofLines [line] = line ++ "\n" := by
  rw [← String.toList_inj]
  simp [ofLines, String.join]

theorem utf8_ofLines_singleton (line : String) :
    utf8 (ofLines [line]) = utf8 line ++ utf8List ['\n'] := by
  rw [ofLines_singleton, utf8_eq_utf8List, utf8_eq_utf8List, String.toList_append, utf8List_append]
  rfl

/-- A profile is read before attributes are set on it. -/
theorem IdentityOptions.identity_of_profile {files : FileSystem} {path text : String}
    (h : files.readText path = .ok text) (attributes : List String) :
    IdentityOptions.identity ⟨.profile path, attributes⟩ files
      = (Identity.ofJson (utf8 text)).mapError (.profile path)
        >>= attributes.foldlM setAttribute := by
  have hprofile : IdentityBase.ofProfile files path
      = (Identity.ofJson (utf8 text)).mapError (.profile path) :=
    bind_ok (mapError_ok h (CommandError.profileFile path)) _
  rw [identity, IdentityBase.identity, hprofile]

end Command

/-- A record whose numbers are integers is read back from its JSON, in one line or indented, if no
attribute is deeper than 125 levels, and is refused as malformed if one is. So what is shown of a
token that is accepted can be a profile, exactly up to that depth. -/
theorem Identity.ofJson_render_boundary (r : Identity)
    (hr : ∀ m ∈ r.attributes.toList, m.2.Integral) :
    (∀ l, l = Layout.compact ∨ l = Layout.indented →
      ((∀ m ∈ r.attributes.toList, m.2.depth ≤ 125) → ofJson (utf8 (r.render l)) = .ok r) ∧
      ((∃ m ∈ r.attributes.toList, 125 < m.2.depth) →
        ofJson (utf8 (r.render l)) = .error (.malformed (b := utf8 (r.render l))))) ∧
    ∀ c s arg secrets kind claims,
      Command.validate c s arg secrets kind = .ok (claims, r) →
      ∃ text, (Command.runValidate c s arg secrets kind true).result = .ok text ∧
        text = r.render .indented ++ "\n" ∧
        ∀ (files : FileSystem) path attributes, files.readText path = .ok text →
          ((∀ m ∈ r.attributes.toList, m.2.depth ≤ 125) →
            Command.IdentityOptions.identity ⟨.profile path, attributes⟩ files
              = attributes.foldlM Command.IdentityOptions.setAttribute r) ∧
          ((∃ m ∈ r.attributes.toList, 125 < m.2.depth) →
            Command.IdentityOptions.identity ⟨.profile path, attributes⟩ files
              = .error (.profile path (.malformed (b := utf8 text)))) := by
  have hblank : Blanks (utf8List ['\n']) := blanks_nil.cons rfl
  have hdeep (h : ∃ m ∈ r.attributes.toList, 125 < m.2.depth) :
      ¬∀ m ∈ r.attributes.toList, m.2.depth ≤ 125 := by
    obtain ⟨m, hm, hdepth⟩ := h
    exact fun hall => Nat.not_le.mpr hdepth (hall m hm)
  refine ⟨?_, ?_⟩
  · intro l hl
    have hregular : l.Regular := by
      rcases hl with rfl | rfl
      · exact Layout.regular_compact
      · exact Layout.regular_indented
    have hread := ofJson_render hregular hr blanks_nil
    rw [List.append_nil] at hread
    exact ⟨fun h => hread.trans (if_pos h), fun h => hread.trans (if_neg (hdeep h))⟩
  · intro c s arg secrets kind claims hvalidate
    have hread := ofJson_render Layout.regular_indented hr hblank
    rw [← Command.utf8_ofLines_singleton] at hread
    refine ⟨Command.ofLines [r.render .indented], ?_, Command.ofLines_singleton _, ?_⟩
    · rw [Command.result_runValidate, hvalidate]
      rfl
    · intro files path attributes hfile
      rw [Command.IdentityOptions.identity_of_profile hfile, hread]
      refine ⟨fun h => ?_, fun h => ?_⟩
      · rw [if_pos h]
        rfl
      · rw [if_neg (hdeep h)]
        rfl

/-- What is read of a token for a record with arrays inside one another. -/
private def nestedProfile (d : Nat) : Identity := (Issuer.nestedRecord d).withKind "JwtProfile"

private theorem Command.exists_validate_nestedProfile {d : Nat} (hd : d ≤ 126) :
    ∃ arg claims, validate default keyring arg ⟨none, some "e.key"⟩ none
      = .ok (claims, nestedProfile d) := by
  obtain ⟨arg, claims, h, -⟩ := exists_validate_keyring (Issuer.integral_nestedRecord d)
    (fun m hm => Nat.le_trans (Nat.le_of_eq (Issuer.depth_nestedRecord d m hm)) hd) none
  exact ⟨arg, claims, h⟩

/-- A file with a text. -/
private def holding (text : String) : FileSystem := ⟨[(["p.json"], .file (utf8 text))], []⟩

private theorem readText_holding (text : String) : (holding text).readText "p.json" = .ok text := by
  have hbytes : (holding text).readBytes "p.json" = .ok (utf8 text) := rfl
  rw [FileSystem.readText, bind_ok hbytes, ofUtf8?_utf8]

/-- What is shown of a record of 125 levels is a profile. A record of 126 levels is accepted from a
token, but what is shown of it is no profile. -/
theorem Identity.ofJson_render_nestedProfile :
    (∃ arg claims text,
      Command.validate default Command.keyring arg ⟨none, some "e.key"⟩ none
        = .ok (claims, nestedProfile 125) ∧
      (Command.runValidate default Command.keyring arg ⟨none, some "e.key"⟩ none true).result
        = .ok text ∧
      Command.IdentityOptions.identity ⟨.profile "p.json", []⟩ (holding text)
        = .ok (nestedProfile 125)) ∧
    ofJson (utf8 ((nestedProfile 125).render .compact)) = .ok (nestedProfile 125) ∧
    (∃ arg claims text,
      Command.validate default Command.keyring arg ⟨none, some "e.key"⟩ none
        = .ok (claims, nestedProfile 126) ∧
      (Command.runValidate default Command.keyring arg ⟨none, some "e.key"⟩ none true).result
        = .ok text ∧
      Command.IdentityOptions.identity ⟨.profile "p.json", []⟩ (holding text)
        = .error (.profile "p.json" (.malformed (b := utf8 text)))) ∧
    ofJson (utf8 ((nestedProfile 126).render .compact))
      = .error (.malformed (b := utf8 ((nestedProfile 126).render .compact))) := by
  have hshallow : ∀ m ∈ (nestedProfile 125).attributes.toList, m.2.depth ≤ 125 := fun m hm =>
    Nat.le_of_eq (Issuer.depth_nestedRecord 125 m hm)
  have hdeep : ∃ m ∈ (nestedProfile 126).attributes.toList, 125 < m.2.depth :=
    ⟨_, List.mem_singleton_self _, by rw [Issuer.depth_nestedArray]; decide⟩
  obtain ⟨hread, hshown⟩ := ofJson_render_boundary (nestedProfile 125)
    (Issuer.integral_nestedRecord 125)
  obtain ⟨hread', hshown'⟩ := ofJson_render_boundary (nestedProfile 126)
    (Issuer.integral_nestedRecord 126)
  refine ⟨?_, (hread _ (.inl rfl)).1 hshallow, ?_, (hread' _ (.inl rfl)).2 hdeep⟩
  · obtain ⟨arg, claims, hvalidate⟩ := Command.exists_validate_nestedProfile (d := 125) (by decide)
    obtain ⟨text, htext, -, hprofile⟩ := hshown _ _ _ _ _ _ hvalidate
    obtain ⟨hok, -⟩ := hprofile (holding text) "p.json" [] (readText_holding text)
    exact ⟨arg, claims, text, hvalidate, htext, hok hshallow⟩
  · obtain ⟨arg, claims, hvalidate⟩ := Command.exists_validate_nestedProfile (d := 126) (by decide)
    obtain ⟨text, htext, -, hprofile⟩ := hshown' _ _ _ _ _ _ hvalidate
    obtain ⟨-, herror⟩ := hprofile (holding text) "p.json" [] (readText_holding text)
    exact ⟨arg, claims, text, hvalidate, htext, herror hdeep⟩

end IdentityToken
