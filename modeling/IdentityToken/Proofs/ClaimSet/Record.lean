import IdentityToken.Proofs.ClaimSet.Json
import IdentityToken.Proofs.Identity
import IdentityToken.Validator
/-!
# Claims and the records they carry

The names that are not among the other claims are the names that no attribute has. So only blanks
keep claims from being a record: a blank subject or a blank name. Which kind subjects get that have
none does not matter.
-/

namespace IdentityToken

open Text

namespace ClaimSet

variable {c : ClaimSet} {kind : String}

/-- The subject and the names of the other claims are not blank. -/
def Named (c : ClaimSet) : Prop :=
  trim c.subject ≠ "" ∧ ∀ name ∈ c.extra.keys, trim name ≠ ""

theorem separator_mem_typedId (c : ClaimSet) (kind : String) :
    Identity.separator ∈ (c.typedId kind).toList := by
  unfold typedId
  split
  · next h => exact h
  · simp [Identity.typed, Char.toString]

/-- A typed id has the mark between kind and id, so it is not blank even if both are. -/
theorem trim_typedId_ne_empty (c : ClaimSet) (kind : String) : trim (c.typedId kind) ≠ "" := by
  rw [ne_eq, trim_eq_empty_iff]
  intro hblank
  have hspace := hblank _ (c.separator_mem_typedId kind)
  exact absurd hspace (by decide)

theorem not_mem_reservedKeys_of_mem_keys {name : String} (h : name ∈ c.extra.keys) :
    name ∉ reservedKeys := by
  intro hreserved
  obtain ⟨x, hx⟩ := StringMap.mem_keys_iff.mp h
  rw [c.get?_extra_of_mem_reservedKeys hreserved] at hx
  cases hx

/-- Of the names of claims only blank ones are refused. -/
theorem refusedKey_iff {name : String} (h : name ∈ c.extra.keys) :
    RefusedKey name ↔ trim name = "" :=
  or_iff_left (not_mem_reservedKeys_of_mem_keys h)

theorem admissible_iff_named (hsubject : trim c.subject ≠ "") :
    Identity.Admissible (c.typedId kind) c.extra ↔ c.Named := by
  rw [Identity.Admissible, and_iff_right (c.trim_typedId_ne_empty kind), Named,
    and_iff_right hsubject]
  exact forall₂_congr fun name hname => not_congr (refusedKey_iff hname)

theorem toIdentity_of_blank (h : trim c.subject = "") :
    c.toIdentity kind = .error .subjectBlank :=
  if_pos (trim_eq_empty_iff.mp h)

theorem toIdentity_of_not_blank (h : trim c.subject ≠ "") :
    c.toIdentity kind
      = (Identity.ofParts (c.typedId kind) c.extra).mapError .notIdentity :=
  if_neg (mt trim_eq_empty_iff.mpr h)

theorem toIdentity_eq_ok_iff {r : Identity} :
    c.toIdentity kind = .ok r ↔
      ¬Blank c.subject ∧ r.typedId = c.typedId kind ∧ r.attributes = c.extra := by
  unfold toIdentity
  split
  · next h => simp [h]
  · next h => rw [mapError_eq_ok_iff, Identity.ofParts_eq_ok_iff, and_iff_right h]

theorem exists_toIdentity_iff (c : ClaimSet) (kind : String) :
    (∃ r, c.toIdentity kind = .ok r) ↔ c.Named := by
  by_cases hsubject : trim c.subject = ""
  · rw [toIdentity_of_blank hsubject]
    simp [Named, hsubject]
  · simp only [toIdentity_of_not_blank hsubject, mapError_eq_ok_iff]
    rw [Identity.exists_ofParts_iff, admissible_iff_named hsubject]

/-- What is wrong with claims that are no record is a blank. -/
theorem toIdentity_eq_error {e : FormatError} (h : c.toIdentity kind = .error e) :
    trim c.subject = "" ∧ e = .subjectBlank ∨
      trim c.subject ≠ "" ∧ (∃ name ∈ c.extra.keys, trim name = "") ∧
        e = .notIdentity .blankKey := by
  by_cases hsubject : trim c.subject = ""
  · rw [toIdentity_of_blank hsubject] at h
    cases h
    exact .inl ⟨hsubject, rfl⟩
  · rw [toIdentity_of_not_blank hsubject] at h
    obtain ⟨cause, hcause, rfl⟩ := mapError_eq_error_iff.mp h
    rcases Identity.ofParts_eq_error hcause with ⟨hblank, -⟩ | ⟨-, name, hfirst, rfl⟩
    · exact absurd hblank (c.trim_typedId_ne_empty kind)
    · obtain ⟨hname, hrefused, -⟩ := hfirst
      have hblank := (refusedKey_iff hname).mp hrefused
      exact .inr ⟨hsubject, ⟨name, hname, hblank⟩, by rw [RecordError.ofRefused, if_pos hblank]⟩

end ClaimSet

theorem Validator.exists_validate_iff {v : Validator} {text : String} :
    (∃ r, v.validate text = .ok r) ↔ ∃ c, v.claims text = .ok c ∧ c.Named := by
  simp only [validate, bind_eq_ok_iff, mapError_eq_ok_iff,
    ← ClaimSet.exists_toIdentity_iff _ v.defaultKind]
  constructor
  · rintro ⟨r, c, hc, hr⟩
    exact ⟨c, hc, r, hr⟩
  · rintro ⟨c, hc, r, hr⟩
    exact ⟨r, c, hc, hr⟩

/-- Claims that were read are a record exactly if no blank is where a name should be, whatever kind
subjects get that have none. The record has all other claims as they are, and what is wrong with
claims that are no record is never that a name is reserved. So a token is accepted whenever its
claims are, unless they have such a blank. -/
theorem ClaimSet.toIdentity_of_ofJson :
    (∀ x c kind, ofJson x = .ok c → ∃ m, x = .object m ∧
      (∀ name, name ∈ c.extra.keys ↔ name ∈ m.keys ∧ name ∉ ["sub", "iat", "iss"]) ∧
      ((∃ r, c.toIdentity kind = .ok r) ↔
        trim c.subject ≠ "" ∧ ∀ name ∈ c.extra.keys, trim name ≠ "") ∧
      (∀ r, c.toIdentity kind = .ok r → r.attributes = c.extra ∧
        r.typedId = if '#' ∈ c.subject.toList then c.subject else kind ++ "#" ++ c.subject) ∧
      (∀ e, (c.toIdentity kind).mapError TokenError.format = .error e → e.kind = .format ∧
        (e = .format .subjectBlank ∨ e = .format (.notIdentity .blankKey))) ∧
      ∀ key, c.toIdentity kind ≠ .error (.notIdentity (.reservedKey key))) ∧
    ∀ (v : Validator) text,
      ((∃ r, v.validate text = .ok r) ↔ ∃ c, v.claims text = .ok c ∧
        trim c.subject ≠ "" ∧ ∀ name ∈ c.extra.keys, trim name ≠ "") ∧
      ∀ kind, (∃ r, v.validate text = .ok r) ↔
        ∃ r, Validator.validate { v with defaultKind := kind } text = .ok r := by
  refine ⟨?_, ?_⟩
  · intro x c kind hc
    obtain ⟨m, rfl, hm⟩ := ofJson_eq_ok_iff.mp hc
    refine ⟨m, rfl, fun name => ?_, c.exists_toIdentity_iff kind, ?_, ?_, ?_⟩
    · rw [(ofMembers_eq_ok_iff.mp hm).2.2.2]
      exact mem_keys_extraOf_iff
    · intro r hr
      obtain ⟨-, htypedId, hattributes⟩ := toIdentity_eq_ok_iff.mp hr
      exact ⟨hattributes, htypedId⟩
    · intro e he
      obtain ⟨cause, hcause, rfl⟩ := mapError_eq_error_iff.mp he
      refine ⟨rfl, (toIdentity_eq_error hcause).imp ?_ ?_⟩
      · exact fun ⟨_, hblank⟩ => congrArg TokenError.format hblank
      · exact fun ⟨_, _, hblank⟩ => congrArg TokenError.format hblank
    · intro key hkey
      rcases toIdentity_eq_error hkey with ⟨-, he⟩ | ⟨-, -, he⟩
      · cases he
      · cases he
  · intro v text
    refine ⟨Validator.exists_validate_iff, fun kind => ?_⟩
    have hclaims : Validator.claims { v with defaultKind := kind } text = v.claims text := rfl
    rw [Validator.exists_validate_iff, Validator.exists_validate_iff, hclaims]

/-- A name that is reserved but for a blank after it is an attribute like others. A name that is a
wide blank is refused. -/
theorem ClaimSet.toIdentity_of_ofJson_blanks :
    (∃ c r, ofJson (.object (.ofList [("sub", .string "ada"), ("iss ", .null)])) = .ok c ∧
      c.toIdentity "" = .ok r ∧ r.typedId = "#ada" ∧ r.attributes.keys = ["iss "]) ∧
    ∃ c, ofJson (.object (.ofList [("sub", .string "#"), ("\u3000", .null)])) = .ok c ∧
      ¬∃ r, c.toIdentity "User" = .ok r := by
  refine ⟨?_, ?_⟩
  · let m : Members := .ofList [("sub", .string "ada"), ("iss ", .null)]
    let c : ClaimSet := ⟨"ada", none, none, extraOf m, unregistered_extraOf m⟩
    have hc : ofJson (.object m) = .ok c := rfl
    obtain ⟨-, -, -, hiff, hrecord, -⟩ := toIdentity_of_ofJson.1 _ c "" hc
    obtain ⟨r, hr⟩ := hiff.mpr (by decide)
    obtain ⟨hattributes, htypedId⟩ := hrecord r hr
    have hunkinded : '#' ∉ c.subject.toList := by decide
    rw [if_neg hunkinded] at htypedId
    exact ⟨c, r, hc, hr, htypedId, by rw [hattributes]; rfl⟩
  · let m : Members := .ofList [("sub", .string "#"), ("\u3000", .null)]
    let c : ClaimSet := ⟨"#", none, none, extraOf m, unregistered_extraOf m⟩
    have hc : ofJson (.object m) = .ok c := rfl
    obtain ⟨-, -, -, hiff, -⟩ := toIdentity_of_ofJson.1 _ c "User" hc
    refine ⟨c, hc, ?_⟩
    rw [hiff]
    decide

end IdentityToken
