import IdentityToken.Proofs.ClaimSet.Record
import IdentityToken.Proofs.Issuance
import IdentityToken.Proofs.Json.Depth
/-!
# Records that were accepted are issued again

What a validator gives is a record that an issuer can carry: its attributes were read from a token,
so they are not too deep, and its typed id has a kind. Tokens for it are read back as this very
record, whatever the default kind, wherever the first token came from.
-/

namespace IdentityToken

open Text

namespace ClaimSet

private theorem mem_of_mem_extraOf {m : Members} {a : String × Json}
    (h : a ∈ (extraOf m).toList) : a ∈ m.toList := by
  have herase {m : Members} {k : String} (h : a ∈ (m.erase k).toList) : a ∈ m.toList :=
    (List.mem_filter.mp h).1
  exact herase (herase (herase h))

/-- The object around the claims takes one of the levels that are read. -/
theorem depth_extra_le {b : Bytes} {c : ClaimSet} (h : ofPayload b = .ok c) :
    ∀ m ∈ c.extra.toList, m.2.depth ≤ 126 := by
  obtain ⟨x, hx, hc⟩ := ofPayload_eq_ok_iff.mp h
  obtain ⟨members, rfl, hmembers⟩ := ofJson_eq_ok_iff.mp hc
  have hdepth : (Json.object members).depth ≤ 126 + 1 := Json.depth_le_of_ofBytes? hx
  rw [Json.depth_object_le_iff] at hdepth
  intro m hm
  rw [(ofMembers_eq_ok_iff.mp hmembers).2.2.2] at hm
  exact hdepth m (mem_of_mem_extraOf hm)

end ClaimSet

theorem Identity.withKind_of_separator_mem {r : Identity} (h : separator ∈ r.typedId.toList)
    (kind : String) : r.withKind kind = r :=
  ext (if_pos h) rfl

namespace Validator

variable {v : Validator} {text : String}

theorem ofPayload_of_claims_eq_ok {c : ClaimSet} (h : v.claims text = .ok c) :
    ∃ b, ClaimSet.ofPayload b = .ok c := by
  rw [claims_eq, conclude_eq_ok_iff] at h
  obtain ⟨secret, t, -, -, -, hc⟩ := h
  obtain ⟨-, -, -, hclaims⟩ := authenticate_eq_ok_iff.mp hc
  obtain ⟨b, -, hb⟩ := bind_eq_ok_iff.mp hclaims
  exact ⟨b, hb⟩

/-- A record that was accepted is not too deep and has a kind. -/
theorem depth_le_and_separator_mem_of_validate {r : Identity} (h : v.validate text = .ok r) :
    (∀ m ∈ r.attributes.toList, m.2.depth ≤ 126) ∧ Identity.separator ∈ r.typedId.toList := by
  obtain ⟨c, hc, hr⟩ := bind_eq_ok_iff.mp h
  obtain ⟨b, hb⟩ := ofPayload_of_claims_eq_ok hc
  obtain ⟨-, htypedId, hattributes⟩ := ClaimSet.toIdentity_eq_ok_iff.mp (mapError_eq_ok_iff.mp hr)
  rw [htypedId, hattributes]
  exact ⟨ClaimSet.depth_extra_le hb, c.separator_mem_typedId v.defaultKind⟩

end Validator

namespace Issuer

/-- A record that is not too deep is issued and read back. -/
theorem exists_issue_withKind {i : Issuer} {secret : Secret} (hsecret : i.signing = some secret)
    (hblank : secret.isBlank = false) (hlength : 32 ≤ secret.bytes.length)
    (hencryption : ∀ e, i.encryption = some e → e.isBlank = true ∨ e.bytes.length = 32)
    {r : Identity} (hintegral : ∀ m ∈ r.attributes.toList, m.2.Integral)
    (hdepth : ∀ m ∈ r.attributes.toList, m.2.depth ≤ 126) (at_ : Instant)
    (iv : Crypto.Gcm.Iv) (kind : String) :
    ∃ text, i.issue r at_ iv = .ok text ∧
      (i.validator kind).validate text = .ok (r.withKind kind) := by
  obtain ⟨text, hissue, hclaims⟩ := exists_issue hsecret hblank hlength hencryption r at_ iv kind
  have hshallow : (ClaimSet.forIdentity r name at_).toJson.depth ≤ Json.maxDepth :=
    ClaimSet.depth_toJson_le_iff.mpr hdepth
  rw [ClaimSet.ofPayload_payload hintegral, if_pos hshallow] at hclaims
  refine ⟨text, hissue, ?_⟩
  rw [Validator.validate, bind_ok hclaims]
  exact mapError_ok (ClaimSet.toIdentity_forIdentity r name at_ kind) _

/-- A record that some validator accepted is issued by every issuer whose secrets are long enough,
and a validator with the same secrets gives exactly this record. -/
theorem exists_reissue_of_validate (v : Validator) (text : String) (r : Identity)
    (haccepted : v.validate text = .ok r) (hintegral : ∀ m ∈ r.attributes.toList, m.2.Integral)
    (i : Issuer) {secret : Secret} (hsecret : i.signing = some secret)
    (hblank : secret.isBlank = false) (hlength : 32 ≤ secret.bytes.length)
    (hencryption : ∀ e, i.encryption = some e → e.isBlank = true ∨ e.bytes.length = 32)
    (at_ : Instant) (iv : Crypto.Gcm.Iv) (kind : String) :
    ∃ again, i.issue r at_ iv = .ok again ∧ (i.validator kind).validate again = .ok r := by
  obtain ⟨hdepth, hseparator⟩ := Validator.depth_le_and_separator_mem_of_validate haccepted
  obtain ⟨again, hissue, hvalidate⟩ :=
    exists_issue_withKind hsecret hblank hlength hencryption hintegral hdepth at_ iv kind
  rw [Identity.withKind_of_separator_mem hseparator] at hvalidate
  exact ⟨again, hissue, hvalidate⟩

/-- A record of 126 arrays gets an empty kind from the validator that first accepts it. Issued again
under other secrets, without encryption, it keeps this kind. -/
theorem exists_reissue_nestedRecord :
    ∃ text r again, (accented.validator "").validate text = .ok r ∧ r.typedId = "#ada" ∧
      (ofSecret ⟨"fedcba9876543210fedcba9876543210"⟩ false).issue r ⟨0, 5, by decide, by decide⟩
        (Vector.replicate 12 1) = .ok again ∧
      ((ofSecret ⟨"fedcba9876543210fedcba9876543210"⟩ false).validator "User").validate again
        = .ok r := by
  have hintegral : ∀ m ∈ (nestedRecord 126).attributes.toList, m.2.Integral := fun m hm =>
    List.mem_singleton.mp hm ▸ integral_nestedArray 126
  have hdepth : ∀ m ∈ (nestedRecord 126).attributes.toList, m.2.depth ≤ 126 := fun m hm =>
    List.mem_singleton.mp hm ▸ Nat.le_of_eq (depth_nestedArray 126)
  obtain ⟨text, -, haccepted⟩ := exists_issue_withKind (i := accented) rfl (by decide) (by decide)
    encryption_accented hintegral hdepth ⟨-1, 1999999999, by decide, by decide⟩
    (Vector.replicate 12 0) ""
  obtain ⟨again, hissue, hvalidate⟩ := exists_reissue_of_validate (accented.validator "") text
    ((nestedRecord 126).withKind "") haccepted hintegral
    (ofSecret ⟨"fedcba9876543210fedcba9876543210"⟩ false) rfl (by decide) (by decide) nofun
    ⟨0, 5, by decide, by decide⟩ (Vector.replicate 12 1) "User"
  exact ⟨text, _, again, haccepted, rfl, hissue, hvalidate⟩

end Issuer

end IdentityToken
