import IdentityToken.Proofs.Sealing
import IdentityToken.Proofs.Token.Forms
import IdentityToken.Proofs.Token.Issued
import IdentityToken.Proofs.Validation.Acceptance
import IdentityToken.Proofs.Validation.Inspection
/-!
# What an encrypted token discloses

Two of the five segments of an encrypted token are always the same and one is the initialization
vector. Of the other two the tag has one length only, and the ciphertext is as long as the signed
token inside. So this length stands in the clear, and nothing else of the record, the instant and
the secrets.
-/

namespace IdentityToken

open Text

/-- The header of all encrypted tokens. -/
def Header.sealing : Header := Header.encrypted Header.direct Header.a256gcm

/-- What everybody sees of an encrypted text: the initialization vector and how many octets there
are inside. -/
structure Discloses (text : String) (iv : Crypto.Gcm.Iv) (octets : Nat) : Prop where
  inspected : Inspection.ofText text = .ok ⟨.encrypted, Header.sealing, none⟩
  segmented : ∃ ciphertext tag,
    Token.Segmented text
      [Header.sealing.encode, "", Base64Url.encode iv.toList, Base64Url.encode ciphertext,
        Base64Url.encode tag] ∧
    ciphertext.length = octets ∧ tag.length = 16

namespace EncryptedToken

theorem discloses_encrypt (nested : String) (key : ContentKey) (iv : Crypto.Gcm.Iv) :
    Discloses (encrypt nested key iv) iv (utf8 nested).length := by
  have hparse := parse_encrypt nested key iv
  refine ⟨Inspection.ofText_eq_ok_iff.mpr ⟨_, hparse, rfl, rfl, rfl⟩, ?_⟩
  have hsegmented := Token.segmented_iff.mpr (Token.parse_eq_encrypted_iff.mp hparse).1
  exact ⟨_, _, hsegmented, key.length_ciphertext_encrypt .., key.length_tag_encrypt ..⟩

end EncryptedToken

namespace Issuer

/-- Two secrets with which tokens are encrypted. -/
structure Seals (signing encryption : Secret) : Prop where
  signing_usable : signing.isBlank = false
  signing_length : 32 ≤ signing.bytes.length
  encryption_usable : encryption.isBlank = false
  encryption_length : encryption.bytes.length = 32

/-- An issuer with such secrets encrypts the token that it would issue if it only signed. -/
theorem Seals.exists_issue {signing encryption : Secret} (h : Seals signing encryption)
    (r : Identity) (at_ : Instant) (iv : Crypto.Gcm.Iv) :
    ∃ text nested, (ofSecrets signing encryption).issue r at_ iv = .ok text ∧
      (ofSecret signing false).issue r at_ iv = .ok nested ∧
      Validator.Encrypts encryption text nested ∧ Discloses text iv (utf8 nested).length := by
  obtain ⟨key, hkey⟩ := SigningKey.exists_ofBytes h.signing_length
  obtain ⟨contentKey, hcontentKey⟩ := ContentKey.exists_ofBytes h.encryption_length
  let nested := SignedToken.sign (ClaimSet.forIdentity r name at_) key
  have hwrap : (ofSecrets signing encryption).wrap iv nested
      = .ok (EncryptedToken.encrypt nested contentKey iv) :=
    (wrap_eq_ok_iff rfl h.encryption_usable).mpr ⟨contentKey, hcontentKey, rfl⟩
  have hplain : (ofSecret signing false).wrap iv nested = .ok nested :=
    wrap_of_unusable (unusable_ofSecret signing)
  refine ⟨_, nested, issue_eq_ok_iff.mpr ⟨signing, rfl, h.signing_usable, key, hkey, hwrap⟩,
    issue_eq_ok_iff.mpr ⟨signing, rfl, h.signing_usable, key, hkey, hplain⟩, ?_, ?_⟩
  · exact Validator.encrypts_encrypt nested hcontentKey iv
  · exact EncryptedToken.discloses_encrypt nested contentKey iv

/-- Two encrypted tokens look alike but for the initialization vectors and the lengths of what is
inside, whatever records, instants and secrets they were issued for. -/
theorem issue_discloses_length {signing encryption signing' encryption' : Secret}
    (h : Seals signing encryption) (h' : Seals signing' encryption') (r r' : Identity)
    (at_ at_' : Instant) (iv iv' : Crypto.Gcm.Iv) :
    ∃ text text' nested nested',
      (ofSecrets signing encryption).issue r at_ iv = .ok text ∧
      (ofSecrets signing' encryption').issue r' at_' iv' = .ok text' ∧
      (ofSecret signing false).issue r at_ iv = .ok nested ∧
      (ofSecret signing' false).issue r' at_' iv' = .ok nested' ∧
      Validator.Encrypts encryption text nested ∧ Validator.Encrypts encryption' text' nested' ∧
      (∃ i, Inspection.ofText text = .ok i ∧ Inspection.ofText text' = .ok i ∧
        i.form = .encrypted ∧ i.header = ⟨"dir", some "A256GCM", some "JWT", none⟩ ∧
        i.claims = none) ∧
      ∃ header x y z x' y' z',
        Token.Segmented text [header, "", x, y, z] ∧
        Token.Segmented text' [header, "", x', y', z'] ∧
        x = Base64Url.encode iv.toList ∧ x' = Base64Url.encode iv'.toList ∧
        x.length = x'.length ∧ z.length = z'.length ∧
        (y.length = y'.length ↔ (utf8 nested).length = (utf8 nested').length) ∧
        ∀ segment ∈ [header, x, y, z, x', y', z'], ∀ c ∈ segment.toList,
          c.isAlphanum = true ∨ c = '-' ∨ c = '_' := by
  obtain ⟨text, nested, hissue, hplain, hencrypts, hinspected, ciphertext, tag, hsegmented,
    hciphertext, htag⟩ := h.exists_issue r at_ iv
  obtain ⟨text', nested', hissue', hplain', hencrypts', hinspected', ciphertext', tag',
    hsegmented', hciphertext', htag'⟩ := h'.exists_issue r' at_' iv'
  refine ⟨text, text', nested, nested', hissue, hissue', hplain, hplain', hencrypts, hencrypts',
    ⟨_, hinspected, hinspected', rfl, rfl, rfl⟩, Header.sealing.encode, _, _, _, _, _, _,
    hsegmented, hsegmented', rfl, rfl, ?_, ?_, ?_, ?_⟩
  · rw [Base64Url.length_encode_eq_iff, Vector.length_toList, Vector.length_toList]
  · rw [Base64Url.length_encode_eq_iff, htag, htag']
  · rw [Base64Url.length_encode_eq_iff, hciphertext, hciphertext']
  · have hsegment (b : Bytes) := Base64Url.isAlphanum_of_mem_encode b
    simp only [List.forall_mem_cons, Header.encode]
    exact ⟨hsegment _, hsegment _, hsegment _, hsegment _, hsegment _, hsegment _, hsegment _,
      List.forall_mem_nil _⟩

/-- Tokens for two records at two instants under different secrets, of which some have letters
beyond ASCII and others are used twice, give the same view. -/
theorem issue_discloses_length_accented :
    ∃ text text' i,
      accented.issue (nestedRecord 126) ⟨-1, 1999999999, by decide, by decide⟩
        (Vector.replicate 12 0) = .ok text ∧
      (ofSecret ⟨"fedcba9876543210fedcba9876543210"⟩ true).issue (nestedRecord 0)
        ⟨0, 5, by decide, by decide⟩ (Vector.replicate 12 255) = .ok text' ∧
      Inspection.ofText text = .ok i ∧ Inspection.ofText text' = .ok i ∧ i.claims = none := by
  have haccented : Seals ⟨"0123456789abcdef0123456789abcdeü"⟩
      ⟨"0123456789abcdef0123456789abcdñ"⟩ := ⟨by decide, by decide, by decide, by decide⟩
  have htwice : Seals ⟨"fedcba9876543210fedcba9876543210"⟩
      ⟨"fedcba9876543210fedcba9876543210"⟩ := ⟨by decide, by decide, by decide, by decide⟩
  obtain ⟨text, text', -, -, hissue, hissue', -, -, -, -, ⟨i, hi, hi', -, -, hclaims⟩, -⟩ :=
    issue_discloses_length haccented htwice (nestedRecord 126) (nestedRecord 0)
      ⟨-1, 1999999999, by decide, by decide⟩ ⟨0, 5, by decide, by decide⟩
      (Vector.replicate 12 0) (Vector.replicate 12 255)
  exact ⟨text, text', i, hissue, hissue', hi, hi', hclaims⟩

end Issuer

end IdentityToken
