import IdentityToken.Proofs.Validation.Paths
/-!
# Encryption does not change what is accepted

Validating an encrypted text gives what validating the text itself gives, also when it fails. The
exceptions are tokens of the other two forms, which are refused for their form wherever they stand.
-/

namespace IdentityToken.Validator

open Text

/-- Inside an encryption the same is found as outside, also the same failure. -/
theorem find_encrypt_eq_find {v w : Validator} {encryption : Secret} {key : ContentKey}
    (hencryption : v.encryption = some encryption) (hblank : encryption.isBlank = false)
    (hkey : ContentKey.ofBytes encryption.bytes = .ok key) {n : String} (iv : Crypto.Gcm.Iv)
    (hform : ∀ t, Token.parse n = .ok t → t.form = .signed) :
    v.find (EncryptedToken.encrypt n key iv) = w.find n := by
  rw [find_encrypt hencryption hblank hkey]
  cases hparse : Token.parse n with
  | error e =>
    rw [nestedToken_of_error hparse, w.find_of_error hparse]
    rfl
  | ok t =>
    cases t with
    | signed s =>
      rw [nestedToken_of_signed hparse, w.find_of_signed hparse]
      rfl
    | encrypted e => cases hform _ hparse
    | unsecured u => cases hform _ hparse

/-- Validation looks through an encryption: the result is that of the text inside, unless this is a
token of another form, which is refused for its form. The secret for encryption does not matter to
a signed token. -/
theorem claims_encrypt_eq_claims (signing encryption : Secret)
    (hblank : encryption.isBlank = false) (hlength : encryption.bytes.length = 32) :
    ∃ key, ContentKey.ofBytes encryption.bytes = .ok key ∧
      (∀ (iv : Crypto.Gcm.Iv) (n : String),
        ((∀ t, Token.parse n = .ok t → t.form = .signed) →
          (ofSecrets signing encryption).claims (EncryptedToken.encrypt n key iv)
            = (ofSigning signing).claims n) ∧
        ∀ t, Token.parse n = .ok t → t.form ≠ .signed → signing.isBlank = false →
          (ofSecrets signing encryption).claims (EncryptedToken.encrypt n key iv)
            = .error (.format (.nestedNotSigned t.form))) ∧
      ∀ (v : Validator) (other : Option Secret) (n : String) (s : SignedToken),
        Token.parse n = .ok (.signed s) → { v with encryption := other }.claims n = v.claims n := by
  obtain ⟨key, hkey⟩ := ContentKey.exists_ofBytes hlength
  refine ⟨key, hkey, ?_, ?_⟩
  · intro iv n
    refine ⟨?_, ?_⟩
    · intro hform
      rw [claims_eq, claims_eq,
        find_encrypt_eq_find (w := ofSigning signing) rfl hblank hkey iv hform]
      rfl
    · intro t hparse hform hsigning
      have hsome : (ofSecrets signing encryption).signing = some signing := rfl
      rw [claims_eq, find_encrypt rfl hblank hkey, nestedToken_of_form_ne hparse hform,
        conclude_of_usable hsome hsigning]
      rfl
  · intro v other n s hparse
    rw [claims_eq, claims_eq, find_of_signed _ hparse, find_of_signed _ hparse]

/-- A text that is no token and a token without a signature, encrypted under a secret with a letter
beyond ASCII. -/
theorem claims_encrypt_of_unsecured :
    Secret.isBlank ⟨"0123456789abcdef0123456789abcdñ"⟩ = false ∧
      (Secret.bytes ⟨"0123456789abcdef0123456789abcdñ"⟩).length = 32 ∧
      ∃ key, ContentKey.ofBytes (Secret.bytes ⟨"0123456789abcdef0123456789abcdñ"⟩) = .ok key ∧
        ∀ iv : Crypto.Gcm.Iv,
          (ofSecrets ⟨"signing"⟩ ⟨"0123456789abcdef0123456789abcdñ"⟩).claims
              (EncryptedToken.encrypt "a.b" key iv)
            = (ofSigning ⟨"signing"⟩).claims "a.b" ∧
          (ofSecrets ⟨"signing"⟩ ⟨"0123456789abcdef0123456789abcdñ"⟩).claims
              (EncryptedToken.encrypt "eyJhbGciOiJub25lIn0.e30." key iv)
            = .error (.format (.nestedNotSigned .unsecured)) := by
  have hblank : Secret.isBlank ⟨"0123456789abcdef0123456789abcdñ"⟩ = false := by decide
  have hlength : (Secret.bytes ⟨"0123456789abcdef0123456789abcdñ"⟩).length = 32 := by decide
  have hnone : Token.parse "a.b" = .error (.segmentCount 2) := rfl
  have hunsecured : Token.parse "eyJhbGciOiJub25lIn0.e30."
      = .ok (.unsecured ⟨Header.signed Header.unsecured, "e30"⟩) :=
    toOption_eq_some_iff.mp (by decide +kernel)
  obtain ⟨key, hkey, hnested, -⟩ := claims_encrypt_eq_claims ⟨"signing"⟩ _ hblank hlength
  refine ⟨hblank, hlength, key, hkey, fun iv => ⟨(hnested iv _).1 ?_, ?_⟩⟩
  · intro t ht
    rw [hnone] at ht
    cases ht
  · exact (hnested iv _).2 _ hunsecured (by decide) (by decide)

end IdentityToken.Validator
