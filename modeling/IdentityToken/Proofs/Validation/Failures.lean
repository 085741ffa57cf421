import IdentityToken.Proofs.Validation.Acceptance
/-!
# Where a validation fails

A validation fails with the cause of the first of its steps that fails. The steps check the
algorithm of a token once more; a token that was read from text always passes that check.
-/

namespace IdentityToken

namespace Secret

/-- A secret is missing or blank. -/
def Unusable (s : Option Secret) : Prop := ∀ secret, s = some secret → secret.isBlank = true

theorem usable?_eq_none_iff {s : Option Secret} : usable? s = none ↔ Unusable s := by
  simp [usable?, Unusable, Option.filter_eq_none_iff]

theorem not_unusable_iff {s : Option Secret} :
    ¬Unusable s ↔ ∃ secret, s = some secret ∧ secret.isBlank = false := by
  simp [Unusable]

end Secret

namespace Validator

variable {v : Validator} {text : String} {P : TokenError → Prop}

theorem failsWith_claims_iff :
    FailsWith (v.claims text) P ↔
      Secret.Unusable v.signing ∧ P (.setup (.blankSecret .signing)) ∨
      ∃ secret, v.signing = some secret ∧ secret.isBlank = false ∧
        (FailsWith (v.find text) P ∨
          ∃ t, v.find text = .ok t ∧ FailsWith (authenticate secret t) P) := by
  rw [claims_eq, conclude, ← Secret.usable?_eq_none_iff]
  simp only [← and_assoc, ← Secret.usable?_eq_some_iff]
  cases Secret.usable? v.signing with
  | none => simp [failsWith_error_iff]
  | some secret => simp [failsWith_bind_iff]

theorem failsWith_find_iff :
    FailsWith (v.find text) P ↔
      FailsWith (Token.parse text) (fun e => P (.format e)) ∨
      (∃ u, Token.parse text = .ok (.unsecured u)) ∧ P (.format .unsecured) ∨
      ∃ e, Token.parse text = .ok (.encrypted e) ∧ FailsWith (v.unwrap e) P := by
  cases hparse : Token.parse text with
  | error e => simp [v.find_of_error hparse, failsWith_error_iff]
  | ok token =>
    cases token with
    | signed t => simp [v.find_of_signed hparse, not_failsWith_ok]
    | encrypted e => simp [v.find_of_encrypted hparse, not_failsWith_ok]
    | unsecured u => simp [v.find_of_unsecured hparse, failsWith_error_iff, not_failsWith_ok]

theorem failsWith_unwrap_iff {e : EncryptedToken} :
    FailsWith (v.unwrap e) P ↔
      Secret.Unusable v.encryption ∧ P (.setup (.blankSecret .encryption)) ∨
      ∃ secret, v.encryption = some secret ∧ secret.isBlank = false ∧
        (FailsWith (ContentKey.ofBytes secret.bytes) (fun e => P (.crypto e)) ∨
          ∃ key, ContentKey.ofBytes secret.bytes = .ok key ∧
            (FailsWith (e.decrypt key.decrypter) P ∨
              ∃ payload, e.decrypt key.decrypter = .ok payload ∧
                FailsWith (nestedToken payload) (fun e => P (.format e)))) := by
  rw [unwrap, ← Secret.usable?_eq_none_iff]
  simp only [← and_assoc, ← Secret.usable?_eq_some_iff]
  cases Secret.usable? v.encryption with
  | none => simp [failsWith_error_iff]
  | some secret => simp [failsWith_bind_iff, failsWith_mapError_iff, mapError_eq_ok_iff]

theorem failsWith_authenticate_iff {secret : Secret} {t : SignedToken} :
    FailsWith (authenticate secret t) P ↔
      FailsWith (SigningKey.ofBytes secret.bytes) (fun e => P (.crypto e)) ∨
      ∃ key, SigningKey.ofBytes secret.bytes = .ok key ∧
        (FailsWith (t.verify key.verifier) (fun e => P (.verification e)) ∨
          t.verify key.verifier = .ok () ∧ FailsWith t.claims fun e => P (.format e)) := by
  have hunit (x : Except VerificationError Unit) : (∃ u, x = .ok u) ↔ x = .ok () :=
    ⟨fun ⟨(), h⟩ => h, fun h => ⟨(), h⟩⟩
  simp [authenticate, failsWith_bind_iff, failsWith_mapError_iff, mapError_eq_ok_iff, hunit]

theorem alg_of_find {t : SignedToken} (h : v.find text = .ok t) : t.header.alg = Header.hs256 := by
  obtain ⟨signed, hsigned, -⟩ := find_eq_ok_iff_encrypts.mp h
  exact (Token.parse_eq_signed_iff.mp hsigned).2.2

end Validator

/-! ## Other algorithms -/

namespace TokenError

/-- The causes that name another algorithm than that of the key. -/
def OtherAlgorithm : TokenError → Prop
  | .verification (.otherAlgorithm _ _) => True
  | .format (.unexpectedEncryption _ _ _ _) => True
  | _ => False

end TokenError

/-- The same of the causes that lie in the form of a token. -/
def FormatError.OtherAlgorithm (e : FormatError) : Prop := (TokenError.format e).OtherAlgorithm

open FormatError (OtherAlgorithm)

/-! Nothing that reads a text looks at the algorithm of a key. -/

private theorem not_otherAlgorithm_decode (segment : String) :
    ¬FailsWith (Header.decode segment) OtherAlgorithm := by
  unfold Header.decode
  split
  · exact failsWith_error_iff.mp
  · split
    · exact failsWith_error_iff.mp
    · exact not_failsWith_ok

private theorem not_otherAlgorithm_parse (text : String) :
    ¬FailsWith (Token.parse text) OtherAlgorithm := by
  unfold Token.parse Token.ofSegments
  split
  · simp only [failsWith_bind_iff, not_otherAlgorithm_decode, false_or, Token.ofThree]
    rintro ⟨d, -, h⟩
    split at h
    · exact not_failsWith_ok h
    · split at h
      · exact not_failsWith_ok h
      · exact failsWith_error_iff.mp h
  · simp only [failsWith_bind_iff, not_otherAlgorithm_decode, false_or, Token.ofFive]
    rintro ⟨d, -, h⟩
    split at h
    · exact failsWith_error_iff.mp h
    · split at h
      · exact failsWith_error_iff.mp h
      · exact not_failsWith_ok h
  · exact failsWith_error_iff.mp

private theorem not_otherAlgorithm_ofMembers (m : Members) :
    ¬FailsWith (ClaimSet.ofMembers m) OtherAlgorithm := by
  simp only [ClaimSet.ofMembers, failsWith_bind_iff]
  rintro (h | ⟨subject, -, h | ⟨issuedAt, -, h | ⟨issuer, -, h⟩⟩⟩)
  · unfold ClaimSet.subjectOf at h
    split at h
    · exact failsWith_error_iff.mp h
    · split at h
      · exact failsWith_error_iff.mp h
      · exact not_failsWith_ok h
  · unfold ClaimSet.issuedAtOf at h
    split at h
    · exact not_failsWith_ok h
    · split at h
      · exact failsWith_error_iff.mp h
      · split at h
        · exact failsWith_error_iff.mp h
        · exact not_failsWith_ok h
  · unfold ClaimSet.issuerOf at h
    split at h
    · exact not_failsWith_ok h
    · split at h
      · exact failsWith_error_iff.mp h
      · exact not_failsWith_ok h
  · exact not_failsWith_ok h

private theorem not_otherAlgorithm_claims (t : SignedToken) :
    ¬FailsWith t.claims OtherAlgorithm := by
  simp only [SignedToken.claims, failsWith_bind_iff]
  rintro (h | ⟨payload, -, h⟩)
  · unfold SignedToken.payload at h
    split at h
    · exact failsWith_error_iff.mp h
    · exact not_failsWith_ok h
  · unfold ClaimSet.ofPayload at h
    split at h
    · exact failsWith_error_iff.mp h
    · unfold ClaimSet.ofJson at h
      split at h
      · exact failsWith_error_iff.mp h
      · exact not_otherAlgorithm_ofMembers _ h

private theorem not_otherAlgorithm_nestedToken (payload : Bytes) :
    ¬FailsWith (Validator.nestedToken payload) OtherAlgorithm := by
  unfold Validator.nestedToken
  split
  · exact failsWith_error_iff.mp
  · simp only [failsWith_bind_iff, not_otherAlgorithm_parse, false_or]
    rintro ⟨token, -, h⟩
    cases token with
    | signed t => exact not_failsWith_ok h
    | encrypted t => exact failsWith_error_iff.mp h
    | unsecured t => exact failsWith_error_iff.mp h

/-! The two steps that do are reached only by tokens of the algorithms of the keys. -/

private theorem not_otherAlgorithm_decrypt {t : EncryptedToken} {key : ContentKey}
    (halg : t.header.alg = Header.direct) (henc : t.header.enc = some Header.a256gcm) :
    ¬FailsWith (t.decrypt key.decrypter) TokenError.OtherAlgorithm := by
  obtain ⟨_, hok⟩ | ⟨c, hc⟩ := @EncryptedToken.decrypt_eq_ok_or_crypto t key halg henc
  · rw [hok]
    exact not_failsWith_ok
  · rw [hc]
    exact failsWith_error_iff.mp

private theorem not_otherAlgorithm_verify {t : SignedToken} {key : SigningKey}
    (halg : t.header.alg = Header.hs256) :
    ¬FailsWith (t.verify key.verifier) fun e => (TokenError.verification e).OtherAlgorithm := by
  rw [SignedToken.verify, if_neg (by simp [halg, SigningKey.verifier])]
  split
  · exact failsWith_error_iff.mp
  · split
    · exact not_failsWith_ok
    · exact failsWith_error_iff.mp

theorem Validator.not_otherAlgorithm (v : Validator) (text : String) :
    ¬FailsWith (v.claims text) TokenError.OtherAlgorithm := by
  have hunwrap {e : EncryptedToken} (hparse : Token.parse text = .ok (.encrypted e)) :
      ¬FailsWith (v.unwrap e) TokenError.OtherAlgorithm := by
    obtain ⟨-, -, halg, henc⟩ := Token.parse_eq_encrypted_iff.mp hparse
    rw [failsWith_unwrap_iff]
    rintro (⟨-, h⟩ | ⟨secret, -, -, ⟨c, -, h⟩ | ⟨key, -, h | ⟨payload, -, h⟩⟩⟩)
    · exact h
    · exact h
    · exact not_otherAlgorithm_decrypt halg henc h
    · exact not_otherAlgorithm_nestedToken payload h
  have hfind : ¬FailsWith (v.find text) TokenError.OtherAlgorithm := by
    rw [failsWith_find_iff]
    rintro (h | ⟨-, h⟩ | ⟨e, hparse, h⟩)
    · exact not_otherAlgorithm_parse text h
    · exact h
    · exact hunwrap hparse h
  have hauthenticate {secret : Secret} {t : SignedToken} (ht : v.find text = .ok t) :
      ¬FailsWith (authenticate secret t) TokenError.OtherAlgorithm := by
    rw [failsWith_authenticate_iff]
    rintro (⟨c, -, h⟩ | ⟨key, -, h | ⟨-, h⟩⟩)
    · exact h
    · exact not_otherAlgorithm_verify (alg_of_find ht) h
    · exact not_otherAlgorithm_claims t h
  rw [failsWith_claims_iff]
  rintro (⟨-, h⟩ | ⟨secret, -, -, h | ⟨t, ht, h⟩⟩)
  · exact h
  · exact hfind h
  · exact hauthenticate ht h

end IdentityToken
