import IdentityToken.Proofs.Validation.Failures
/-!
# Why a validation fails

The kind of a failure is decided by the secrets, by what the text is and by its authenticator, in
this order: a secret that is needed and missing comes first, then what cannot be decrypted, then a
signing secret that is too short, then a wrong signature. Every other failure is one of format.
-/

namespace IdentityToken

open Text

namespace TokenError

@[simp] theorem kind_setup (e : SetupError) : (setup e).kind = .configuration := rfl

@[simp] theorem kind_format (e : FormatError) : (format e).kind = .format := rfl

@[simp] theorem kind_crypto (e : CryptoError) : (crypto e).kind = .crypto := rfl

@[simp] theorem kind_verification (e : VerificationError) :
    (verification e).kind = .verification := rfl

end TokenError

theorem SigningKey.exists_ofBytes_eq_error_iff {b : Bytes} :
    (∃ e, ofBytes b = .error e) ↔ b.length < 32 := by
  unfold ofBytes
  split
  · next h => simpa using h
  · next h => simpa using h

theorem ContentKey.exists_ofBytes_eq_error_iff {b : Bytes} :
    (∃ e, ofBytes b = .error e) ↔ b.length ≠ 32 := by
  unfold ofBytes
  split
  · next h => simpa using h
  · next h => simpa using h

namespace EncryptedToken

/-- What keeps a token from being decrypted with a key: a segment that is not strict base64url, a
wrong size, or a tag that is not that of the other parts. -/
inductive Unopenable (t : EncryptedToken) (key : ContentKey) : Prop where
  | iv (h : Base64Url.decode? t.ivSegment = none)
  | ciphertext (h : Base64Url.decode? t.ciphertextSegment = none)
  | tag (h : Base64Url.decode? t.tagSegment = none)
  | ivSize {b : Bytes} (h : Base64Url.decode? t.ivSegment = some b) (hlength : b.length ≠ 12)
  | tagSize {b : Bytes} (h : Base64Url.decode? t.tagSegment = some b) (hlength : b.length ≠ 16)
  | notAuthentic {iv : Crypto.Gcm.Iv} {ciphertext tag : Bytes}
      (hiv : Base64Url.decode? t.ivSegment = some iv.toList)
      (hciphertext : Base64Url.decode? t.ciphertextSegment = some ciphertext)
      (htag : Base64Url.decode? t.tagSegment = some tag)
      (hne : Crypto.Gcm.tag (Crypto.aes256 key.bytes) iv (utf8 t.headerSegment) ciphertext ≠ tag)

variable {t : EncryptedToken} {key : ContentKey}

private theorem Unopenable.decrypt_ne_ok (halg : t.header.alg = Header.direct)
    (henc : t.header.enc = some Header.a256gcm) (h : t.Unopenable key) (plaintext : Bytes) :
    t.decrypt key.decrypter ≠ .ok plaintext := by
  intro hopened
  obtain ⟨iv, ciphertext, tag, hiv, hciphertext, htag, hopen⟩ :=
    (decrypt_eq_ok_iff halg henc).mp hopened
  have heq := Crypto.Gcm.tag_eq_of_decrypt? hopen
  cases h with
  | iv h => simp [hiv] at h
  | ciphertext h => simp [hciphertext] at h
  | tag h => simp [htag] at h
  | ivSize h hlength =>
    obtain rfl := Option.some.inj (hiv.symm.trans h)
    exact hlength (by simp)
  | tagSize h hlength =>
    obtain rfl := Option.some.inj (htag.symm.trans h)
    rw [← heq] at hlength
    exact hlength (Crypto.Gcm.length_tag ..)
  | notAuthentic hiv₁ hciphertext₁ htag₁ hne =>
    obtain rfl := Vector.toList_inj.mp (Option.some.inj (hiv.symm.trans hiv₁))
    obtain rfl := Option.some.inj (hciphertext.symm.trans hciphertext₁)
    obtain rfl := Option.some.inj (htag.symm.trans htag₁)
    exact hne heq

private theorem unopenable_of_decrypt_ne_ok (halg : t.header.alg = Header.direct)
    (henc : t.header.enc = some Header.a256gcm)
    (h : ∀ plaintext, t.decrypt key.decrypter ≠ .ok plaintext) : t.Unopenable key := by
  cases hiv : Base64Url.decode? t.ivSegment with
  | none => exact .iv hiv
  | some iv =>
  cases hciphertext : Base64Url.decode? t.ciphertextSegment with
  | none => exact .ciphertext hciphertext
  | some ciphertext =>
  cases htag : Base64Url.decode? t.tagSegment with
  | none => exact .tag htag
  | some tag =>
  by_cases hlength : iv.length = 12
  · let v : Crypto.Gcm.Iv := ⟨iv.toArray, by simpa using hlength⟩
    have hv : Base64Url.decode? t.ivSegment = some v.toList := by simp [hiv, v]
    -- A tag of another size is not the computed one, so its size needs no case of its own.
    refine .notAuthentic hv hciphertext htag fun heq => ?_
    refine h (Crypto.Gcm.crypt (Crypto.aes256 key.bytes) v ciphertext) ?_
    refine (decrypt_eq_ok_iff halg henc).mpr ⟨v, ciphertext, tag, hv, hciphertext, htag, ?_⟩
    exact if_pos heq
  · exact .ivSize hiv hlength

theorem unopenable_iff (halg : t.header.alg = Header.direct)
    (henc : t.header.enc = some Header.a256gcm) :
    t.Unopenable key ↔ ∃ e, t.decrypt key.decrypter = .error e := by
  rw [exists_error_iff_forall_ne]
  exact ⟨fun h => h.decrypt_ne_ok halg henc, unopenable_of_decrypt_ne_ok halg henc⟩

end EncryptedToken

namespace SignedToken

/-- A signature that is not strict base64url or not the code of what it covers. -/
def Forged (t : SignedToken) (secret : Secret) : Prop :=
  Base64Url.decode? t.signatureSegment = none ∨
    ∃ signature, Base64Url.decode? t.signatureSegment = some signature ∧
      signature ≠ Crypto.hmacSha256 secret.bytes (utf8 t.signingInput)

theorem forged_iff {t : SignedToken} {secret : Secret} {key : SigningKey}
    (halg : t.header.alg = Header.hs256) (hkey : SigningKey.ofBytes secret.bytes = .ok key) :
    t.Forged secret ↔ ∃ e, t.verify key.verifier = .error e := by
  have hbytes : key.bytes = secret.bytes := SigningKey.ofBytes_eq_ok_iff.mp hkey
  have hsign : Crypto.hmacSha256 secret.bytes (utf8 t.signingInput)
      = key.sign (utf8 t.signingInput) := by
    rw [SigningKey.sign, hbytes]
  have hok (u : Unit) : t.verify key.verifier = .ok u ↔
      Base64Url.decode? t.signatureSegment = some (key.sign (utf8 t.signingInput)) := by
    rw [Base64Url.decode?_eq_some_iff]
    exact verify_eq_ok_iff halg
  rw [exists_error_iff_forall_ne, Forged, hsign]
  simp only [ne_eq, hok, forall_const]
  cases Base64Url.decode? t.signatureSegment with
  | none => simp
  | some signature => simp

end SignedToken

namespace Validator

variable {v : Validator} {text : String} {k : TokenError.Kind}

/-! ## What each kind of failure says -/

/-- The signed token that a validation comes to: the text itself, or what it encrypts. -/
def Reaches (v : Validator) (text : String) (t : SignedToken) : Prop :=
  ∃ signed, Token.parse signed = .ok (.signed t) ∧
    (text = signed ∨ ∃ encryption, v.encryption = some encryption ∧
      encryption.isBlank = false ∧ Encrypts encryption text signed)

/-- A secret that is needed is missing or blank. -/
def Unconfigured (v : Validator) (text : String) : Prop :=
  Secret.Unusable v.signing ∨
    ∃ e, Token.parse text = .ok (.encrypted e) ∧ Secret.Unusable v.encryption

/-- The secrets are there, but the token cannot be decrypted or the signing secret is too short. -/
def Undecipherable (v : Validator) (text : String) : Prop :=
  ∃ signing, v.signing = some signing ∧ signing.isBlank = false ∧
    ((∃ e encryption, Token.parse text = .ok (.encrypted e) ∧ v.encryption = some encryption ∧
        encryption.isBlank = false ∧
        (encryption.bytes.length ≠ 32 ∨
          ∃ key, ContentKey.ofBytes encryption.bytes = .ok key ∧ e.Unopenable key)) ∨
      (∃ t, v.Reaches text t) ∧ signing.bytes.length < 32)

/-- A signed token is there and the secret that verifies it, but the signature is not right. -/
def Unverified (v : Validator) (text : String) : Prop :=
  ∃ signing t, v.signing = some signing ∧ signing.isBlank = false ∧ 32 ≤ signing.bytes.length ∧
    v.Reaches text t ∧ t.Forged signing

/-! ## The kinds of the steps -/

private theorem decrypt_kind_iff {e : EncryptedToken} {key : ContentKey}
    (h : Token.parse text = .ok (.encrypted e)) :
    FailsWith (e.decrypt key.decrypter) (fun e => e.kind = k) ↔ e.Unopenable key ∧ k = .crypto := by
  obtain ⟨-, -, halg, henc⟩ := Token.parse_eq_encrypted_iff.mp h
  rw [EncryptedToken.unopenable_iff halg henc]
  obtain ⟨_, hok⟩ | ⟨c, hc⟩ := @EncryptedToken.decrypt_eq_ok_or_crypto e key halg henc
  · simp [hok, not_failsWith_ok]
  · simp [hc, failsWith_error_iff, eq_comm]

private theorem unwrap_configuration_iff {e : EncryptedToken}
    (h : Token.parse text = .ok (.encrypted e)) :
    FailsWith (v.unwrap e) (fun e => e.kind = .configuration) ↔ Secret.Unusable v.encryption := by
  simp [failsWith_unwrap_iff, decrypt_kind_iff h, failsWith_const_iff]

private theorem unwrap_crypto_iff {e : EncryptedToken}
    (h : Token.parse text = .ok (.encrypted e)) :
    FailsWith (v.unwrap e) (fun e => e.kind = .crypto) ↔
      ∃ encryption, v.encryption = some encryption ∧ encryption.isBlank = false ∧
        (encryption.bytes.length ≠ 32 ∨
          ∃ key, ContentKey.ofBytes encryption.bytes = .ok key ∧ e.Unopenable key) := by
  simp [failsWith_unwrap_iff, decrypt_kind_iff h, failsWith_const_iff,
    ContentKey.exists_ofBytes_eq_error_iff]

private theorem unwrap_not_verification {e : EncryptedToken}
    (h : Token.parse text = .ok (.encrypted e)) :
    ¬FailsWith (v.unwrap e) (fun e => e.kind = .verification) := by
  simp [failsWith_unwrap_iff, decrypt_kind_iff h, failsWith_const_iff]

private theorem find_kind_iff (hk : k ≠ .format) :
    FailsWith (v.find text) (fun e => e.kind = k) ↔
      ∃ e, Token.parse text = .ok (.encrypted e) ∧
        FailsWith (v.unwrap e) (fun e => e.kind = k) := by
  simp [failsWith_find_iff, failsWith_const_iff, hk.symm]

private theorem authenticate_not_configuration (secret : Secret) (t : SignedToken) :
    ¬FailsWith (authenticate secret t) (fun e => e.kind = .configuration) := by
  simp [failsWith_authenticate_iff, failsWith_const_iff]

private theorem authenticate_crypto_iff {secret : Secret} {t : SignedToken} :
    FailsWith (authenticate secret t) (fun e => e.kind = .crypto) ↔ secret.bytes.length < 32 := by
  simp [failsWith_authenticate_iff, failsWith_const_iff, SigningKey.exists_ofBytes_eq_error_iff]

private theorem authenticate_verification_iff {secret : Secret} {t : SignedToken}
    (halg : t.header.alg = Header.hs256) :
    FailsWith (authenticate secret t) (fun e => e.kind = .verification) ↔
      32 ≤ secret.bytes.length ∧ t.Forged secret := by
  have hsteps : FailsWith (authenticate secret t) (fun e => e.kind = .verification) ↔
      ∃ key, SigningKey.ofBytes secret.bytes = .ok key ∧
        ∃ e, t.verify key.verifier = .error e := by
    simp [failsWith_authenticate_iff, failsWith_const_iff]
  rw [hsteps]
  constructor
  · rintro ⟨key, hkey, hverify⟩
    have hbytes : key.bytes = secret.bytes := SigningKey.ofBytes_eq_ok_iff.mp hkey
    exact ⟨hbytes ▸ key.length, (SignedToken.forged_iff halg hkey).mpr hverify⟩
  · rintro ⟨hlength, hforged⟩
    obtain ⟨key, hkey⟩ := SigningKey.exists_ofBytes hlength
    exact ⟨key, hkey, (SignedToken.forged_iff halg hkey).mp hforged⟩

/-! ## The kinds of a validation -/

theorem claims_configuration_iff :
    FailsWith (v.claims text) (fun e => e.kind = .configuration) ↔ v.Unconfigured text := by
  have hfind : FailsWith (v.find text) (fun e => e.kind = .configuration) ↔
      ∃ e, Token.parse text = .ok (.encrypted e) ∧ Secret.Unusable v.encryption := by
    rw [find_kind_iff (by decide)]
    exact exists_congr fun e => and_congr_right unwrap_configuration_iff
  rw [failsWith_claims_iff, hfind, Unconfigured]
  simp only [authenticate_not_configuration, and_false, exists_false, or_false,
    TokenError.kind_setup, and_true, ← and_assoc, exists_and_right, ← Secret.not_unusable_iff]
  -- Without a signing secret nothing of the text is looked at.
  by_cases hsigning : Secret.Unusable v.signing <;> simp [hsigning]

theorem claims_crypto_iff :
    FailsWith (v.claims text) (fun e => e.kind = .crypto) ↔ v.Undecipherable text := by
  have hfind : FailsWith (v.find text) (fun e => e.kind = .crypto) ↔
      ∃ e encryption, Token.parse text = .ok (.encrypted e) ∧ v.encryption = some encryption ∧
        encryption.isBlank = false ∧
        (encryption.bytes.length ≠ 32 ∨
          ∃ key, ContentKey.ofBytes encryption.bytes = .ok key ∧ e.Unopenable key) := by
    rw [find_kind_iff (by decide)]
    refine exists_congr fun e => (and_congr_right unwrap_crypto_iff).trans ?_
    exact exists_and_left.symm
  rw [failsWith_claims_iff, hfind, Undecipherable]
  simp [authenticate_crypto_iff, find_eq_ok_iff_encrypts, Reaches]

theorem claims_verification_iff :
    FailsWith (v.claims text) (fun e => e.kind = .verification) ↔ v.Unverified text := by
  have hfind : ¬FailsWith (v.find text) (fun e => e.kind = .verification) := by
    rw [find_kind_iff (by decide)]
    rintro ⟨e, hparse, h⟩
    exact unwrap_not_verification hparse h
  rw [failsWith_claims_iff, Unverified]
  simp only [hfind, false_or, TokenError.kind_setup, reduceCtorEq, and_false]
  constructor
  · rintro ⟨secret, hsigning, hblank, t, ht, hfails⟩
    obtain ⟨hlength, hforged⟩ := (authenticate_verification_iff (alg_of_find ht)).mp hfails
    exact ⟨secret, t, hsigning, hblank, hlength, find_eq_ok_iff_encrypts.mp ht, hforged⟩
  · rintro ⟨secret, t, hsigning, hblank, hlength, hreaches, hforged⟩
    have ht : v.find text = .ok t := find_eq_ok_iff_encrypts.mpr hreaches
    have hfails := (authenticate_verification_iff (alg_of_find ht)).mpr ⟨hlength, hforged⟩
    exact ⟨secret, hsigning, hblank, t, ht, hfails⟩

theorem claims_format_iff :
    FailsWith (v.claims text) (fun e => e.kind = .format) ↔
      (∀ c, v.claims text ≠ .ok c) ∧ ¬v.Unconfigured text ∧ ¬v.Undecipherable text ∧
        ¬v.Unverified text := by
  rw [← claims_configuration_iff, ← claims_crypto_iff, ← claims_verification_iff]
  cases v.claims text with
  | ok c => simp [not_failsWith_ok]
  | error e => cases e <;> simp [failsWith_error_iff]

/-- The kind of a failure is known from the secrets and the text, and no failure is about an
algorithm other than that of a key. -/
theorem kind_of_failure (v : Validator) (text : String) :
    (FailsWith (v.claims text) (fun e => e.kind = .configuration) ↔ v.Unconfigured text) ∧
    (FailsWith (v.claims text) (fun e => e.kind = .crypto) ↔ v.Undecipherable text) ∧
    (FailsWith (v.claims text) (fun e => e.kind = .verification) ↔ v.Unverified text) ∧
    (FailsWith (v.claims text) (fun e => e.kind = .format) ↔
      (∀ c, v.claims text ≠ .ok c) ∧ ¬v.Unconfigured text ∧ ¬v.Undecipherable text ∧
        ¬v.Unverified text) ∧
    (∀ alg expected, v.claims text ≠ .error (.verification (.otherAlgorithm alg expected))) ∧
    ∀ alg enc expectedAlg expectedEnc,
      v.claims text ≠ .error (.format (.unexpectedEncryption alg enc expectedAlg expectedEnc)) := by
  refine ⟨claims_configuration_iff, claims_crypto_iff, claims_verification_iff, claims_format_iff,
    ?_, ?_⟩
  · intro alg expected h
    exact v.not_otherAlgorithm text ⟨_, h, trivial⟩
  · intro alg enc expectedAlg expectedEnc h
    exact v.not_otherAlgorithm text ⟨_, h, trivial⟩

end Validator

end IdentityToken
