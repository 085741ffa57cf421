import IdentityToken.Proofs.Token.Opening
import IdentityToken.Validator
/-!
# The steps of a validation

A validation finds a signed token and then reads it: the token is the text itself or what the text
encrypts. Only the first part depends on the secret for encryption, and only the second part looks
at a signature.
-/

namespace IdentityToken

theorem Secret.usable?_eq_some_iff {s : Option Secret} {secret : Secret} :
    usable? s = some secret ↔ s = some secret ∧ secret.isBlank = false := by
  rw [usable?, Option.filter_eq_some_iff, Bool.not_eq_true']

namespace Validator

open Text

/-- The signed token that a text is or encrypts. -/
def find (v : Validator) (text : String) : Except TokenError SignedToken :=
  (Token.parse text).mapError .format >>= v.signedToken

/-- The claims of a signed token whose signature is right. -/
def authenticate (secret : Secret) (t : SignedToken) : Except TokenError ClaimSet := do
  let key ← (SigningKey.ofBytes secret.bytes).mapError .crypto
  (t.verify key.verifier).mapError .verification
  t.claims.mapError .format

/-- The claims of a token that was found, if there is a secret to verify it. -/
def conclude (signing : Option Secret) (found : Except TokenError SignedToken) :
    Except TokenError ClaimSet :=
  match Secret.usable? signing with
  | none => .error (.setup (.blankSecret .signing))
  | some secret => found >>= authenticate secret

/-- A validation finds a token and reads it. -/
theorem claims_eq (v : Validator) (text : String) :
    v.claims text = conclude v.signing (v.find text) := by
  unfold claims conclude find
  cases Secret.usable? v.signing with
  | none => rfl
  | some secret => cases (Token.parse text).mapError TokenError.format <;> rfl

theorem conclude_of_usable {signing : Option Secret} {secret : Secret}
    (hsigning : signing = some secret) (hblank : secret.isBlank = false)
    (found : Except TokenError SignedToken) :
    conclude signing found = found >>= authenticate secret := by
  rw [conclude, Secret.usable?_eq_some_iff.mpr ⟨hsigning, hblank⟩]

theorem conclude_eq_ok_iff {signing : Option Secret} {found : Except TokenError SignedToken}
    {c : ClaimSet} :
    conclude signing found = .ok c ↔
      ∃ secret t, signing = some secret ∧ secret.isBlank = false ∧ found = .ok t ∧
        authenticate secret t = .ok c := by
  constructor
  · intro h
    unfold conclude at h
    split at h
    · cases h
    · next secret husable =>
      obtain ⟨t, hfound, hc⟩ := bind_eq_ok_iff.mp h
      obtain ⟨hsigning, hblank⟩ := Secret.usable?_eq_some_iff.mp husable
      exact ⟨secret, t, hsigning, hblank, hfound, hc⟩
  · rintro ⟨secret, t, hsigning, hblank, hfound, hc⟩
    rw [conclude_of_usable hsigning hblank]
    exact bind_eq_ok_iff.mpr ⟨t, hfound, hc⟩

theorem authenticate_eq_ok_iff {secret : Secret} {t : SignedToken} {c : ClaimSet} :
    authenticate secret t = .ok c ↔
      ∃ key, SigningKey.ofBytes secret.bytes = .ok key ∧ t.verify key.verifier = .ok () ∧
        t.claims = .ok c := by
  simp only [authenticate, bind_eq_ok_iff, mapError_eq_ok_iff]
  constructor
  · rintro ⟨key, hkey, ⟨⟩, hverify, hc⟩
    exact ⟨key, hkey, hverify, hc⟩
  · rintro ⟨key, hkey, hverify, hc⟩
    exact ⟨key, hkey, (), hverify, hc⟩

/-! ## Finding a signed token -/

theorem find_of_signed (v : Validator) {text : String} {t : SignedToken}
    (h : Token.parse text = .ok (.signed t)) : v.find text = .ok t := by
  rw [find, h]
  rfl

theorem find_of_encrypted (v : Validator) {text : String} {t : EncryptedToken}
    (h : Token.parse text = .ok (.encrypted t)) : v.find text = v.unwrap t := by
  rw [find, h]
  rfl

theorem find_of_unsecured (v : Validator) {text : String} {t : UnsecuredToken}
    (h : Token.parse text = .ok (.unsecured t)) : v.find text = .error (.format .unsecured) := by
  rw [find, h]
  rfl

theorem find_of_error (v : Validator) {text : String} {e : FormatError}
    (h : Token.parse text = .error e) : v.find text = .error (.format e) := by
  rw [find, h]
  rfl

/-- The token is the text itself or inside what the text encrypts, and nothing else. -/
theorem find_eq_ok_iff {v : Validator} {text : String} {t : SignedToken} :
    v.find text = .ok t ↔
      Token.parse text = .ok (.signed t) ∨
        ∃ e, Token.parse text = .ok (.encrypted e) ∧ v.unwrap e = .ok t := by
  cases hparse : Token.parse text with
  | error e => simp [v.find_of_error hparse]
  | ok token =>
    cases token with
    | signed s => simp [v.find_of_signed hparse]
    | encrypted e => simp [v.find_of_encrypted hparse]
    | unsecured u => simp [v.find_of_unsecured hparse]

theorem nestedToken_eq_ok_iff {payload : Bytes} {t : SignedToken} :
    nestedToken payload = .ok t ↔
      ∃ nested, payload = utf8 nested ∧ Token.parse nested = .ok (.signed t) := by
  simp only [← ofUtf8?_eq_some_iff]
  unfold nestedToken
  cases ofUtf8? payload with
  | none => simp
  | some nested =>
    simp only [Option.some.injEq, exists_eq_left', bind_eq_ok_iff]
    constructor
    · rintro ⟨token, hparse, htoken⟩
      cases token with
      | signed s => cases htoken; exact hparse
      | encrypted e => cases htoken
      | unsecured u => cases htoken
    · intro hparse
      exact ⟨_, hparse, rfl⟩

/-- A token is unwrapped when the secret decrypts it and a signed token is inside. -/
theorem unwrap_eq_ok_iff {v : Validator} {e : EncryptedToken} {t : SignedToken} :
    v.unwrap e = .ok t ↔
      ∃ secret key nested, v.encryption = some secret ∧ secret.isBlank = false ∧
        ContentKey.ofBytes secret.bytes = .ok key ∧
        e.decrypt key.decrypter = .ok (utf8 nested) ∧ Token.parse nested = .ok (.signed t) := by
  unfold unwrap
  constructor
  · intro h
    split at h
    · cases h
    · next secret husable =>
      simp only [bind_eq_ok_iff, mapError_eq_ok_iff, nestedToken_eq_ok_iff] at h
      obtain ⟨key, hkey, payload, hdecrypt, nested, rfl, hparse⟩ := h
      obtain ⟨hencryption, hblank⟩ := Secret.usable?_eq_some_iff.mp husable
      exact ⟨secret, key, nested, hencryption, hblank, hkey, hdecrypt, hparse⟩
  · rintro ⟨secret, key, nested, hencryption, hblank, hkey, hdecrypt, hparse⟩
    rw [Secret.usable?_eq_some_iff.mpr ⟨hencryption, hblank⟩]
    simp only [bind_eq_ok_iff, mapError_eq_ok_iff, nestedToken_eq_ok_iff]
    exact ⟨key, hkey, utf8 nested, hdecrypt, nested, rfl, hparse⟩

theorem nestedToken_of_signed {nested : String} {t : SignedToken}
    (h : Token.parse nested = .ok (.signed t)) : nestedToken (utf8 nested) = .ok t :=
  nestedToken_eq_ok_iff.mpr ⟨nested, rfl, h⟩

theorem nestedToken_of_form_ne {nested : String} {t : Token} (h : Token.parse nested = .ok t)
    (hform : t.form ≠ .signed) : nestedToken (utf8 nested) = .error (.nestedNotSigned t.form) := by
  simp only [nestedToken, ofUtf8?_utf8, h]
  cases t with
  | signed s => exact absurd rfl hform
  | encrypted e => rfl
  | unsecured u => rfl

theorem nestedToken_of_error {nested : String} {e : FormatError}
    (h : Token.parse nested = .error e) : nestedToken (utf8 nested) = .error e := by
  simp only [nestedToken, ofUtf8?_utf8, h]
  rfl

/-- What was encrypted is found again. -/
theorem find_encrypt {v : Validator} {encryption : Secret} {key : ContentKey}
    (hencryption : v.encryption = some encryption) (hblank : encryption.isBlank = false)
    (hkey : ContentKey.ofBytes encryption.bytes = .ok key) (nested : String)
    (iv : Crypto.Gcm.Iv) :
    v.find (EncryptedToken.encrypt nested key iv)
      = (nestedToken (utf8 nested)).mapError .format := by
  have husable : Secret.usable? v.encryption = some encryption :=
    Secret.usable?_eq_some_iff.mpr ⟨hencryption, hblank⟩
  rw [v.find_of_encrypted (EncryptedToken.parse_encrypt nested key iv), unwrap, husable]
  -- The steps of unwrapping, each of which is replaced by its outcome.
  show ((ContentKey.ofBytes encryption.bytes).mapError TokenError.crypto >>= fun key' =>
    (EncryptedToken.ofText nested key iv).decrypt key'.decrypter >>= fun payload =>
      (nestedToken payload).mapError TokenError.format) = _
  rw [bind_ok (mapError_ok hkey _), bind_ok (EncryptedToken.decrypt_ofText nested key iv)]

end Validator

end IdentityToken
