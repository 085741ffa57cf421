import IdentityToken.Proofs.Validation.Paths
/-!
# What a validator accepts

A validator accepts a text exactly when it is an authentic token or encrypts one: three segments of
which the last is the code of the other two, with the claims in the middle. Nothing else is
accepted, in particular no token without a signature and no token encrypted twice.
-/

namespace IdentityToken.Validator

open Text

/-- A text holds claims in three segments, of which the last authenticates the others. -/
def Authentic (secret : Secret) (text : String) (c : ClaimSet) : Prop :=
  ∃ (h p g : String) (header : Header) (payload : Bytes),
    Separated '.' [h, p, g] ∧ text = join '.' [h, p, g] ∧
    Header.decode h = .ok header ∧ header.alg = Header.hs256 ∧
    g = Base64Url.encode (Crypto.hmacSha256 secret.bytes (utf8 (join '.' [h, p]))) ∧
    Base64Url.decode? p = some payload ∧ ClaimSet.ofPayload payload = .ok c

/-- A text is five segments of which the second is empty and which encrypt another text. -/
def Encrypts (secret : Secret) (text nested : String) : Prop :=
  ∃ (h x y z : String) (header : Header) (key : Vector UInt8 32) (iv : Crypto.Gcm.Iv)
      (ciphertext tag : Bytes),
    Separated '.' [h, "", x, y, z] ∧ text = join '.' [h, "", x, y, z] ∧
    Header.decode h = .ok header ∧ header.alg = Header.direct ∧
    header.enc = some Header.a256gcm ∧ secret.bytes = key.toList ∧
    Base64Url.decode? x = some iv.toList ∧ Base64Url.decode? y = some ciphertext ∧
    Base64Url.decode? z = some tag ∧
    Crypto.Gcm.decrypt? (Crypto.aes256 key) iv (utf8 h) ciphertext tag = some (utf8 nested)

/-- A text is authentic, or it encrypts one that is, under the secrets of a validator. -/
def Accepts (v : Validator) (text : String) (c : ClaimSet) : Prop :=
  ∃ secret signed, v.signing = some secret ∧ secret.isBlank = false ∧ 32 ≤ secret.bytes.length ∧
    Authentic secret signed c ∧
    (text = signed ∨ ∃ encryption, v.encryption = some encryption ∧ encryption.isBlank = false ∧
      Encrypts encryption text signed)

/-- The authentic texts are the signed tokens that are verified with a long enough secret. -/
theorem exists_authenticate_iff {secret : Secret} {text : String} {c : ClaimSet} :
    (∃ t, Token.parse text = .ok (.signed t) ∧ authenticate secret t = .ok c) ↔
      32 ≤ secret.bytes.length ∧ Authentic secret text c := by
  constructor
  · rintro ⟨t, hparse, hc⟩
    obtain ⟨key, hkey, hverify, hclaims⟩ := authenticate_eq_ok_iff.mp hc
    obtain ⟨hsplit, hheader, halg⟩ := Token.parse_eq_signed_iff.mp hparse
    obtain ⟨hseparated, htext⟩ := split_eq_cons_iff.mp hsplit
    obtain ⟨payload, hpayload, hof⟩ := SignedToken.claims_eq_ok_iff.mp hclaims
    have hbytes : key.bytes = secret.bytes := SigningKey.ofBytes_eq_ok_iff.mp hkey
    have hsignature := (SignedToken.verify_eq_ok_iff halg).mp hverify
    rw [SigningKey.sign, hbytes] at hsignature
    refine ⟨hbytes ▸ key.length, ?_⟩
    exact ⟨_, _, _, t.header, payload, hseparated, htext, hheader, halg, hsignature, hpayload, hof⟩
  · rintro ⟨hlength, h, p, g, header, payload, hseparated, htext, hheader, halg, hg, hpayload, hof⟩
    obtain ⟨key, hkey⟩ := SigningKey.exists_ofBytes hlength
    have hbytes : key.bytes = secret.bytes := SigningKey.ofBytes_eq_ok_iff.mp hkey
    let t : SignedToken := ⟨header, h, p, g⟩
    have hsplit : split '.' text = [h, p, g] := split_eq_cons_iff.mpr ⟨hseparated, htext⟩
    have hverify : t.verify key.verifier = .ok () := by
      apply (SignedToken.verify_eq_ok_iff halg).mpr
      rw [SigningKey.sign, hbytes]
      exact hg
    refine ⟨t, Token.parse_eq_signed_iff.mpr ⟨hsplit, hheader, halg⟩, ?_⟩
    exact authenticate_eq_ok_iff.mpr
      ⟨key, hkey, hverify, SignedToken.claims_eq_ok_iff.mpr ⟨payload, hpayload, hof⟩⟩

/-- A text encrypts another when it is an encrypted token that is decrypted to it. -/
theorem exists_decrypt_iff {secret : Secret} {text nested : String} :
    (∃ e key, Token.parse text = .ok (.encrypted e) ∧ ContentKey.ofBytes secret.bytes = .ok key ∧
      e.decrypt key.decrypter = .ok (utf8 nested)) ↔ Encrypts secret text nested := by
  constructor
  · rintro ⟨e, key, hparse, hkey, hdecrypt⟩
    obtain ⟨hsplit, hheader, halg, henc⟩ := Token.parse_eq_encrypted_iff.mp hparse
    obtain ⟨hseparated, htext⟩ := split_eq_cons_iff.mp hsplit
    obtain ⟨iv, ciphertext, tag, hiv, hciphertext, htag, hopen⟩ :=
      (EncryptedToken.decrypt_eq_ok_iff halg henc).mp hdecrypt
    have hbytes : secret.bytes = key.bytes.toList := (ContentKey.ofBytes_eq_ok_iff.mp hkey).symm
    exact ⟨_, _, _, _, e.header, key.bytes, iv, ciphertext, tag, hseparated, htext, hheader, halg,
      henc, hbytes, hiv, hciphertext, htag, hopen⟩
  · rintro ⟨h, x, y, z, header, key, iv, ciphertext, tag, hseparated, htext, hheader, halg, henc,
      hbytes, hiv, hciphertext, htag, hopen⟩
    let e : EncryptedToken := ⟨header, h, x, y, z⟩
    have hsplit : split '.' text = [h, "", x, y, z] :=
      split_eq_cons_iff.mpr ⟨hseparated, htext⟩
    refine ⟨e, ⟨key⟩, Token.parse_eq_encrypted_iff.mpr ⟨hsplit, hheader, halg, henc⟩, ?_, ?_⟩
    · exact ContentKey.ofBytes_eq_ok_iff.mpr hbytes.symm
    · exact (EncryptedToken.decrypt_eq_ok_iff halg henc).mpr
        ⟨iv, ciphertext, tag, hiv, hciphertext, htag, hopen⟩

theorem encrypts_encrypt (nested : String) {secret : Secret} {key : ContentKey}
    (hkey : ContentKey.ofBytes secret.bytes = .ok key) (iv : Crypto.Gcm.Iv) :
    Encrypts secret (EncryptedToken.encrypt nested key iv) nested :=
  exists_decrypt_iff.mp ⟨_, key, EncryptedToken.parse_encrypt nested key iv, hkey,
    EncryptedToken.decrypt_ofText nested key iv⟩

/-- A token is found in exactly the texts that are signed tokens or encrypt one. -/
theorem find_eq_ok_iff_encrypts {v : Validator} {text : String} {t : SignedToken} :
    v.find text = .ok t ↔ ∃ signed, Token.parse signed = .ok (.signed t) ∧
      (text = signed ∨ ∃ encryption, v.encryption = some encryption ∧
        encryption.isBlank = false ∧ Encrypts encryption text signed) := by
  rw [find_eq_ok_iff]
  constructor
  · rintro (hparse | ⟨e, hparse, hunwrap⟩)
    · exact ⟨text, hparse, .inl rfl⟩
    · obtain ⟨encryption, key, signed, hencryption, hblank, hkey, hdecrypt, hsigned⟩ :=
        unwrap_eq_ok_iff.mp hunwrap
      exact ⟨signed, hsigned, .inr ⟨encryption, hencryption, hblank,
        exists_decrypt_iff.mp ⟨e, key, hparse, hkey, hdecrypt⟩⟩⟩
  · rintro ⟨signed, hsigned, rfl | ⟨encryption, hencryption, hblank, hencrypts⟩⟩
    · exact .inl hsigned
    · obtain ⟨e, key, hparse, hkey, hdecrypt⟩ := exists_decrypt_iff.mpr hencrypts
      exact .inr ⟨e, hparse, unwrap_eq_ok_iff.mpr
        ⟨encryption, key, signed, hencryption, hblank, hkey, hdecrypt, hsigned⟩⟩

/-- A text encrypts at most one other text under a secret. -/
theorem Encrypts.unique {secret : Secret} {text nested nested' : String}
    (h : Encrypts secret text nested) (h' : Encrypts secret text nested') : nested = nested' := by
  obtain ⟨e, key, hparse, hkey, hdecrypt⟩ := exists_decrypt_iff.mpr h
  obtain ⟨e', key', hparse', hkey', hdecrypt'⟩ := exists_decrypt_iff.mpr h'
  obtain rfl : e = e' := by simpa [hparse] using hparse'
  obtain rfl : key = key' := by simpa [hkey] using hkey'
  rw [hdecrypt] at hdecrypt'
  exact utf8_injective (Except.ok.inj hdecrypt')

/-- A validator accepts exactly the authentic tokens and the texts that encrypt one. No token
without a signature is accepted, and no token that is encrypted twice. -/
theorem claims_eq_ok_iff_accepts (v : Validator) (text : String) (c : ClaimSet) :
    (v.claims text = .ok c ↔ v.Accepts text c) ∧
      (∀ u, Token.parse text = .ok (.unsecured u) → v.claims text ≠ .ok c) ∧
      ∀ encryption nested e, v.encryption = some encryption → Encrypts encryption text nested →
        Token.parse nested = .ok (.encrypted e) → v.claims text ≠ .ok c := by
  have hfound : v.claims text = .ok c → ∃ t, v.find text = .ok t := by
    intro hc
    rw [claims_eq, conclude_eq_ok_iff] at hc
    obtain ⟨-, t, -, -, hfind, -⟩ := hc
    exact ⟨t, hfind⟩
  refine ⟨?_, ?_, ?_⟩
  · rw [claims_eq, conclude_eq_ok_iff]
    constructor
    · rintro ⟨secret, t, hsigning, hblank, hfind, hc⟩
      obtain ⟨signed, hsigned, hwhere⟩ := find_eq_ok_iff_encrypts.mp hfind
      obtain ⟨hlength, hauthentic⟩ := exists_authenticate_iff.mp ⟨t, hsigned, hc⟩
      exact ⟨secret, signed, hsigning, hblank, hlength, hauthentic, hwhere⟩
    · rintro ⟨secret, signed, hsigning, hblank, hlength, hauthentic, hwhere⟩
      obtain ⟨t, hsigned, hc⟩ := exists_authenticate_iff.mpr ⟨hlength, hauthentic⟩
      have hfind : v.find text = .ok t := find_eq_ok_iff_encrypts.mpr ⟨signed, hsigned, hwhere⟩
      exact ⟨secret, t, hsigning, hblank, hfind, hc⟩
  · intro u hparse hc
    obtain ⟨t, hfind⟩ := hfound hc
    rw [find_of_unsecured v hparse] at hfind
    cases hfind
  · intro encryption nested e hencryption hencrypts hparse hc
    obtain ⟨t, hfind⟩ := hfound hc
    obtain ⟨signed, hsigned, rfl | ⟨encryption', hencryption', -, hencrypts'⟩⟩ :=
      find_eq_ok_iff_encrypts.mp hfind
    · obtain ⟨e', -, hparse', -⟩ := exists_decrypt_iff.mpr hencrypts
      rw [hsigned] at hparse'
      cases hparse'
    · -- The text that was found inside is the only one there is.
      obtain rfl : encryption = encryption' := by simpa [hencryption] using hencryption'
      obtain rfl : nested = signed := hencrypts.unique hencrypts'
      rw [hsigned] at hparse
      cases hparse

end IdentityToken.Validator
