import IdentityToken.Proofs.Base64Url
import IdentityToken.Proofs.Outcome
import IdentityToken.Proofs.Token.Grammar
/-!
# Verifying and decrypting tokens

A signed token is verified by one signature segment only, and an encrypted one is opened by one tag
segment only: both segments are read strictly and compared with all their octets. What was signed is
verified, and what was encrypted is decrypted.
-/

namespace IdentityToken

open Text

/-- Of all tags the computed one is accepted. -/
theorem Crypto.Gcm.tag_eq_of_decrypt? {cipher : Block → Block} {iv : Iv}
    {aad ciphertext given plaintext : Bytes}
    (h : decrypt? cipher iv aad ciphertext given = some plaintext) :
    tag cipher iv aad ciphertext = given := by
  unfold decrypt? at h
  split at h
  · next htag => exact htag
  · cases h

/-! ## Keys -/

namespace SigningKey

theorem ofBytes_eq_ok_iff {b : Bytes} {key : SigningKey} :
    ofBytes b = .ok key ↔ key.bytes = b := by
  constructor
  · intro h
    unfold ofBytes at h
    split at h
    · cases h; rfl
    · cases h
  · rintro rfl
    exact dif_pos key.length

theorem exists_ofBytes {b : Bytes} (h : 32 ≤ b.length) : ∃ key, ofBytes b = .ok key :=
  ⟨⟨b, h⟩, dif_pos h⟩

theorem verify_iff {key : SigningKey} {message signature : Bytes} :
    key.verify message signature = true ↔ signature = key.sign message := by
  rw [verify, beq_iff_eq, eq_comm]

end SigningKey

namespace ContentKey

theorem ofBytes_eq_ok_iff {b : Bytes} {key : ContentKey} :
    ofBytes b = .ok key ↔ key.bytes.toList = b := by
  constructor
  · intro h
    unfold ofBytes at h
    split at h
    · cases h; simp [Vector.toList]
    · cases h
  · rintro rfl
    obtain ⟨⟨a, ha⟩⟩ := key
    exact dif_pos (by simpa using ha)

theorem exists_ofBytes {b : Bytes} (h : b.length = 32) : ∃ key, ofBytes b = .ok key :=
  ⟨⟨⟨b.toArray, by simpa using h⟩⟩, dif_pos h⟩

/-- Decryption accepts exactly the right sizes and the right tag. -/
theorem decrypt_eq_ok_iff {key : ContentKey} {aad plaintext : Bytes} {s : Sealed} :
    key.decrypt aad s = .ok plaintext ↔ ∃ iv : Crypto.Gcm.Iv, s.iv = iv.toList ∧
      Crypto.Gcm.decrypt? (Crypto.aes256 key.bytes) iv aad s.ciphertext s.tag
        = some plaintext := by
  constructor
  · intro h
    unfold decrypt at h
    split at h
    · next hiv =>
      split at h
      · split at h
        · next hopen => cases h; exact ⟨⟨s.iv.toArray, by simpa using hiv⟩, by simp, hopen⟩
        · cases h
      · cases h
    · cases h
  · rintro ⟨⟨a, ha⟩, hiv, hopen⟩
    have htag : s.tag.length = 16 := by
      rw [← Crypto.Gcm.tag_eq_of_decrypt? hopen, Crypto.Gcm.length_tag]
    obtain rfl : a = s.iv.toArray := by simpa using congrArg List.toArray hiv.symm
    rw [decrypt, dif_pos (by simpa using ha), if_pos htag, hopen]

theorem decrypt_encrypt (key : ContentKey) (iv : Crypto.Gcm.Iv) (aad plaintext : Bytes) :
    key.decrypt aad (key.encrypt iv aad plaintext) = .ok plaintext :=
  decrypt_eq_ok_iff.mpr ⟨iv, rfl, Crypto.Gcm.decrypt_encrypt ..⟩

end ContentKey

/-! ## Signed tokens -/

namespace SignedToken

/-- The token that the signed claims are. -/
def ofClaims (c : ClaimSet) (key : SigningKey) : SignedToken :=
  let header := (Header.signed Header.hs256).encode
  let payload := Base64Url.encode c.payload
  ⟨Header.signed Header.hs256, header, payload,
    Base64Url.encode (key.sign (utf8 (join '.' [header, payload])))⟩

/-- Exactly one signature segment is accepted. -/
theorem verify_eq_ok_iff {t : SignedToken} {key : SigningKey}
    (halg : t.header.alg = Header.hs256) :
    t.verify key.verifier = .ok () ↔
      t.signatureSegment = Base64Url.encode (key.sign (utf8 t.signingInput)) := by
  rw [verify, if_neg (by simp [halg, SigningKey.verifier]), ← Base64Url.decode?_eq_some_iff]
  cases hsignature : Base64Url.decode? t.signatureSegment with
  | none => simp
  | some signature =>
    rw [Option.some.injEq, ← SigningKey.verify_iff]
    cases hverify : key.verify (utf8 t.signingInput) signature <;>
      simp [SigningKey.verifier, hverify]

theorem verify_ofClaims (c : ClaimSet) (key : SigningKey) :
    (ofClaims c key).verify key.verifier = .ok () :=
  (verify_eq_ok_iff (t := ofClaims c key) rfl).mpr rfl

theorem claims_ofClaims (c : ClaimSet) (key : SigningKey) :
    (ofClaims c key).claims = ClaimSet.ofPayload c.payload := by
  have hpayload : (ofClaims c key).payload = .ok c.payload := by
    rw [payload, ofClaims, Base64Url.decode?_encode]
  rw [claims, hpayload]
  rfl

theorem claims_eq_ok_iff {t : SignedToken} {c : ClaimSet} :
    t.claims = .ok c ↔
      ∃ b, Base64Url.decode? t.payloadSegment = some b ∧ ClaimSet.ofPayload b = .ok c := by
  have hpayload (b : Bytes) :
      t.payload = .ok b ↔ Base64Url.decode? t.payloadSegment = some b := by
    unfold payload
    cases Base64Url.decode? t.payloadSegment <;> simp
  simp only [claims, bind_eq_ok_iff, hpayload]

/-- Signed claims are a signed token. -/
theorem parse_sign (c : ClaimSet) (key : SigningKey) :
    Token.parse (sign c key) = .ok (.signed (ofClaims c key)) := by
  refine Token.parse_eq_signed_iff.mpr ⟨?_, Header.decode_encode _, rfl⟩
  apply split_join
  simp [Header.encode, Base64Url.dot_not_mem_encode]

end SignedToken

/-! ## Encrypted tokens -/

namespace EncryptedToken

/-- The token that an encrypted text is. -/
def ofText (nested : String) (key : ContentKey) (iv : Crypto.Gcm.Iv) : EncryptedToken :=
  let header := Header.encrypted Header.direct Header.a256gcm
  let parts := key.encrypt iv (utf8 header.encode) (utf8 nested)
  ⟨header, header.encode, Base64Url.encode parts.iv, Base64Url.encode parts.ciphertext,
    Base64Url.encode parts.tag⟩

private theorem decodePart_eq_ok_iff {part : SealedPart} {segment : String} {b : Bytes} :
    decodePart part segment = .ok b ↔ Base64Url.decode? segment = some b := by
  unfold decodePart
  cases Base64Url.decode? segment <;> simp

theorem parts_eq_ok_iff {t : EncryptedToken} {s : Sealed} :
    t.parts = .ok s ↔ Base64Url.decode? t.ivSegment = some s.iv ∧
      Base64Url.decode? t.ciphertextSegment = some s.ciphertext ∧
      Base64Url.decode? t.tagSegment = some s.tag := by
  obtain ⟨iv, ciphertext, tag⟩ := s
  rw [parts, bind_eq_ok_iff]
  simp only [bind_eq_ok_iff, decodePart_eq_ok_iff, Except.ok.injEq, Sealed.mk.injEq]
  constructor
  · rintro ⟨_, hiv, _, hciphertext, _, htag, rfl, rfl, rfl⟩
    exact ⟨hiv, hciphertext, htag⟩
  · rintro ⟨hiv, hciphertext, htag⟩
    exact ⟨iv, hiv, ciphertext, hciphertext, tag, htag, rfl, rfl, rfl⟩

variable {t : EncryptedToken} {key : ContentKey}

private theorem decrypt_decrypter (halg : t.header.alg = Header.direct)
    (henc : t.header.enc = some Header.a256gcm) :
    t.decrypt key.decrypter
      = (t.parts >>= key.decrypt (utf8 t.headerSegment)).mapError .crypto := by
  rw [decrypt, if_neg (by simp [ContentKey.decrypter, halg, henc])]
  cases t.parts <;> rfl

/-- Exactly the sealed texts are opened: of the segments the strict decoding counts. -/
theorem decrypt_eq_ok_iff (halg : t.header.alg = Header.direct)
    (henc : t.header.enc = some Header.a256gcm) {plaintext : Bytes} :
    t.decrypt key.decrypter = .ok plaintext ↔
      ∃ (iv : Crypto.Gcm.Iv) (ciphertext tag : Bytes),
        Base64Url.decode? t.ivSegment = some iv.toList ∧
        Base64Url.decode? t.ciphertextSegment = some ciphertext ∧
        Base64Url.decode? t.tagSegment = some tag ∧
        Crypto.Gcm.decrypt? (Crypto.aes256 key.bytes) iv (utf8 t.headerSegment) ciphertext tag
          = some plaintext := by
  rw [decrypt_decrypter halg henc, mapError_eq_ok_iff, bind_eq_ok_iff]
  constructor
  · rintro ⟨s, hparts, hs⟩
    obtain ⟨hivSegment, hciphertext, htag⟩ := parts_eq_ok_iff.mp hparts
    obtain ⟨iv, hiv, hopen⟩ := ContentKey.decrypt_eq_ok_iff.mp hs
    exact ⟨iv, s.ciphertext, s.tag, hiv ▸ hivSegment, hciphertext, htag, hopen⟩
  · rintro ⟨iv, ciphertext, tag, hiv, hciphertext, htag, hopen⟩
    refine ⟨⟨iv.toList, ciphertext, tag⟩, ?_, ?_⟩
    · exact parts_eq_ok_iff.mpr ⟨hiv, hciphertext, htag⟩
    · exact ContentKey.decrypt_eq_ok_iff.mpr ⟨iv, rfl, hopen⟩

theorem decrypt_eq_ok_or_crypto (halg : t.header.alg = Header.direct)
    (henc : t.header.enc = some Header.a256gcm) :
    (∃ plaintext, t.decrypt key.decrypter = .ok plaintext) ∨
      ∃ e, t.decrypt key.decrypter = .error (.crypto e) := by
  rw [decrypt_decrypter halg henc]
  cases t.parts >>= key.decrypt (utf8 t.headerSegment) with
  | error e => exact .inr ⟨e, rfl⟩
  | ok plaintext => exact .inl ⟨plaintext, rfl⟩

/-- A token is opened with one tag segment only. -/
theorem tagSegment_eq_of_decrypt (halg : t.header.alg = Header.direct)
    (henc : t.header.enc = some Header.a256gcm) {plaintext plaintext' : Bytes} {segment : String}
    (h : t.decrypt key.decrypter = .ok plaintext)
    (h' : { t with tagSegment := segment }.decrypt key.decrypter = .ok plaintext') :
    segment = t.tagSegment := by
  obtain ⟨iv, ciphertext, tag, hiv, hciphertext, htag, hopen⟩ := (decrypt_eq_ok_iff halg henc).mp h
  obtain ⟨iv', ciphertext', tag', hiv', hciphertext', htag', hopen'⟩ :=
    (decrypt_eq_ok_iff (t := { t with tagSegment := segment }) halg henc).mp h'
  obtain rfl : iv = iv' := Vector.toList_inj.mp (Option.some.inj (hiv.symm.trans hiv'))
  obtain rfl : ciphertext = ciphertext' := Option.some.inj (hciphertext.symm.trans hciphertext')
  have heq : tag = tag' := by
    rw [← Crypto.Gcm.tag_eq_of_decrypt? hopen, Crypto.Gcm.tag_eq_of_decrypt? hopen']
  have hsegment : segment = Base64Url.encode tag' := Base64Url.decode?_eq_some_iff.mp htag'
  rw [hsegment, ← heq, Base64Url.decode?_eq_some_iff.mp htag]

theorem decrypt_ofText (nested : String) (key : ContentKey) (iv : Crypto.Gcm.Iv) :
    (ofText nested key iv).decrypt key.decrypter = .ok (utf8 nested) := by
  refine (decrypt_eq_ok_iff rfl rfl).mpr ⟨iv, _, _, ?_, ?_, ?_, Crypto.Gcm.decrypt_encrypt ..⟩
  · exact Base64Url.decode?_encode _
  · exact Base64Url.decode?_encode _
  · exact Base64Url.decode?_encode _

/-- Encrypted text is an encrypted token. -/
theorem parse_encrypt (nested : String) (key : ContentKey) (iv : Crypto.Gcm.Iv) :
    Token.parse (encrypt nested key iv) = .ok (.encrypted (ofText nested key iv)) := by
  refine Token.parse_eq_encrypted_iff.mpr ⟨?_, Header.decode_encode _, rfl, rfl⟩
  apply split_join
  simp [Header.encode, Base64Url.dot_not_mem_encode]

end EncryptedToken

end IdentityToken
