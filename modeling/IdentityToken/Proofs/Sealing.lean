import IdentityToken.Proofs.Token.Opening
/-!
# Encryption and decryption are inverse

A content key decrypts exactly what it encrypts, whatever lengths the parts of a sealed text have.
The mode also gives ciphertext and tag in one piece. They are told apart by the length of the tag
alone, so this length is checked before they are joined again.
-/

namespace IdentityToken

namespace Crypto.Gcm

/-- A ciphertext and a tag that were joined: the last 16 octets are the tag. -/
def splitTag (joined : Bytes) : Bytes × Bytes := joined.splitAt (joined.length - 16)

/-- The ciphertext of a text and then its tag. -/
def encryptJoined (cipher : Block → Block) (iv : Iv) (aad plaintext : Bytes) : Bytes :=
  (encrypt cipher iv aad plaintext).1 ++ (encrypt cipher iv aad plaintext).2

/-- The text of a ciphertext and a tag that were joined. -/
def decryptJoined? (cipher : Block → Block) (iv : Iv) (aad joined : Bytes) : Option Bytes :=
  if 16 ≤ joined.length then
    decrypt? cipher iv aad (splitTag joined).1 (splitTag joined).2
  else none

variable {cipher : Block → Block} {iv : Iv} {aad ciphertext given plaintext : Bytes}

theorem splitTag_append (ciphertext : Bytes) (h : given.length = 16) :
    splitTag (ciphertext ++ given) = (ciphertext, given) := by
  have hlength : (ciphertext ++ given).length - 16 = ciphertext.length := by
    rw [List.length_append, h, Nat.add_sub_cancel]
  rw [splitTag, hlength, List.splitAt_eq, List.take_left, List.drop_left]

theorem decryptJoined?_append (h : given.length = 16) :
    decryptJoined? cipher iv aad (ciphertext ++ given)
      = decrypt? cipher iv aad ciphertext given := by
  have hlength : 16 ≤ (ciphertext ++ given).length := by
    rw [List.length_append, h]
    exact Nat.le_add_left 16 _
  rw [decryptJoined?, if_pos hlength, splitTag_append ciphertext h]

theorem decrypt?_eq_some_iff :
    decrypt? cipher iv aad ciphertext given = some plaintext ↔
      encrypt cipher iv aad plaintext = (ciphertext, given) := by
  constructor
  · exact encrypt_of_decrypt
  · intro h
    have hdecrypt := decrypt_encrypt cipher iv aad plaintext
    rwa [h] at hdecrypt

theorem exists_decrypt?_iff :
    (∃ plaintext, decrypt? cipher iv aad ciphertext given = some plaintext) ↔
      given = tag cipher iv aad ciphertext := by
  constructor
  · rintro ⟨plaintext, h⟩
    exact (tag_eq_of_decrypt? h).symm
  · intro h
    exact ⟨crypt cipher iv ciphertext, if_pos h.symm⟩

end Crypto.Gcm

/-- The sealed text of an initialization vector and what the mode gives in one piece. -/
def Sealed.ofJoined (iv : Crypto.Gcm.Iv) (joined : Bytes) : Sealed :=
  ⟨iv.toList, (Crypto.Gcm.splitTag joined).1, (Crypto.Gcm.splitTag joined).2⟩

/-- What is wrong with a sealed text that cannot be decrypted. -/
def Sealed.fault (s : Sealed) : CryptoError :=
  if s.iv.length ≠ 12 then .ivSize s.iv.length
  else if s.tag.length ≠ 16 then .tagSize s.tag.length
  else .notAuthentic

namespace ContentKey

variable {key : ContentKey} {aad plaintext : Bytes} {s : Sealed}

theorem length_ciphertext_encrypt (key : ContentKey) (iv : Crypto.Gcm.Iv)
    (aad plaintext : Bytes) :
    (key.encrypt iv aad plaintext).ciphertext.length = plaintext.length := by
  simp only [encrypt, Crypto.Gcm.encrypt, Crypto.Gcm.length_crypt]

theorem length_tag_encrypt (key : ContentKey) (iv : Crypto.Gcm.Iv)
    (aad plaintext : Bytes) : (key.encrypt iv aad plaintext).tag.length = 16 := by
  simp only [encrypt, Crypto.Gcm.encrypt, Crypto.Gcm.length_tag]

theorem encrypt_eq_ofJoined (key : ContentKey) (iv : Crypto.Gcm.Iv) (aad plaintext : Bytes) :
    key.encrypt iv aad plaintext = Sealed.ofJoined iv
      (Crypto.Gcm.encryptJoined (Crypto.aes256 key.bytes) iv aad plaintext) := by
  have htag : (Crypto.Gcm.encrypt (Crypto.aes256 key.bytes) iv aad plaintext).2.length = 16 :=
    key.length_tag_encrypt iv aad plaintext
  rw [Sealed.ofJoined, Crypto.Gcm.encryptJoined, Crypto.Gcm.splitTag_append _ htag, encrypt]

theorem encrypt_eq_iff {iv : Crypto.Gcm.Iv} (hiv : iv.toList = s.iv) :
    key.encrypt iv aad plaintext = s ↔
      Crypto.Gcm.encrypt (Crypto.aes256 key.bytes) iv aad plaintext = (s.ciphertext, s.tag) := by
  obtain ⟨_, ciphertext, tag⟩ := s
  obtain rfl := hiv
  simp only [encrypt, Sealed.mk.injEq, true_and, Prod.ext_iff]

theorem decrypt_eq_ok_iff_exists_encrypt :
    key.decrypt aad s = .ok plaintext ↔
      ∃ iv : Crypto.Gcm.Iv, iv.toList = s.iv ∧ key.encrypt iv aad plaintext = s := by
  rw [decrypt_eq_ok_iff]
  refine exists_congr fun iv => ?_
  rw [eq_comm]
  refine and_congr_right fun hiv => ?_
  rw [encrypt_eq_iff hiv, Crypto.Gcm.decrypt?_eq_some_iff]

theorem eq_fault_of_decrypt {e : CryptoError} (h : key.decrypt aad s = .error e) :
    e = s.fault := by
  -- The lengths are checked in the order in which `Sealed.fault` looks at them.
  unfold decrypt at h
  split at h
  · next hiv =>
    split at h
    · next htag =>
      split at h
      · cases h
      · cases h; simp [Sealed.fault, hiv, htag]
    · next htag => cases h; simp [Sealed.fault, hiv, htag]
  · next hiv => cases h; simp [Sealed.fault, hiv]

theorem decrypt_eq_error_fault_iff :
    key.decrypt aad s = .error s.fault ↔ ∀ plaintext, key.decrypt aad s ≠ .ok plaintext := by
  rw [← exists_error_iff_forall_ne]
  constructor
  · exact fun h => ⟨_, h⟩
  · rintro ⟨e, he⟩
    rw [he, eq_fault_of_decrypt he]

theorem decrypt_mk_eq_ok_iff {iv : Crypto.Gcm.Iv} {ciphertext tag : Bytes} :
    key.decrypt aad ⟨iv.toList, ciphertext, tag⟩ = .ok plaintext ↔
      Crypto.Gcm.decrypt? (Crypto.aes256 key.bytes) iv aad ciphertext tag = some plaintext := by
  rw [decrypt_eq_ok_iff]
  constructor
  · rintro ⟨iv', hiv, hopen⟩
    obtain rfl := Vector.toList_inj.mp hiv
    exact hopen
  · exact fun hopen => ⟨iv, rfl, hopen⟩

/-- The joined form is decrypted too, but only the length of the given tag tells whether it was cut
where it was joined. -/
theorem decrypt_eq_ok_iff_decryptJoined? {iv : Crypto.Gcm.Iv} {ciphertext tag : Bytes} :
    key.decrypt aad ⟨iv.toList, ciphertext, tag⟩ = .ok plaintext ↔ tag.length = 16 ∧
      Crypto.Gcm.decryptJoined? (Crypto.aes256 key.bytes) iv aad (ciphertext ++ tag)
        = some plaintext := by
  rw [decrypt_mk_eq_ok_iff]
  constructor
  · intro hopen
    have htag : tag.length = 16 := by
      rw [← Crypto.Gcm.tag_eq_of_decrypt? hopen, Crypto.Gcm.length_tag]
    exact ⟨htag, (Crypto.Gcm.decryptJoined?_append htag).trans hopen⟩
  · rintro ⟨htag, hopen⟩
    exact (Crypto.Gcm.decryptJoined?_append htag).symm.trans hopen

/-- A key decrypts exactly what it encrypts, and of everything else it says what is wrong. A text
has as many octets as its ciphertext, and to each ciphertext there is one tag. -/
theorem decrypt_iff_encrypt (key : ContentKey) (aad : Bytes) :
    (∀ s plaintext, key.decrypt aad s = .ok plaintext ↔
      ∃ iv : Crypto.Gcm.Iv, iv.toList = s.iv ∧ key.encrypt iv aad plaintext = s) ∧
    (∀ s, key.decrypt aad s = .error s.fault ↔
      ¬∃ (iv : Crypto.Gcm.Iv) (plaintext : Bytes),
        iv.toList = s.iv ∧ key.encrypt iv aad plaintext = s) ∧
    (∀ iv plaintext, key.decrypt aad (key.encrypt iv aad plaintext) = .ok plaintext ∧
      (key.encrypt iv aad plaintext).ciphertext.length = plaintext.length ∧
      (key.encrypt iv aad plaintext).tag.length = 16 ∧
      key.encrypt iv aad plaintext = .ofJoined iv
        (Crypto.Gcm.encryptJoined (Crypto.aes256 key.bytes) iv aad plaintext)) ∧
    (∀ (iv : Crypto.Gcm.Iv) (ciphertext tag plaintext : Bytes),
      key.decrypt aad ⟨iv.toList, ciphertext, tag⟩ = .ok plaintext ↔ tag.length = 16 ∧
        Crypto.Gcm.decryptJoined? (Crypto.aes256 key.bytes) iv aad (ciphertext ++ tag)
          = some plaintext) ∧
    ∀ (iv : Crypto.Gcm.Iv) (ciphertext : Bytes), ∃ tag : Bytes, ∀ given : Bytes,
      (∃ plaintext, key.decrypt aad ⟨iv.toList, ciphertext, given⟩ = .ok plaintext) ↔
        given = tag := by
  refine ⟨fun s plaintext => decrypt_eq_ok_iff_exists_encrypt, ?_, ?_, ?_, ?_⟩
  · intro s
    rw [decrypt_eq_error_fault_iff]
    simp only [ne_eq, decrypt_eq_ok_iff_exists_encrypt]
    rw [← not_exists, exists_comm]
  · intro iv plaintext
    exact ⟨key.decrypt_encrypt iv aad plaintext, key.length_ciphertext_encrypt iv aad plaintext,
      key.length_tag_encrypt iv aad plaintext, key.encrypt_eq_ofJoined iv aad plaintext⟩
  · exact fun iv ciphertext tag plaintext => decrypt_eq_ok_iff_decryptJoined?
  · intro iv ciphertext
    refine ⟨Crypto.Gcm.tag (Crypto.aes256 key.bytes) iv aad ciphertext, fun given => ?_⟩
    simp only [decrypt_mk_eq_ok_iff]
    exact Crypto.Gcm.exists_decrypt?_iff

end ContentKey

end IdentityToken
