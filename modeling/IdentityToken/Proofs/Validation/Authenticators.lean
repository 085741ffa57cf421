import IdentityToken.Proofs.Issuance
/-!
# Accepted tokens cannot be changed where they authenticate

With the other segments of an accepted token fixed, one signature is accepted, or one tag and one
encrypted key, which is the empty one. Any other segment is refused for what it is: a signature by
verification, a tag by cryptography and an encrypted key by the format.
-/

namespace IdentityToken.Validator

open Text

variable {v : Validator} {text : String} {c : ClaimSet}

/-- A text that is accepted is of one of two forms. -/
theorem parse_of_claims_eq_ok (hc : v.claims text = .ok c) :
    (∃ t, Token.parse text = .ok (.signed t)) ∨ ∃ e, Token.parse text = .ok (.encrypted e) := by
  rw [claims_eq] at hc
  obtain ⟨-, t, -, -, hfind, -⟩ := conclude_eq_ok_iff.mp hc
  rcases find_eq_ok_iff.mp hfind with hparse | ⟨e, hparse, -⟩
  · exact .inl ⟨t, hparse⟩
  · exact .inr ⟨e, hparse⟩

theorem claims_of_find_eq_error (hc : v.claims text = .ok c) {other : String} {e : TokenError}
    (hfind : v.find other = .error e) : v.claims other = .error e := by
  rw [claims_eq] at hc ⊢
  obtain ⟨secret, t, hsigning, hblank, -, -⟩ := conclude_eq_ok_iff.mp hc
  rw [conclude_of_usable hsigning hblank, hfind]
  rfl

/-! ## Signatures -/

private theorem authenticate_of_signature_ne {secret : Secret} {t : SignedToken} {segment : String}
    (hc : authenticate secret t = .ok c) (halg : t.header.alg = Header.hs256)
    (hne : segment ≠ t.signatureSegment) :
    ∃ e, authenticate secret { t with signatureSegment := segment } = .error (.verification e) := by
  obtain ⟨key, hkey, hverify, -⟩ := authenticate_eq_ok_iff.mp hc
  have hsignature := (SignedToken.verify_eq_ok_iff halg).mp hverify
  rw [authenticate, bind_ok (mapError_ok hkey _)]
  cases hother : { t with signatureSegment := segment }.verify key.verifier with
  | error e => exact ⟨e, rfl⟩
  | ok _ =>
    -- Both segments are the code of the same text.
    have hsegment := (SignedToken.verify_eq_ok_iff
      (t := { t with signatureSegment := segment }) halg).mp hother
    exact absurd (hsegment.trans hsignature.symm) hne

/-- Another signature is refused by verification. -/
theorem claims_of_signature_ne (hc : v.claims text = .ok c) {t : SignedToken}
    (hparse : Token.parse text = .ok (.signed t)) {segment : String} (hdot : '.' ∉ segment.toList)
    (hne : segment ≠ t.signatureSegment) :
    ∃ e, v.claims { t with signatureSegment := segment }.serialize = .error (.verification e) := by
  rw [claims_eq, v.find_of_signed hparse] at hc
  obtain ⟨secret, t', hsigning, hblank, ht', hauth⟩ := conclude_eq_ok_iff.mp hc
  obtain rfl := Except.ok.inj ht'
  have halg := (Token.parse_eq_signed_iff.mp hparse).2.2
  rw [claims_eq, conclude_of_usable hsigning hblank,
    v.find_of_signed (Token.parse_of_signature hparse hdot)]
  exact authenticate_of_signature_ne hauth halg hne

/-! ## Tags and encrypted keys -/

private theorem unwrap_of_tag_ne {e : EncryptedToken} {t : SignedToken} {segment : String}
    (ht : v.unwrap e = .ok t) (halg : e.header.alg = Header.direct)
    (henc : e.header.enc = some Header.a256gcm) (hne : segment ≠ e.tagSegment) :
    ∃ cause, v.unwrap { e with tagSegment := segment } = .error (.crypto cause) := by
  obtain ⟨secret, key, nested, hencryption, hblank, hkey, hdecrypt, -⟩ := unwrap_eq_ok_iff.mp ht
  rcases EncryptedToken.decrypt_eq_ok_or_crypto (t := { e with tagSegment := segment })
    halg henc with ⟨plaintext, hopened⟩ | ⟨cause, hrefused⟩
  · exact absurd (EncryptedToken.tagSegment_eq_of_decrypt halg henc hdecrypt hopened) hne
  · refine ⟨cause, ?_⟩
    simp only [unwrap, Secret.usable?_eq_some_iff.mpr ⟨hencryption, hblank⟩]
    rw [bind_ok (mapError_ok hkey _), bind_error hrefused]

/-- Another tag is refused by cryptography. -/
theorem claims_of_tag_ne (hc : v.claims text = .ok c) {e : EncryptedToken}
    (hparse : Token.parse text = .ok (.encrypted e)) {segment : String}
    (hdot : '.' ∉ segment.toList) (hne : segment ≠ e.tagSegment) :
    ∃ cause, v.claims { e with tagSegment := segment }.serialize = .error (.crypto cause) := by
  obtain ⟨t, hunwrap⟩ : ∃ t, v.unwrap e = .ok t := by
    rw [claims_eq, v.find_of_encrypted hparse] at hc
    obtain ⟨-, t, -, -, hunwrap, -⟩ := conclude_eq_ok_iff.mp hc
    exact ⟨t, hunwrap⟩
  obtain ⟨-, -, halg, henc⟩ := Token.parse_eq_encrypted_iff.mp hparse
  obtain ⟨cause, hcause⟩ := unwrap_of_tag_ne hunwrap halg henc hne
  refine ⟨cause, claims_of_find_eq_error hc ?_⟩
  rw [v.find_of_encrypted (Token.parse_of_tag hparse hdot)]
  exact hcause

/-- An encrypted key that is not empty is refused for the format. -/
theorem claims_of_key_ne (hc : v.claims text = .ok c) {e : EncryptedToken}
    (hparse : Token.parse text = .ok (.encrypted e)) {segment : String}
    (hdot : '.' ∉ segment.toList) (hne : segment ≠ "") :
    ∃ cause, v.claims (join '.' [e.headerSegment, segment, e.ivSegment, e.ciphertextSegment,
      e.tagSegment]) = .error (.format cause) := by
  have hseparated := (split_eq_cons_iff.mp (Token.parse_eq_encrypted_iff.mp hparse).1).1
  simp only [separated_cons, separated_nil, and_true] at hseparated
  obtain ⟨hheader, -, hrest⟩ := hseparated
  have hchanged : Separated '.' [e.headerSegment, segment, e.ivSegment, e.ciphertextSegment,
      e.tagSegment] := by
    simp only [separated_cons, separated_nil, and_true]
    exact ⟨hheader, hdot, hrest⟩
  obtain ⟨cause, hcause⟩ := Token.parse_of_key_ne (split_join hchanged) hne
  exact ⟨cause, claims_of_find_eq_error hc (v.find_of_error hcause)⟩

/-- An accepted token has one authenticator. In a signed token it is the signature, and any other is
refused by verification; in an encrypted one it is the tag, and any other is refused by
cryptography. An encrypted key is refused for the format. -/
theorem authenticator_unique (hc : v.claims text = .ok c) :
    (∃ h p g, split '.' text = [h, p, g] ∧ ∀ other, '.' ∉ other.toList →
      ((∃ c', v.claims (join '.' [h, p, other]) = .ok c') ↔ other = g) ∧
      (other ≠ g → ∃ e, v.validate (join '.' [h, p, other]) = .error e ∧
        e.kind = .verification)) ∨
    ∃ h iv x z, split '.' text = [h, "", iv, x, z] ∧ ∀ other, '.' ∉ other.toList →
      ((∃ c', v.claims (join '.' [h, "", iv, x, other]) = .ok c') ↔ other = z) ∧
      (other ≠ z → ∃ e, v.validate (join '.' [h, "", iv, x, other]) = .error e ∧
        e.kind = .crypto) ∧
      (other ≠ "" → ∃ e, v.validate (join '.' [h, other, iv, x, z]) = .error e ∧
        e.kind = .format) := by
  rcases parse_of_claims_eq_ok hc with ⟨t, hparse⟩ | ⟨e, hparse⟩
  · have hsplit := (Token.parse_eq_signed_iff.mp hparse).1
    have htext := (split_eq_cons_iff.mp hsplit).2
    refine .inl ⟨_, _, _, hsplit, fun other hdot => ?_⟩
    have hrefused (hne : other ≠ t.signatureSegment) :=
      claims_of_signature_ne hc hparse hdot hne
    refine ⟨exists_ok_iff ?_ ?_, ?_⟩
    · rintro rfl
      exact ⟨c, htext ▸ hc⟩
    · intro hne
      obtain ⟨cause, hcause⟩ := hrefused hne
      exact ⟨_, hcause⟩
    · intro hne
      obtain ⟨cause, hcause⟩ := hrefused hne
      exact ⟨_, bind_error hcause _, rfl⟩
  · have hsplit := (Token.parse_eq_encrypted_iff.mp hparse).1
    have htext := (split_eq_cons_iff.mp hsplit).2
    refine .inr ⟨_, _, _, _, hsplit, fun other hdot => ?_⟩
    have hrefused (hne : other ≠ e.tagSegment) := claims_of_tag_ne hc hparse hdot hne
    refine ⟨exists_ok_iff ?_ ?_, ?_, ?_⟩
    · rintro rfl
      exact ⟨c, htext ▸ hc⟩
    · intro hne
      obtain ⟨cause, hcause⟩ := hrefused hne
      exact ⟨_, hcause⟩
    · intro hne
      obtain ⟨cause, hcause⟩ := hrefused hne
      exact ⟨_, bind_error hcause _, rfl⟩
    · intro hne
      obtain ⟨cause, hcause⟩ := claims_of_key_ne hc hparse hdot hne
      exact ⟨_, bind_error hcause _, rfl⟩

/-- A token of a record with an array, encrypted: no tag but its own is accepted. -/
theorem authenticator_unique_accented :
    ∃ text c h iv x z, (Issuer.accented.validator "").claims text = .ok c ∧
      split '.' text = [h, "", iv, x, z] ∧ ∀ other, '.' ∉ other.toList → other ≠ z →
        ∃ e, (Issuer.accented.validator "").validate (join '.' [h, "", iv, x, other]) = .error e ∧
          e.kind = .crypto := by
  let at_ : Instant := ⟨-1, 1999999999, by decide, by decide⟩
  let c := ClaimSet.forIdentity (Issuer.nestedRecord 1) Issuer.name at_
  obtain ⟨key, hkey⟩ := SigningKey.exists_ofBytes
    (b := Secret.bytes ⟨"0123456789abcdef0123456789abcdeü"⟩) (by decide)
  obtain ⟨contentKey, hcontentKey⟩ := ContentKey.exists_ofBytes
    (b := Secret.bytes ⟨"0123456789abcdef0123456789abcdñ"⟩) (by decide)
  have hread : ClaimSet.ofPayload c.payload = .ok c.readBack := by
    have hdepth : c.toJson.depth ≤ Json.maxDepth := by
      refine ClaimSet.depth_toJson_le_iff.mpr fun m hm => ?_
      obtain rfl := List.mem_singleton.mp hm
      exact Nat.le_trans (Nat.le_of_eq (Issuer.depth_nestedArray 1)) (by decide)
    have hintegral : ∀ m ∈ c.extra.toList, m.2.Integral := by
      intro m hm
      obtain rfl := List.mem_singleton.mp hm
      exact Issuer.integral_nestedArray 1
    rw [ClaimSet.ofPayload_payload hintegral, if_pos hdepth]
  have hc : (Issuer.accented.validator "").claims
      (EncryptedToken.encrypt (SignedToken.sign c key) contentKey (Vector.replicate 12 0))
        = .ok c.readBack := by
    have hsome : (Issuer.accented.validator "").signing
        = some ⟨"0123456789abcdef0123456789abcdeü"⟩ := rfl
    rw [claims_eq, find_encrypt rfl (by decide) hcontentKey,
      mapError_ok (nestedToken_of_signed (SignedToken.parse_sign c key)),
      conclude_ofClaims hsome (by decide) hkey, hread]
    rfl
  have hsplit := (Token.parse_eq_encrypted_iff.mp
    (EncryptedToken.parse_encrypt (SignedToken.sign c key) contentKey (Vector.replicate 12 0))).1
  rcases authenticator_unique hc with ⟨h, p, g, hsigned, -⟩ | ⟨h, iv, x, z, hencrypted, hunique⟩
  · rw [hsplit] at hsigned
    cases hsigned
  · exact ⟨_, _, h, iv, x, z, hc, hencrypted, fun other hdot => (hunique other hdot).2.1⟩

end IdentityToken.Validator
