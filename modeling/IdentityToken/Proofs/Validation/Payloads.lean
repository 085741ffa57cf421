import IdentityToken.Proofs.Token.Forms
import IdentityToken.Proofs.Validation.Causes
/-!
# Payloads that are not verified

Nothing of what a token says is looked at before its signature is right. A wrong signature is
refused for what it is itself: text that cannot be decoded, or a code of something else. So two
tokens with wrong signatures of one sort have the same result, whatever they say and whether or not
they are encrypted.
-/

namespace IdentityToken

open Text

namespace SignedToken

/-- Why a segment is refused that is not the right signature. -/
def refusal (signature : String) : VerificationError :=
  if Base64Url.decode? signature = none then .notBase64 else .mismatch

/-- A wrong signature is refused without a look at what it should sign. -/
theorem verify_of_forged {t : SignedToken} {secret : Secret} {key : SigningKey}
    (halg : t.header.alg = Header.hs256) (hkey : SigningKey.ofBytes secret.bytes = .ok key)
    (h : t.Forged secret) : t.verify key.verifier = .error (refusal t.signatureSegment) := by
  obtain ⟨e, he⟩ := (forged_iff halg hkey).mp h
  rw [verify, if_neg (by simp [halg, SigningKey.verifier])] at he ⊢
  cases hsignature : Base64Url.decode? t.signatureSegment with
  | none => simp [refusal, hsignature]
  | some signature =>
    rw [hsignature] at he
    cases haccepts : key.verifier.accepts (utf8 t.signingInput) signature with
    | true => simp [haccepts] at he
    | false => simp [refusal, hsignature, haccepts]

end SignedToken

namespace Validator

variable {v : Validator} {text : String} {secret : Secret}

/-- Of a wrong signature a validation tells no more than why it is refused. -/
theorem claims_of_forged {t : SignedToken} (hsigning : v.signing = some secret)
    (hblank : secret.isBlank = false) (hlength : 32 ≤ secret.bytes.length)
    (hreaches : v.Reaches text t) (hforged : t.Forged secret) :
    v.claims text = .error (.verification (SignedToken.refusal t.signatureSegment)) := by
  have hfind : v.find text = .ok t := find_eq_ok_iff_encrypts.mpr hreaches
  obtain ⟨key, hkey⟩ := SigningKey.exists_ofBytes hlength
  have hverify := SignedToken.verify_of_forged (alg_of_find hfind) hkey hforged
  rw [claims_eq, conclude_of_usable hsigning hblank, bind_ok hfind, authenticate,
    bind_ok (mapError_ok hkey _), hverify]
  rfl

/-- A text has the segments of a signed token, or it encrypts a text that has them. -/
def Presents (v : Validator) (text header payload signature : String) : Prop :=
  ∃ signed d, Token.Segmented signed [header, payload, signature] ∧
    Header.decode header = .ok d ∧ d.alg = "HS256" ∧
    (text = signed ∨ ∃ encryption, v.encryption = some encryption ∧
      encryption.isBlank = false ∧ Encrypts encryption text signed)

theorem Presents.reaches {header payload signature : String}
    (h : v.Presents text header payload signature) :
    ∃ d, v.Reaches text ⟨d, header, payload, signature⟩ := by
  obtain ⟨signed, d, hsegments, hd, halg, hwhere⟩ := h
  have hsplit := Token.segmented_iff.mp hsegments
  exact ⟨d, signed, Token.parse_eq_signed_iff.mpr ⟨hsplit, hd, halg⟩, hwhere⟩

/-- A segment can be decoded, but it is not the code of the two segments in front of it. -/
def Mismatched (secret : Secret) (header payload signature : String) : Prop :=
  ∃ code, Base64Url.decode? signature = some code ∧
    code ≠ Crypto.hmacSha256 secret.bytes (utf8 (join '.' [header, payload]))

/-- A text with a wrong signature is refused for it, by the claims and by the record. -/
private theorem refused_of_presents {header payload signature : String}
    (hsigning : v.signing = some secret) (hblank : secret.isBlank = false)
    (hlength : 32 ≤ secret.bytes.length) (h : v.Presents text header payload signature)
    (hwrong : Mismatched secret header payload signature ∨ Base64Url.decode? signature = none) :
    v.claims text = .error (.verification (SignedToken.refusal signature)) ∧
      v.validate text = .error (.verification (SignedToken.refusal signature)) := by
  obtain ⟨d, hreaches⟩ := h.reaches
  have hforged : SignedToken.Forged ⟨d, header, payload, signature⟩ secret := hwrong.symm
  have hclaims := claims_of_forged hsigning hblank hlength hreaches hforged
  exact ⟨hclaims, bind_error hclaims _⟩

/-- Two tokens whose signatures are wrong in the same way have the same result: both are not the
code of what they should sign, or both cannot be decoded. The payloads are any texts, and each token
may be encrypted or not. -/
theorem claims_eq_of_wrong_signatures (hsigning : v.signing = some secret)
    (hblank : secret.isBlank = false) (hlength : 32 ≤ secret.bytes.length)
    {a b h p g h' p' g' : String} (ha : v.Presents a h p g) (hb : v.Presents b h' p' g')
    (hwrong : Mismatched secret h p g ∧ Mismatched secret h' p' g' ∨
      Base64Url.decode? g = none ∧ Base64Url.decode? g' = none) :
    ∃ e, e.kind = .verification ∧ v.claims a = .error e ∧ v.claims b = .error e ∧
      v.validate a = .error e ∧ v.validate b = .error e := by
  have hsame : SignedToken.refusal g = SignedToken.refusal g' := by
    rcases hwrong with ⟨⟨_, hg, -⟩, ⟨_, hg', -⟩⟩ | ⟨hg, hg'⟩
    · simp [SignedToken.refusal, hg, hg']
    · simp [SignedToken.refusal, hg, hg']
  obtain ⟨hclaims, hvalidate⟩ := refused_of_presents hsigning hblank hlength ha
    (hwrong.imp And.left And.left)
  obtain ⟨hclaims', hvalidate'⟩ := refused_of_presents hsigning hblank hlength hb
    (hwrong.imp And.right And.right)
  exact ⟨_, rfl, hclaims, hsame ▸ hclaims', hvalidate, hsame ▸ hvalidate'⟩

private theorem mismatched_of_length_ne {header payload signature : String} {code : Bytes}
    (hcode : Base64Url.decode? signature = some code) (hlength : code.length ≠ 32) :
    Mismatched secret header payload signature :=
  ⟨code, hcode, fun h => hlength (h ▸ Crypto.length_hmacSha256 ..)⟩

/-- One token has a payload that is not base64url, and another, which is encrypted, has claims
without a subject. Their signatures are too short. -/
theorem claims_eq_of_short_signatures :
    ∃ (v : Validator) (header b : String) (e : TokenError),
      v = ofSecrets ⟨"0123456789abcdef0123456789abcdeü"⟩ ⟨"0123456789abcdef0123456789abcdñ"⟩ ∧
      v.Presents (join '.' [header, "***", "AAAA"]) header "***" "AAAA" ∧
      v.Presents b header "e30" "" ∧ b ≠ join '.' [header, "e30", ""] ∧
      e.kind = .verification ∧ v.validate (join '.' [header, "***", "AAAA"]) = .error e ∧
      v.validate b = .error e := by
  let header := (Header.signed Header.hs256).encode
  let nested := join '.' [header, "e30", ""]
  let encryption : Secret := ⟨"0123456789abcdef0123456789abcdñ"⟩
  let v := ofSecrets ⟨"0123456789abcdef0123456789abcdeü"⟩ encryption
  have hheader : Header.decode header = .ok (Header.signed Header.hs256) := Header.decode_encode _
  have hdot : '.' ∉ header.toList := Base64Url.dot_not_mem_encode _
  obtain ⟨key, hkey⟩ := ContentKey.exists_ofBytes (b := encryption.bytes) (by decide)
  let b := EncryptedToken.encrypt nested key (Vector.replicate 12 0)
  have hencrypts : Encrypts encryption b nested := exists_decrypt_iff.mp
    ⟨_, key, EncryptedToken.parse_encrypt nested key _, hkey,
      EncryptedToken.decrypt_ofText nested key _⟩
  have hdirect : v.Presents (join '.' [header, "***", "AAAA"]) header "***" "AAAA" :=
    ⟨_, _, ⟨by simp [hdot], rfl⟩, hheader, rfl, .inl rfl⟩
  have hnested : v.Presents b header "e30" "" :=
    ⟨nested, _, ⟨by simp [hdot], rfl⟩, hheader, rfl, .inr ⟨encryption, rfl, by decide, hencrypts⟩⟩
  have hne : b ≠ nested := by
    intro h
    have hsigned : Token.parse nested = .ok (.signed ⟨_, header, "e30", ""⟩) :=
      Token.parse_eq_signed_iff.mpr ⟨split_join (by simp [hdot]), hheader, rfl⟩
    rw [← h, EncryptedToken.parse_encrypt] at hsigned
    cases hsigned
  have hcode : Base64Url.decode? "AAAA" = some [0, 0, 0] := by decide
  have hempty : Base64Url.decode? "" = some [] := by decide
  obtain ⟨e, hkind, -, -, ha, hb⟩ := claims_eq_of_wrong_signatures rfl (by decide) (by decide)
    hdirect hnested (.inl ⟨mismatched_of_length_ne hcode (by decide),
      mismatched_of_length_ne hempty (by decide)⟩)
  exact ⟨v, header, b, e, rfl, hdirect, hnested, hne, hkind, ha, hb⟩

end Validator

end IdentityToken
