import IdentityToken.Proofs.Header
import IdentityToken.Proofs.Outcome
import IdentityToken.Proofs.Text.Segments
import IdentityToken.Token.Basic
/-!
# The grammar of tokens

A text is a token of a form exactly when its segments and its header are those of that form. What is
read of a token is its segments, so a token gives back the text it was read from.
-/

namespace IdentityToken.Token

open Text

/-- Everything that a token can be read from: three segments or five, and a header. -/
private theorem parse_eq_ok_cases {text : String} {token : Token} (h : parse text = .ok token) :
    (∃ header payload signature d, split '.' text = [header, payload, signature] ∧
      Header.decode header = .ok d ∧ ofThree d header payload signature = .ok token) ∨
    ∃ header key iv ciphertext tag d, split '.' text = [header, key, iv, ciphertext, tag] ∧
      Header.decode header = .ok d ∧ ofFive d header key iv ciphertext tag = .ok token := by
  unfold parse at h
  generalize split '.' text = segments at h ⊢
  unfold ofSegments at h
  split at h
  · next header payload signature =>
    obtain ⟨d, hd, htoken⟩ := bind_eq_ok_iff.mp h
    exact .inl ⟨header, payload, signature, d, rfl, hd, htoken⟩
  · next header key iv ciphertext tag =>
    obtain ⟨d, hd, htoken⟩ := bind_eq_ok_iff.mp h
    exact .inr ⟨header, key, iv, ciphertext, tag, d, rfl, hd, htoken⟩
  · cases h

private theorem parse_of_three {text header payload signature : String} {d : Header}
    (h : split '.' text = [header, payload, signature]) (hd : Header.decode header = .ok d) :
    parse text = ofThree d header payload signature := by
  rw [parse, h, ofSegments, bind_ok hd]

private theorem parse_of_five {text header key iv ciphertext tag : String} {d : Header}
    (h : split '.' text = [header, key, iv, ciphertext, tag]) (hd : Header.decode header = .ok d) :
    parse text = ofFive d header key iv ciphertext tag := by
  rw [parse, h, ofSegments, bind_ok hd]

private theorem ofThree_ne_encrypted {d : Header} {header payload signature : String}
    {t : EncryptedToken} : ofThree d header payload signature ≠ .ok (.encrypted t) := by
  unfold ofThree
  split
  · simp
  · split <;> simp

private theorem ofFive_eq_ok {d : Header} {header key iv ciphertext tag : String} {token : Token}
    (h : ofFive d header key iv ciphertext tag = .ok token) :
    d.alg = Header.direct ∧ d.enc = some Header.a256gcm ∧ key = "" ∧
      token = .encrypted ⟨d, header, iv, ciphertext, tag⟩ := by
  unfold ofFive at h
  split at h
  · cases h
  · next halg =>
    split at h
    · cases h
    · next hkey =>
      cases h
      simp only [ne_eq, not_or, Decidable.not_not] at halg hkey
      exact ⟨halg.1, halg.2, hkey, rfl⟩

/-- A text is a signed token exactly when it has three segments and a header of signed tokens. -/
theorem parse_eq_signed_iff {text : String} {t : SignedToken} :
    parse text = .ok (.signed t) ↔
      split '.' text = [t.headerSegment, t.payloadSegment, t.signatureSegment] ∧
        Header.decode t.headerSegment = .ok t.header ∧ t.header.alg = Header.hs256 := by
  have hne : Header.hs256 ≠ Header.unsecured := by decide
  constructor
  · intro h
    rcases parse_eq_ok_cases h with ⟨header, payload, signature, d, hsplit, hd, htoken⟩ |
      ⟨header, key, iv, ciphertext, tag, d, -, -, htoken⟩
    · unfold ofThree at htoken
      split at htoken
      · cases htoken
      · split at htoken
        · next halg => cases htoken; exact ⟨hsplit, hd, halg⟩
        · cases htoken
    · cases (ofFive_eq_ok htoken).2.2.2
  · rintro ⟨hsplit, hd, halg⟩
    rw [parse_of_three hsplit hd, ofThree, halg, if_neg hne, if_pos rfl]

/-- A signed token with another signature is that token. -/
theorem parse_of_signature {text segment : String} {t : SignedToken}
    (h : parse text = .ok (.signed t)) (hdot : '.' ∉ segment.toList) :
    parse { t with signatureSegment := segment }.serialize
      = .ok (.signed { t with signatureSegment := segment }) := by
  obtain ⟨hsplit, hd, halg⟩ := parse_eq_signed_iff.mp h
  have hseparated := (split_eq_cons_iff.mp hsplit).1
  refine parse_eq_signed_iff.mpr ⟨split_join ?_, hd, halg⟩
  simp only [separated_cons, separated_nil, and_true] at hseparated ⊢
  exact ⟨hseparated.1, hseparated.2.1, hdot⟩

/-- A text is an unsecured token exactly when it has three segments and a header that says so. -/
theorem parse_eq_unsecured_iff {text : String} {t : UnsecuredToken} :
    parse text = .ok (.unsecured t) ↔
      ∃ header signature, split '.' text = [header, t.payloadSegment, signature] ∧
        Header.decode header = .ok t.header ∧ t.header.alg = Header.unsecured := by
  constructor
  · intro h
    rcases parse_eq_ok_cases h with ⟨header, payload, signature, d, hsplit, hd, htoken⟩ |
      ⟨header, key, iv, ciphertext, tag, d, -, -, htoken⟩
    · unfold ofThree at htoken
      split at htoken
      · next halg => cases htoken; exact ⟨header, signature, hsplit, hd, halg⟩
      · split at htoken <;> cases htoken
    · cases (ofFive_eq_ok htoken).2.2.2
  · rintro ⟨header, signature, hsplit, hd, halg⟩
    rw [parse_of_three hsplit hd, ofThree, if_pos halg]

/-- A text is an encrypted token exactly when it has five segments, of which the second is empty,
and a header of encrypted tokens. -/
theorem parse_eq_encrypted_iff {text : String} {t : EncryptedToken} :
    parse text = .ok (.encrypted t) ↔
      split '.' text
          = [t.headerSegment, "", t.ivSegment, t.ciphertextSegment, t.tagSegment] ∧
        Header.decode t.headerSegment = .ok t.header ∧ t.header.alg = Header.direct ∧
        t.header.enc = some Header.a256gcm := by
  constructor
  · intro h
    rcases parse_eq_ok_cases h with ⟨header, payload, signature, d, -, -, htoken⟩ |
      ⟨header, key, iv, ciphertext, tag, d, hsplit, hd, htoken⟩
    · exact absurd htoken ofThree_ne_encrypted
    · obtain ⟨halg, henc, rfl, hencrypted⟩ := ofFive_eq_ok htoken
      cases hencrypted
      exact ⟨hsplit, hd, halg, henc⟩
  · rintro ⟨hsplit, hd, halg, henc⟩
    rw [parse_of_five hsplit hd, ofFive, if_neg (by simp [halg, henc]), if_neg (by simp)]

/-- An encrypted token with another tag is that token. -/
theorem parse_of_tag {text segment : String} {t : EncryptedToken}
    (h : parse text = .ok (.encrypted t)) (hdot : '.' ∉ segment.toList) :
    parse { t with tagSegment := segment }.serialize
      = .ok (.encrypted { t with tagSegment := segment }) := by
  obtain ⟨hsplit, hd, halg, henc⟩ := parse_eq_encrypted_iff.mp h
  have hseparated := (split_eq_cons_iff.mp hsplit).1
  refine parse_eq_encrypted_iff.mpr ⟨split_join ?_, hd, halg, henc⟩
  simp only [separated_cons, separated_nil, and_true] at hseparated ⊢
  exact ⟨hseparated.1, hseparated.2.1, hseparated.2.2.1, hseparated.2.2.2.1, hdot⟩

/-- A key segment that is not empty is refused, if not for the header. -/
theorem parse_of_key_ne {text header key iv ciphertext tag : String}
    (h : split '.' text = [header, key, iv, ciphertext, tag]) (hkey : key ≠ "") :
    ∃ e, parse text = .error e := by
  cases hparse : parse text with
  | error e => exact ⟨e, rfl⟩
  | ok token =>
    rcases parse_eq_ok_cases hparse with ⟨_, _, _, _, hsplit, -, -⟩ |
      ⟨_, _, _, _, _, _, hsplit, -, htoken⟩
    · rw [h] at hsplit; cases hsplit
    · rw [h] at hsplit
      cases hsplit
      exact absurd (ofFive_eq_ok htoken).2.2.1 hkey

end IdentityToken.Token
