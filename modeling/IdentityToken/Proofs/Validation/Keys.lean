import IdentityToken.Proofs.Reissuance
import IdentityToken.Proofs.Secret
import IdentityToken.Proofs.Text.Octets
import IdentityToken.Proofs.Token.Issued
import IdentityToken.Proofs.Validation.Payloads
import Mathlib.Data.Fintype.BigOperators
import Mathlib.Data.Fintype.Pigeonhole
/-!
# Secrets that are told apart

A signed token is refused under another secret exactly if that secret gives another code for it. A
code is made from a block of 64 octets, so secrets that fill the block alike are one secret to every
validator. A code has only 32 octets, so even of the new secrets, which are 64 letters and digits,
some two are not told apart by a token.
-/

namespace IdentityToken

open Text

namespace Crypto

/-! ## Blocks -/

theorem length_shortKey_le (key : Bytes) : (shortKey key).length ≤ hashBlock := by
  unfold shortKey
  split
  · next h => exact h
  · rw [length_sha256]
    decide

private theorem append_zeros_eq_iff {short long : Bytes} {size : Nat}
    (hle : short.length ≤ long.length) (hlong : long.length ≤ size) :
    long ++ List.replicate (size - long.length) 0
        = short ++ List.replicate (size - short.length) 0 ↔
      long = short ++ List.replicate (long.length - short.length) 0 := by
  have hzeros : List.replicate (size - short.length) (0 : UInt8)
      = List.replicate (long.length - short.length) 0
        ++ List.replicate (size - long.length) 0 := by
    rw [List.replicate_append_replicate]
    congr 1
    omega
  rw [hzeros, ← List.append_assoc, List.append_cancel_right_eq]

/-- Two keys fill a block alike exactly if, once they fit, they differ in zeros at the end only. -/
theorem blockKey_eq_iff {a b : Bytes} : blockKey a = blockKey b ↔
    ∃ key m n, shortKey a = key ++ List.replicate m 0 ∧ shortKey b = key ++ List.replicate n 0 := by
  have ha := length_shortKey_le a
  have hb := length_shortKey_le b
  constructor
  · intro h
    rcases Nat.le_total (shortKey a).length (shortKey b).length with hle | hle
    · exact ⟨shortKey a, 0, _, by simp, (append_zeros_eq_iff hle hb).mp h.symm⟩
    · exact ⟨shortKey b, _, 0, (append_zeros_eq_iff hle ha).mp h, by simp⟩
  · rintro ⟨key, m, n, hm, hn⟩
    rw [hm, List.length_append, List.length_replicate] at ha
    rw [hn, List.length_append, List.length_replicate] at hb
    rw [blockKey, blockKey, hm, hn]
    simp only [List.length_append, List.length_replicate, List.append_assoc,
      List.replicate_append_replicate]
    congr 2
    omega

theorem hmacSha256_of_blockKey_eq {a b : Bytes} (h : blockKey a = blockKey b) (message : Bytes) :
    hmacSha256 a message = hmacSha256 b message := by
  rw [hmacSha256, hmacSha256, h]

end Crypto

/-- What is signed for a record at an instant, whoever signs it. -/
def Issuer.signingInput (r : Identity) (at_ : Instant) : String :=
  join '.' [(Header.signed Header.hs256).encode,
    Base64Url.encode (ClaimSet.forIdentity r name at_).payload]

/-- Two secrets give one code for a message. -/
def Secret.SameCode (own other : Secret) (message : String) : Prop :=
  Crypto.hmacSha256 other.bytes (utf8 message) = Crypto.hmacSha256 own.bytes (utf8 message)

instance (own other : Secret) (message : String) : Decidable (own.SameCode other message) :=
  inferInstanceAs (Decidable (_ = _))

variable {own other : Secret}

theorem Secret.sameCode_of_blockKey_eq
    (h : Crypto.blockKey own.bytes = Crypto.blockKey other.bytes) (message : String) :
    own.SameCode other message := Crypto.hmacSha256_of_blockKey_eq h.symm _

/-- As long as a block is not full, characters NUL at the end of a secret do not matter. -/
theorem Secret.blockKey_eq_of_nuls {s : String} {m n : Nat}
    (hown : own.text = s ++ String.ofList (List.replicate m '\x00'))
    (hother : other.text = s ++ String.ofList (List.replicate n '\x00'))
    (hownLength : own.bytes.length ≤ Crypto.hashBlock)
    (hotherLength : other.bytes.length ≤ Crypto.hashBlock) :
    Crypto.blockKey own.bytes = Crypto.blockKey other.bytes := by
  have hbytes (n : Nat) : utf8 (s ++ String.ofList (List.replicate n '\x00'))
      = utf8 s ++ List.replicate n 0 := by
    rw [utf8_eq_utf8List, utf8_eq_utf8List s, String.toList_append, String.toList_ofList,
      utf8List_append, utf8List_nuls]
  refine Crypto.blockKey_eq_iff.mpr ⟨utf8 s, m, n, ?_, ?_⟩
  · rw [Crypto.shortKey, if_pos hownLength, bytes, hown, hbytes]
  · rw [Crypto.shortKey, if_pos hotherLength, bytes, hother, hbytes]

/-! ## Codes -/

theorem SignedToken.verify_of_sameCode {t : SignedToken}
    (h : own.SameCode other t.signingInput) {key key' : SigningKey}
    (hkey : SigningKey.ofBytes own.bytes = .ok key)
    (hkey' : SigningKey.ofBytes other.bytes = .ok key') :
    t.verify key'.verifier = t.verify key.verifier := by
  have hsign : key'.sign (utf8 t.signingInput) = key.sign (utf8 t.signingInput) := by
    rw [SigningKey.sign, SigningKey.sign, SigningKey.ofBytes_eq_ok_iff.mp hkey,
      SigningKey.ofBytes_eq_ok_iff.mp hkey', h]
  simp only [verify, SigningKey.verifier, SigningKey.verify, hsign]
  rfl

/-- A token that is issued without encryption has the code of its secret, under which it is
verified. -/
theorem Issuer.exists_issue_signed (hown : own.isBlank = false)
    (hownLength : 32 ≤ own.bytes.length) (r : Identity) (at_ : Instant) (iv : Crypto.Gcm.Iv) :
    ∃ text t, (ofSecret own false).issue r at_ iv = .ok text ∧
      Token.parse text = .ok (.signed t) ∧ t.signingInput = signingInput r at_ ∧
      Base64Url.decode? t.signatureSegment
        = some (Crypto.hmacSha256 own.bytes (utf8 t.signingInput)) ∧
      ∀ e, (Validator.ofSigning own).claims text = .error e → e.kind = .format := by
  obtain ⟨key, hkey⟩ := SigningKey.exists_ofBytes hownLength
  let c := ClaimSet.forIdentity r name at_
  have hparse := SignedToken.parse_sign c key
  have hread : (Validator.ofSigning own).claims (SignedToken.sign c key)
      = (ClaimSet.ofPayload c.payload).mapError .format := by
    rw [Validator.claims_eq, Validator.find_of_signed _ hparse]
    exact Validator.conclude_ofClaims rfl hown hkey c
  refine ⟨_, _, issue_eq_ok_iff.mpr
      ⟨own, rfl, hown, key, hkey, wrap_of_unusable (unusable_ofSecret own)⟩,
    hparse, rfl, ?_, fun e he => ?_⟩
  · rw [← SigningKey.ofBytes_eq_ok_iff.mp hkey]
    exact Base64Url.decode?_encode _
  · obtain ⟨cause, -, rfl⟩ := mapError_eq_error_iff.mp (hread.symm.trans he)
    rfl

namespace Validator

section

variable (hown : own.isBlank = false) (hownLength : 32 ≤ own.bytes.length)
  (hother : other.isBlank = false) (hotherLength : 32 ≤ other.bytes.length)

include hown hownLength hother hotherLength

/-- Where two secrets give one code, it does not matter which of them verifies. -/
theorem validate_of_sameCode (text : String)
    (h : ∀ t, Token.parse text = .ok (.signed t) → own.SameCode other t.signingInput) :
    (ofSigning other).claims text = (ofSigning own).claims text ∧
      (ofSigning other).validate text = (ofSigning own).validate text := by
  have hclaims : (ofSigning other).claims text = (ofSigning own).claims text := by
    rw [claims_eq, claims_eq]
    show conclude (some other) ((ofSigning own).find text) = conclude (some own) _
    rw [conclude_of_usable rfl hother, conclude_of_usable rfl hown]
    cases hfind : (ofSigning own).find text with
    | error e => rfl
    | ok t =>
      have hparse : Token.parse text = .ok (.signed t) := by
        obtain ⟨signed, hsigned, rfl | ⟨_, hnone, -⟩⟩ := find_eq_ok_iff_encrypts.mp hfind
        · exact hsigned
        · cases hnone
      obtain ⟨key, hkey⟩ := SigningKey.exists_ofBytes hownLength
      obtain ⟨key', hkey'⟩ := SigningKey.exists_ofBytes hotherLength
      rw [bind_ok rfl, bind_ok rfl, authenticate, authenticate, bind_ok (mapError_ok hkey _),
        bind_ok (mapError_ok hkey' _), SignedToken.verify_of_sameCode (h t hparse) hkey hkey']
  refine ⟨hclaims, ?_⟩
  rw [validate, validate, hclaims]
  rfl

/-- Secrets that fill a block alike are the same to a validator, whatever the text. -/
theorem validate_of_blockKey_eq (h : Crypto.blockKey own.bytes = Crypto.blockKey other.bytes)
    (text : String) : (ofSigning other).claims text = (ofSigning own).claims text ∧
      (ofSigning other).validate text = (ofSigning own).validate text :=
  validate_of_sameCode hown hownLength hother hotherLength text
    fun _ _ => Secret.sameCode_of_blockKey_eq h _

end

/-- What is issued under one secret is refused as not verified under another exactly if the other
gives another code for it. Otherwise it is read as under its own secret. Secrets that fill a block
alike give one code for everything and are one secret to every token. These are the secrets which,
once they fit into the block, differ in zeros at the end only, as with characters NUL at the end of
one or both while the block is not full. -/
theorem refused_iff_not_sameCode (own other : Secret)
    (hown : own.isBlank = false) (hownLength : 32 ≤ own.bytes.length)
    (hother : other.isBlank = false) (hotherLength : 32 ≤ other.bytes.length)
    (r : Identity) (at_ : Instant) (iv : Crypto.Gcm.Iv) :
    (∃ text t, (Issuer.ofSecret own false).issue r at_ iv = .ok text ∧
      Token.parse text = .ok (.signed t) ∧ t.signingInput = Issuer.signingInput r at_ ∧
      ((∃ e, e.kind = .verification ∧ (ofSigning other).claims text = .error e ∧
          (ofSigning other).validate text = .error e) ↔
        ¬own.SameCode other (Issuer.signingInput r at_)) ∧
      (own.SameCode other (Issuer.signingInput r at_) →
        (ofSigning other).validate text = (ofSigning own).validate text)) ∧
    (Crypto.blockKey own.bytes = Crypto.blockKey other.bytes →
      (∀ message, own.SameCode other message) ∧
      ∀ text, (ofSigning other).claims text = (ofSigning own).claims text ∧
        (ofSigning other).validate text = (ofSigning own).validate text) ∧
    (Crypto.blockKey own.bytes = Crypto.blockKey other.bytes ↔
      ∃ key m n, Crypto.shortKey own.bytes = key ++ List.replicate m 0 ∧
        Crypto.shortKey other.bytes = key ++ List.replicate n 0) ∧
    ∀ s m n, own.text = s ++ String.ofList (List.replicate m '\x00') →
      other.text = s ++ String.ofList (List.replicate n '\x00') →
      own.bytes.length ≤ 64 → other.bytes.length ≤ 64 →
      Crypto.blockKey own.bytes = Crypto.blockKey other.bytes := by
  obtain ⟨text, t, hissue, hparse, hinput, hcode, hformat⟩ :=
    Issuer.exists_issue_signed hown hownLength r at_ iv
  have hsame (h : own.SameCode other (Issuer.signingInput r at_)) :=
    validate_of_sameCode hown hownLength hother hotherLength text fun t' ht' => by
      obtain rfl : t' = t := Token.signed.inj (Except.ok.inj (ht'.symm.trans hparse))
      rwa [hinput]
  refine ⟨⟨text, t, hissue, hparse, hinput, ⟨?_, fun hne => ?_⟩, fun h => (hsame h).2⟩, fun h => ?_,
    Crypto.blockKey_eq_iff, fun s m n => Secret.blockKey_eq_of_nuls⟩
  · -- Under its own secret the token is verified, so whatever fails later has another kind.
    rintro ⟨e, hkind, he, -⟩ h
    rw [(hsame h).1] at he
    simp [hformat e he] at hkind
  · rw [← hinput] at hne
    have hforged : t.Forged other := .inr ⟨_, hcode, fun h => hne h.symm⟩
    have he : (ofSigning other).claims text = _ :=
      claims_of_forged rfl hother hotherLength ⟨text, hparse, .inl rfl⟩ hforged
    exact ⟨_, rfl, he, bind_error he _⟩
  · exact ⟨Secret.sameCode_of_blockKey_eq h,
      validate_of_blockKey_eq hown hownLength hother hotherLength h⟩

/-- A subject without attributes. -/
def alice : Identity where
  typedId := "User#alice"
  attributes := ∅
  typedId_not_blank := by decide
  allowed := by simp

/-- A secret with another letter at the end refuses the token. One that has a character NUL there is
the same secret to every token. -/
theorem refused_of_accented : ∃ text e,
    (Issuer.ofSecret ⟨"0123456789abcdef0123456789abcdef"⟩ false).issue alice
      ⟨0, 0, by decide, by decide⟩ (Vector.replicate 12 0) = .ok text ∧
    (ofSigning ⟨"0123456789abcdef0123456789abcdeü"⟩).validate text = .error e ∧
    e.kind = .verification ∧
    ∀ text, (ofSigning ⟨"0123456789abcdef0123456789abcdef\x00"⟩).validate text
      = (ofSigning ⟨"0123456789abcdef0123456789abcdef"⟩).validate text := by
  obtain ⟨⟨text, -, hissue, -, -, hrefused, -⟩, -⟩ := refused_iff_not_sameCode
    ⟨"0123456789abcdef0123456789abcdef"⟩ ⟨"0123456789abcdef0123456789abcdeü"⟩ (by decide)
    (by decide) (by decide) (by decide) alice ⟨0, 0, by decide, by decide⟩ (Vector.replicate 12 0)
  obtain ⟨e, hkind, -, he⟩ := hrefused.mpr (by decide +kernel)
  obtain ⟨-, hsame, -, hnuls⟩ := refused_iff_not_sameCode
    ⟨"0123456789abcdef0123456789abcdef"⟩ ⟨"0123456789abcdef0123456789abcdef\x00"⟩ (by decide)
    (by decide) (by decide) (by decide) alice ⟨0, 0, by decide, by decide⟩ (Vector.replicate 12 0)
  have hblock := hnuls "0123456789abcdef0123456789abcdef" 0 1 (by decide) (by decide) (by decide)
    (by decide)
  exact ⟨text, e, hissue, he, hkind, fun text => ((hsame hblock).2 text).2⟩

/-- A token that is issued under a secret of 32 letters is accepted under that secret with a
character NUL behind it. -/
theorem accepted_with_nul : ∃ (own other : Secret) (text : String),
    own = ⟨"0123456789abcdef0123456789abcdef"⟩ ∧
    other = ⟨"0123456789abcdef0123456789abcdef\x00"⟩ ∧ own ≠ other ∧
    (own.isBlank = false ∧ 32 ≤ own.bytes.length) ∧
    (other.isBlank = false ∧ 32 ≤ other.bytes.length) ∧
    (Issuer.ofSecret own false).issue alice ⟨0, 0, by decide, by decide⟩ (Vector.replicate 12 0)
      = .ok text ∧
    (ofSigning other).validate text = .ok alice := by
  let s := "0123456789abcdef0123456789abcdef"
  obtain ⟨text, hissue, hvalidate⟩ := Issuer.exists_issue_withKind
    (i := Issuer.ofSecret ⟨s⟩ false) (r := alice) rfl (by decide) (by decide)
    (by simp [Issuer.ofSecret])
    (by simp [alice]) (by simp [alice]) ⟨0, 0, by decide, by decide⟩ (Vector.replicate 12 0)
    "JwtProfile"
  rw [Identity.withKind_of_separator_mem (by decide)] at hvalidate
  have hblock : Crypto.blockKey (Secret.mk s).bytes
      = Crypto.blockKey (Secret.mk (s ++ "\x00")).bytes :=
    Secret.blockKey_eq_of_nuls (s := s) (m := 0) (n := 1) (by decide) (by decide) (by decide)
      (by decide)
  refine ⟨⟨s⟩, ⟨s ++ "\x00"⟩, text, rfl, rfl, by decide, by decide, by decide, hissue, ?_⟩
  exact (validate_of_blockKey_eq (by decide) (by decide) (by decide) (by decide) hblock
    text).2.trans hvalidate

end Validator

/-! ## New secrets -/

namespace Secret

/-- There are more new secrets than codes, so some two give one code. -/
theorem exists_sameCode (message : String) :
    ∃ d d' : List (Fin 62), d.length = signingLength ∧ d'.length = signingLength ∧ d ≠ d' ∧
      (ofDraws d).SameCode (ofDraws d') message := by
  let code (d : Fin signingLength → Fin 62) : Bytes :=
    Crypto.hmacSha256 (ofDraws (List.ofFn d)).bytes (utf8 message)
  have hlength (d : Fin signingLength → Fin 62) : (code d).length = 32 :=
    Crypto.length_hmacSha256 _ _
  have hcard : Fintype.card (Fin 32 → Fin 256) < Fintype.card (Fin signingLength → Fin 62) := by
    simp only [Fintype.card_fun, Fintype.card_fin]
    decide +kernel
  obtain ⟨d, d', hne, hcode⟩ := Fintype.exists_ne_map_eq_of_card_lt
    (fun d (i : Fin 32) => ((code d).get (i.cast (hlength d).symm)).toFin) hcard
  refine ⟨List.ofFn d', List.ofFn d, List.length_ofFn, List.length_ofFn, ?_, ?_⟩
  · exact fun h => hne (List.ofFn_injective h).symm
  · refine List.ext_getElem ((hlength d).trans (hlength d').symm) fun i hi hi' => ?_
    exact UInt8.toFin_inj.mp (congrFun hcode ⟨i, hlength d ▸ hi⟩)

end Secret

/-- Whatever the record and the instant, some two new secrets differ, and what is issued under one
of them is read under the other as under itself. -/
theorem Validator.exists_not_told_apart (r : Identity) (at_ : Instant) (iv : Crypto.Gcm.Iv) :
    ∃ (d d' : List (Fin 62)) (text : String), d.length = Secret.signingLength ∧
      d'.length = Secret.signingLength ∧ Secret.ofDraws d ≠ Secret.ofDraws d' ∧
      (Issuer.ofSecret (.ofDraws d) false).issue r at_ iv = .ok text ∧
      (ofSigning (.ofDraws d')).validate text = (ofSigning (.ofDraws d)).validate text := by
  obtain ⟨d, d', hd, hd', hne, hcode⟩ := Secret.exists_sameCode (Issuer.signingInput r at_)
  have husable {d : List (Fin 62)} (hd : d.length = Secret.signingLength) :
      (Secret.ofDraws d).isBlank = false ∧ 32 ≤ (Secret.ofDraws d).bytes.length := by
    rw [Secret.length_bytes_ofDraws, hd]
    exact ⟨Secret.isBlank_ofDraws (List.ne_nil_of_length_pos (by rw [hd]; decide)), by decide⟩
  obtain ⟨hblank, hlength⟩ := husable hd
  obtain ⟨hblank', hlength'⟩ := husable hd'
  obtain ⟨text, t, hissue, hparse, hinput, -⟩ := Issuer.exists_issue_signed hblank hlength r at_ iv
  refine ⟨d, d', text, hd, hd', fun h => hne (Secret.ofDraws_injective h), hissue, ?_⟩
  refine (validate_of_sameCode hblank hlength hblank' hlength' text fun t' ht' => ?_).2
  obtain rfl : t' = t := Token.signed.inj (Except.ok.inj (ht'.symm.trans hparse))
  rwa [hinput]

end IdentityToken
