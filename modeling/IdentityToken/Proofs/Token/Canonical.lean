import IdentityToken.Proofs.Edits
import IdentityToken.Proofs.Issuance
import IdentityToken.Proofs.Token.Issued
/-!
# Signed tokens are canonical

A signed token is written from the claims alone, in one way, and its second segment is read back as
these claims at any depth. So two records give one token exactly if they are one record and the
instants lie in one second, and the order in which the attributes came about leaves no trace.
-/

namespace IdentityToken

theorem Instant.whole_eq_whole_iff {t u : Instant} : t.whole = u.whole ↔ t.seconds = u.seconds := by
  constructor
  · intro h
    have hseconds : t.whole.seconds = u.whole.seconds := congrArg Instant.seconds h
    exact hseconds
  · intro h
    simp only [whole, h]

theorem ClaimSet.readBack_forIdentity_eq_iff {r s : Identity} {issuer : String} {t u : Instant} :
    (forIdentity r issuer t).readBack = (forIdentity s issuer u).readBack ↔
      r = s ∧ t.seconds = u.seconds := by
  constructor
  · intro h
    have hissuedAt : some t.whole = some u.whole := congrArg ClaimSet.issuedAt h
    have htypedId : r.typedId = s.typedId := congrArg ClaimSet.subject h
    have hattributes : r.attributes = s.attributes := congrArg ClaimSet.extra h
    exact ⟨Identity.ext htypedId hattributes,
      Instant.whole_eq_whole_iff.mp (Option.some.inj hissuedAt)⟩
  · rintro ⟨rfl, hseconds⟩
    simp only [readBack, forIdentity, Option.map_some, Instant.whole_eq_whole_iff.mpr hseconds]

/-- Under one key the signed tokens of two claim sets differ exactly if their octets do. -/
theorem SignedToken.sign_eq_sign_iff {c c' : ClaimSet} {key : SigningKey} :
    sign c key = sign c' key ↔ c.payload = c'.payload := by
  constructor
  · intro h
    have hparse := parse_sign c key
    rw [h, parse_sign] at hparse
    have hsegment : Base64Url.encode c'.payload = Base64Url.encode c.payload :=
      congrArg SignedToken.payloadSegment (Token.signed.inj (Except.ok.inj hparse))
    exact (Base64Url.encode_injective hsegment).symm
  · intro h
    simp only [sign, h]

namespace Issuer

open Identity

variable {i : Issuer} {r s : Identity} {at_ at_' : Instant} {iv iv' : Crypto.Gcm.Iv}

theorem issue_of_not_isEncrypting (hsigning : i.isEncrypting = false)
    {secret : Secret} (hsecret : i.signing = some secret) (hblank : secret.isBlank = false)
    {key : SigningKey} (hkey : SigningKey.ofBytes secret.bytes = .ok key) (r : Identity)
    (at_ : Instant) (iv : Crypto.Gcm.Iv) :
    i.issue r at_ iv = .ok (SignedToken.sign (ClaimSet.forIdentity r name at_) key) := by
  let signed := SignedToken.sign (ClaimSet.forIdentity r name at_) key
  have hwrap : i.wrap iv signed = .ok signed :=
    wrap_of_unusable (isEncrypting_eq_false_iff.mp hsigning)
  exact issue_eq_ok_iff.mpr ⟨secret, hsecret, hblank, key, hkey, hwrap⟩

theorem sign_forIdentity_eq_iff (hr : ∀ m ∈ r.attributes.toList, m.2.Integral)
    (hs : ∀ m ∈ s.attributes.toList, m.2.Integral) {key : SigningKey} :
    SignedToken.sign (ClaimSet.forIdentity r name at_) key
        = SignedToken.sign (ClaimSet.forIdentity s name at_') key ↔
      r = s ∧ at_.seconds = at_'.seconds := by
  rw [SignedToken.sign_eq_sign_iff, ClaimSet.payload_eq_payload_iff hr hs,
    ClaimSet.readBack_forIdentity_eq_iff]

/-- What is issued depends on no part of a second. -/
theorem issue_eq_of_seconds_eq (h : at_.seconds = at_'.seconds)
    (hsigning : i.isEncrypting = false) : i.issue r at_ iv = i.issue r at_' iv' := by
  have hpayload : (ClaimSet.forIdentity r name at_).payload
      = (ClaimSet.forIdentity r name at_').payload := by
    rw [← ClaimSet.payload_readBack, ClaimSet.readBack_forIdentity_eq_iff.mpr ⟨rfl, h⟩,
      ClaimSet.payload_readBack]
  have hwrap (iv : Crypto.Gcm.Iv) (signed : String) : i.wrap iv signed = .ok signed :=
    wrap_of_unusable (isEncrypting_eq_false_iff.mp hsigning)
  simp only [issue, hwrap, SignedToken.sign_eq_sign_iff.mpr hpayload]

/-- An issuer that only signs gives two records one token exactly if they are the same record at
the same second. Edits that lead to the same attributes, in whatever order, lead to the same tokens,
and records that differ never share one. -/
theorem issue_eq_issue_iff (i : Issuer) (hsigning : i.isEncrypting = false)
    {secret : Secret} (hsecret : i.signing = some secret) (hblank : secret.isBlank = false)
    (hlength : 32 ≤ secret.bytes.length) :
    (∀ r s : Identity, (∀ m ∈ r.attributes.toList, m.2.Integral) →
      (∀ m ∈ s.attributes.toList, m.2.Integral) → ∀ at_ at_' iv iv',
        ∃ text text', i.issue r at_ iv = .ok text ∧ i.issue s at_' iv' = .ok text' ∧
          (text = text' ↔ r.typedId = s.typedId ∧ (∀ k, r.get? k = s.get? k) ∧
            at_.seconds = at_'.seconds)) ∧
    (∀ (r s : Identity) (ops ops' : List Operation), r.typedId = s.typedId →
      (∀ op ∈ ops, op.Edits) → (∀ op ∈ ops', op.Edits) →
      ∃ r' s', ops.foldl step (some r) = some r' ∧ ops'.foldl step (some s) = some s' ∧
        (∀ k, r'.get? k = (lastWrite? ops k).getD (r.get? k)) ∧
        (∀ k, s'.get? k = (lastWrite? ops' k).getD (s.get? k)) ∧
        ((∀ k, r'.get? k = s'.get? k) → ∀ at_ at_' iv iv', at_.seconds = at_'.seconds →
          ∃ text, i.issue r' at_ iv = .ok text ∧ i.issue s' at_' iv' = .ok text)) ∧
    ∀ r s : Identity, (∀ m ∈ r.attributes.toList, m.2.Integral) →
      (∀ m ∈ s.attributes.toList, m.2.Integral) → r ≠ s → ∀ at_ at_' iv iv' text,
        i.issue r at_ iv = .ok text → i.issue s at_' iv' ≠ .ok text := by
  obtain ⟨key, hkey⟩ := SigningKey.exists_ofBytes hlength
  have hissue := issue_of_not_isEncrypting hsigning hsecret hblank hkey
  refine ⟨?_, ?_, ?_⟩
  · intro r s hr hs at_ at_' iv iv'
    refine ⟨_, _, hissue r at_ iv, hissue s at_' iv', ?_⟩
    rw [sign_forIdentity_eq_iff hr hs]
    constructor
    · rintro ⟨rfl, hseconds⟩
      exact ⟨rfl, fun _ => rfl, hseconds⟩
    · rintro ⟨htypedId, hget, hseconds⟩
      exact ⟨Identity.ext_get? htypedId hget, hseconds⟩
  · intro r s ops ops' htypedId hops hops'
    obtain ⟨r', hrun, hr', hget⟩ := exists_foldl_step_edits hops r
    obtain ⟨s', hrun', hs', hget'⟩ := exists_foldl_step_edits hops' s
    refine ⟨r', s', hrun, hrun', hget, hget', ?_⟩
    intro hcontents at_ at_' iv iv' hseconds
    obtain rfl : r' = s' := Identity.ext_get? (hr'.trans (htypedId.trans hs'.symm)) hcontents
    refine ⟨_, hissue r' at_ iv, ?_⟩
    rw [← hissue r' at_ iv]
    exact issue_eq_of_seconds_eq hseconds.symm hsigning
  · intro r s hr hs hne at_ at_' iv iv' text htext htext'
    rw [hissue] at htext htext'
    have hsame := (Except.ok.inj htext).trans (Except.ok.inj htext').symm
    exact hne ((sign_forIdentity_eq_iff hr hs).mp hsame).1

/-- An issuer that only signs. -/
def signer : Issuer := ofSecret ⟨"0123456789abcdef0123456789abcdef"⟩ false

/-- Arrays that are too deep to be read back tell records apart, and nanoseconds do not. Two ways to
the same two attributes, one with a name that is refused and one with a value that is replaced, give
one token. -/
theorem issue_eq_issue_nestedRecord :
    (∃ text, signer.issue (nestedRecord 300) ⟨-1, 0, by decide, by decide⟩
          (Vector.replicate 12 0) = .ok text ∧
      signer.issue (nestedRecord 300) ⟨-1, 5, by decide, by decide⟩ (Vector.replicate 12 1)
        = .ok text ∧
      signer.issue (nestedRecord 301) ⟨-1, 0, by decide, by decide⟩ (Vector.replicate 12 0)
        ≠ .ok text) ∧
    ∃ r s text,
      [.set "a" .null, .set "sub" .null, .set "b" .null].foldl step (some (nestedRecord 0))
        = some r ∧
      [.erase "b", .set "a" (.bool true), .set "b" .null, .set "a" .null].foldl step
        (some (nestedRecord 0)) = some s ∧
      signer.issue r ⟨0, 0, by decide, by decide⟩ (Vector.replicate 12 0) = .ok text ∧
      signer.issue s ⟨0, 5, by decide, by decide⟩ (Vector.replicate 12 1) = .ok text := by
  obtain ⟨hsame, hedits, hdiffer⟩ := issue_eq_issue_iff signer rfl rfl (by decide) (by decide)
  refine ⟨?_, ?_⟩
  · obtain ⟨text, text', htext, htext', hiff⟩ := hsame (nestedRecord 300) (nestedRecord 300)
      (integral_nestedRecord 300) (integral_nestedRecord 300) ⟨-1, 0, by decide, by decide⟩
      ⟨-1, 5, by decide, by decide⟩ (Vector.replicate 12 0) (Vector.replicate 12 1)
    have hequal : text = text' := hiff.mpr ⟨rfl, fun _ => rfl, rfl⟩
    have hne : nestedRecord 300 ≠ nestedRecord 301 := by
      intro h
      have hvalue : (nestedRecord 300).get? "rôle\n" = (nestedRecord 301).get? "rôle\n" := by rw [h]
      have hdepth : (nestedArray 300).depth = (nestedArray 301).depth :=
        congrArg Json.depth (Option.some.inj hvalue)
      rw [depth_nestedArray, depth_nestedArray] at hdepth
      omega
    exact ⟨text, htext, hequal ▸ htext',
      hdiffer _ _ (integral_nestedRecord 300) (integral_nestedRecord 301) hne _ _ _ _ text htext⟩
  · obtain ⟨r, s, hr, hs, hgetr, hgets, hequal⟩ := hedits (nestedRecord 0) (nestedRecord 0)
      [.set "a" .null, .set "sub" .null, .set "b" .null]
      [.erase "b", .set "a" (.bool true), .set "b" .null, .set "a" .null] rfl
      (by simp [Operation.Edits]) (by simp [Operation.Edits])
    have hreserved : ¬AllowedKey "sub" := by decide
    have hallowed : AllowedKey "a" ∧ AllowedKey "b" := by decide
    have hcontents : ∀ k, r.get? k = s.get? k := by
      intro k
      rw [hgetr, hgets]
      by_cases ha : k = "a"
      · simp [lastWrite?, Operation.write?, hallowed, ha]
      · by_cases hb : k = "b"
        · simp [lastWrite?, Operation.write?, hallowed, hb]
        · simp [lastWrite?, Operation.write?, hreserved, ha, hb]
    obtain ⟨text, hr', hs'⟩ := hequal hcontents ⟨0, 0, by decide, by decide⟩
      ⟨0, 5, by decide, by decide⟩ (Vector.replicate 12 0) (Vector.replicate 12 1) rfl
    exact ⟨r, s, text, hr, hs, hr', hs'⟩

end Issuer

end IdentityToken
