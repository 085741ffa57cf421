import IdentityToken.Proofs.Issuance
import IdentityToken.Proofs.Token.Forms
import IdentityToken.Proofs.Token.Issued
import IdentityToken.Proofs.Validation.Causes
/-!
# When a token is issued and what it looks like

An issuer fails for one of three causes, and all of them lie in its secrets: the signing secret is
missing, blank or too short, or the encryption secret is of the wrong size. If there is no such
cause, then there is a token for every record and every instant, and it is read back as a token of
the form and with the header that the issuer gave it.
-/

namespace IdentityToken

open Text

theorem SigningKey.ofBytes_of_short {b : Bytes} (h : b.length < 32) :
    ofBytes b = .error (.shortSigningKey (8 * b.length)) :=
  dif_neg (Nat.not_le.mpr h)

theorem ContentKey.ofBytes_of_size_ne {b : Bytes} (h : b.length ≠ 32) :
    ofBytes b = .error (.contentKeySize (8 * b.length)) :=
  dif_neg h

theorem Secret.isBlank_eq_true_iff {s : Secret} : s.isBlank = true ↔ trim s.text = "" := by
  rw [isBlank, decide_eq_true_iff, trim_eq_empty_iff]

theorem Secret.isBlank_eq_false_iff {s : Secret} : s.isBlank = false ↔ trim s.text ≠ "" := by
  rw [← Bool.not_eq_true, isBlank_eq_true_iff]

namespace Issuer

variable {i : Issuer} {r : Identity} {at_ : Instant} {iv : Crypto.Gcm.Iv} {e : TokenError}
  {text : String} {secret : Secret}

/-! ## Causes of failures -/

/-- Why an issuer issues nothing. The secrets are looked at in this order. -/
inductive Fault (i : Issuer) : TokenError → Prop where
  | unusable (h : Secret.Unusable i.signing) : i.Fault (.setup (.blankSecret .signing))
  | short {secret : Secret} (hsecret : i.signing = some secret) (hblank : secret.isBlank = false)
      (h : secret.bytes.length < 32) :
      i.Fault (.crypto (.shortSigningKey (8 * secret.bytes.length)))
  | size {secret : Secret} (hsecret : i.signing = some secret) (hblank : secret.isBlank = false)
      (hlength : 32 ≤ secret.bytes.length) {encryption : Secret}
      (hencryption : i.encryption = some encryption)
      (husable : encryption.isBlank = false) (h : encryption.bytes.length ≠ 32) :
      i.Fault (.crypto (.contentKeySize (8 * encryption.bytes.length)))

theorem Fault.issue_eq_error (h : i.Fault e) (r : Identity) (at_ : Instant)
    (iv : Crypto.Gcm.Iv) : i.issue r at_ iv = .error e := by
  cases h with
  | unusable h => exact issue_of_unusable h
  | short hsecret hblank h =>
    rw [issue_of_usable hsecret hblank]
    exact bind_error (mapError_error (SigningKey.ofBytes_of_short h) _) _
  | size hsecret hblank hlength hencryption husable h =>
    obtain ⟨key, hkey⟩ := SigningKey.exists_ofBytes hlength
    rw [issue_of_usable hsecret hblank, bind_ok (mapError_ok hkey _), wrap]
    simp only [Secret.usable?_eq_some_iff.mpr ⟨hencryption, husable⟩]
    exact bind_error (mapError_error (ContentKey.ofBytes_of_size_ne h) _) _

theorem exists_fault (h : ∀ text, i.issue r at_ iv ≠ .ok text) : ∃ e, i.Fault e := by
  by_cases hunusable : Secret.Unusable i.signing
  · exact ⟨_, .unusable hunusable⟩
  · obtain ⟨secret, hsecret, hblank⟩ := Secret.not_unusable_iff.mp hunusable
    by_cases hlength : 32 ≤ secret.bytes.length
    · -- With a good secret to sign only the other one is left.
      have hsize : ¬∀ e, i.encryption = some e → e.isBlank = true ∨ e.bytes.length = 32 := by
        intro hencryption
        obtain ⟨text, htext⟩ :=
          exists_issue_iff.mpr ⟨⟨secret, hsecret, hblank, hlength⟩, hencryption⟩
        exact h text htext
      simp only [Classical.not_forall, not_or, Bool.not_eq_true] at hsize
      obtain ⟨encryption, hencryption, husable, hne⟩ := hsize
      exact ⟨_, .size hsecret hblank hlength hencryption husable hne⟩
    · exact ⟨_, .short hsecret hblank (Nat.not_le.mp hlength)⟩

/-- The causes are all of them, and none depends on the record, the instant or the vector. -/
theorem issue_eq_error_iff : i.issue r at_ iv = .error e ↔ i.Fault e := by
  constructor
  · intro h
    obtain ⟨e', hfault⟩ := exists_fault (exists_error_iff_forall_ne.mp ⟨e, h⟩)
    obtain rfl : e = e' := Except.error.inj (h.symm.trans (hfault.issue_eq_error r at_ iv))
    exact hfault
  · intro h
    exact h.issue_eq_error r at_ iv

theorem issue_configuration_iff :
    FailsWith (i.issue r at_ iv) (fun e => e.kind = .configuration) ↔
      ∀ secret, i.signing = some secret → trim secret.text = "" := by
  simp only [← Secret.isBlank_eq_true_iff]
  constructor
  · rintro ⟨e, herror, hkind⟩
    cases issue_eq_error_iff.mp herror with
    | unusable h => exact h
    | short hsecret hblank h => cases hkind
    | size hsecret hblank hlength hencryption husable h => cases hkind
  · intro h
    exact ⟨_, issue_eq_error_iff.mpr (.unusable h), rfl⟩

theorem issue_crypto_iff :
    FailsWith (i.issue r at_ iv) (fun e => e.kind = .crypto) ↔
      ∃ secret, i.signing = some secret ∧ trim secret.text ≠ "" ∧
        ((utf8 secret.text).length < 32 ∨ ∃ encryption, i.encryption = some encryption ∧
          trim encryption.text ≠ "" ∧ (utf8 encryption.text).length ≠ 32) := by
  simp only [← Secret.isBlank_eq_false_iff]
  constructor
  · rintro ⟨e, herror, hkind⟩
    cases issue_eq_error_iff.mp herror with
    | unusable h => cases hkind
    | short hsecret hblank h => exact ⟨_, hsecret, hblank, .inl h⟩
    | size hsecret hblank hlength hencryption husable h =>
      exact ⟨_, hsecret, hblank, .inr ⟨_, hencryption, husable, h⟩⟩
  · rintro ⟨secret, hsecret, hblank, h⟩
    by_cases hlength : 32 ≤ secret.bytes.length
    · obtain ⟨encryption, hencryption, husable, hne⟩ := h.resolve_left (Nat.not_lt.mpr hlength)
      exact ⟨_, issue_eq_error_iff.mpr (.size hsecret hblank hlength hencryption husable hne), rfl⟩
    · exact ⟨_, issue_eq_error_iff.mpr (.short hsecret hblank (Nat.not_le.mp hlength)), rfl⟩

/-! ## The form of what is issued -/

theorem isEncrypting_iff :
    i.isEncrypting = true ↔
      ∃ encryption, i.encryption = some encryption ∧ trim encryption.text ≠ "" := by
  simp only [← Secret.isBlank_eq_false_iff]
  rw [← Secret.not_unusable_iff, ← isEncrypting_eq_false_iff, Bool.not_eq_false]

theorem parse_issue_of_isEncrypting (hencrypting : i.isEncrypting = true)
    (h : i.issue r at_ iv = .ok text) :
    ∃ t, Token.parse text = .ok (.encrypted t) ∧
      t.header = Header.encrypted Header.direct Header.a256gcm := by
  obtain ⟨-, -, -, key, -, hwrap⟩ := issue_eq_ok_iff.mp h
  obtain ⟨encryption, hencryption, husable⟩ := isEncrypting_iff.mp hencrypting
  obtain ⟨contentKey, -, rfl⟩ :=
    (wrap_eq_ok_iff hencryption (Secret.isBlank_eq_false_iff.mpr husable)).mp hwrap
  exact ⟨_, EncryptedToken.parse_encrypt _ contentKey iv, rfl⟩

theorem parse_issue_of_not_isEncrypting (hsigning : i.isEncrypting = false)
    (h : i.issue r at_ iv = .ok text) :
    ∃ t, Token.parse text = .ok (.signed t) ∧ t.header = Header.signed Header.hs256 := by
  obtain ⟨-, -, -, key, -, hwrap⟩ := issue_eq_ok_iff.mp h
  rw [wrap_of_unusable (isEncrypting_eq_false_iff.mp hsigning)] at hwrap
  obtain rfl := Except.ok.inj hwrap
  exact ⟨_, SignedToken.parse_sign _ key, rfl⟩

/-- The secrets alone decide whether a token is issued and what it looks like. -/
theorem issue_outcome (i : Issuer) (r : Identity) (at_ : Instant) (iv : Crypto.Gcm.Iv) :
    (FailsWith (i.issue r at_ iv) (fun e => e.kind = .configuration) ↔
      ∀ secret, i.signing = some secret → trim secret.text = "") ∧
    (FailsWith (i.issue r at_ iv) (fun e => e.kind = .crypto) ↔
      ∃ secret, i.signing = some secret ∧ trim secret.text ≠ "" ∧
        ((utf8 secret.text).length < 32 ∨ ∃ encryption, i.encryption = some encryption ∧
          trim encryption.text ≠ "" ∧ (utf8 encryption.text).length ≠ 32)) ∧
    ((∃ text, i.issue r at_ iv = .ok text) ↔
      (∃ secret, i.signing = some secret ∧ trim secret.text ≠ "" ∧
        32 ≤ (utf8 secret.text).length) ∧ ∀ encryption, i.encryption = some encryption →
        trim encryption.text ≠ "" → (utf8 encryption.text).length = 32) ∧
    (∀ r' at_' iv' e, i.issue r' at_' iv' = .error e ↔ i.issue r at_ iv = .error e) ∧
    (i.isEncrypting = true ↔
      ∃ encryption, i.encryption = some encryption ∧ trim encryption.text ≠ "") ∧
    ∀ text, i.issue r at_ iv = .ok text →
      (i.isEncrypting = true → ∃ t, Token.parse text = .ok (.encrypted t) ∧
        t.header = ⟨"dir", some "A256GCM", some "JWT", none⟩ ∧ t.serialize = text) ∧
      (i.isEncrypting = false → ∃ t, Token.parse text = .ok (.signed t) ∧
        t.header = ⟨"HS256", none, none, none⟩ ∧ t.serialize = text) := by
  refine ⟨issue_configuration_iff, issue_crypto_iff, ?_, ?_, isEncrypting_iff, ?_⟩
  · rw [exists_issue_iff]
    simp only [Secret.isBlank_eq_true_iff, Secret.isBlank_eq_false_iff, Secret.bytes,
      Decidable.or_iff_not_imp_left, ne_eq]
  · intro r' at_' iv' e
    rw [issue_eq_error_iff, issue_eq_error_iff]
  · intro text h
    constructor
    · intro hencrypting
      obtain ⟨t, hparse, hheader⟩ := parse_issue_of_isEncrypting hencrypting h
      exact ⟨t, hparse, hheader, Token.serialize_of_parse_encrypted hparse⟩
    · intro hsigning
      obtain ⟨t, hparse, hheader⟩ := parse_issue_of_not_isEncrypting hsigning h
      exact ⟨t, hparse, hheader, Token.serialize_of_parse_signed hparse⟩

/-- A secret of 31 letters encrypts if it has 32 octets. One of 33 octets signs but does not
encrypt. An ideographic space is no secret, and without one there is no token either. -/
theorem issue_outcome_accented :
    (∃ text t, accented.issue (nestedRecord 300) ⟨-1, 0, by decide, by decide⟩
        (Vector.replicate 12 0) = .ok text ∧ Token.parse text = .ok (.encrypted t) ∧
      t.header = ⟨"dir", some "A256GCM", some "JWT", none⟩ ∧ t.serialize = text) ∧
    (∃ text t, (ofSecrets ⟨"0123456789abcdef0123456789abcdeü"⟩ ⟨"\u3000"⟩).issue (nestedRecord 300)
        ⟨-1, 0, by decide, by decide⟩ (Vector.replicate 12 0) = .ok text ∧
      Token.parse text = .ok (.signed t) ∧ t.header = ⟨"HS256", none, none, none⟩ ∧
      t.serialize = text) ∧
    FailsWith ((ofSecret ⟨"0123456789abcdef0123456789abcdeü"⟩ true).issue (nestedRecord 300)
      ⟨-1, 0, by decide, by decide⟩ (Vector.replicate 12 0)) (fun e => e.kind = .crypto) ∧
    FailsWith ((ofSecret ⟨"\u3000"⟩ true).issue (nestedRecord 300)
      ⟨-1, 0, by decide, by decide⟩ (Vector.replicate 12 0))
      (fun e => e.kind = .configuration) ∧
    FailsWith (Issuer.issue ⟨none, some ⟨"0123456789abcdef0123456789abcdef"⟩⟩ (nestedRecord 300)
      ⟨-1, 0, by decide, by decide⟩ (Vector.replicate 12 0))
      (fun e => e.kind = .configuration) := by
  have houtcome (i : Issuer) := issue_outcome i (nestedRecord 300) ⟨-1, 0, by decide, by decide⟩
    (Vector.replicate 12 0)
  refine ⟨?_, ?_, ?_, ?_, ?_⟩
  · obtain ⟨-, -, hok, -, -, hform⟩ := houtcome accented
    have hsize (e : Secret) (he : accented.encryption = some e) (_ : trim e.text ≠ "") :
        (utf8 e.text).length = 32 := by
      obtain rfl := Option.some.inj he
      decide
    obtain ⟨text, htext⟩ := hok.mpr ⟨⟨_, rfl, by decide, by decide⟩, hsize⟩
    obtain ⟨t, h⟩ := (hform text htext).1 (by decide)
    exact ⟨text, t, htext, h⟩
  · obtain ⟨-, -, hok, -, -, hform⟩ :=
      houtcome (ofSecrets ⟨"0123456789abcdef0123456789abcdeü"⟩ ⟨"\u3000"⟩)
    have hsize (e : Secret) (he : some ⟨"\u3000"⟩ = some e) (hne : trim e.text ≠ "") :
        (utf8 e.text).length = 32 := by
      obtain rfl := Option.some.inj he
      exact absurd (by decide) hne
    obtain ⟨text, htext⟩ := hok.mpr ⟨⟨_, rfl, by decide, by decide⟩, hsize⟩
    obtain ⟨t, h⟩ := (hform text htext).2 (by decide)
    exact ⟨text, t, htext, h⟩
  · exact (houtcome _).2.1.mpr ⟨_, rfl, by decide, .inr ⟨_, rfl, by decide, by decide⟩⟩
  · refine (houtcome _).1.mpr fun secret hsecret => ?_
    obtain rfl := Option.some.inj hsecret
    decide
  · exact (houtcome _).1.mpr fun secret hsecret => nomatch hsecret

end Issuer

end IdentityToken
