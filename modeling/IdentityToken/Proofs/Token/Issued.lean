import IdentityToken.Issuer
import IdentityToken.Proofs.Validation.Failures
/-!
# What an issuer issues

An issuer signs the claims of a record with its signing secret. It issues the signed token as it is
or encrypts it, and whether it does is decided by its secrets alone.
-/

namespace IdentityToken.Issuer

open Text

variable {i : Issuer} {r : Identity} {at_ : Instant} {iv : Crypto.Gcm.Iv} {text signed : String}
  {secret : Secret}

theorem issue_of_unusable (h : Secret.Unusable i.signing) :
    i.issue r at_ iv = .error (.setup (.blankSecret .signing)) := by
  simp only [issue, Secret.usable?_eq_none_iff.mpr h]

theorem issue_of_usable (hsecret : i.signing = some secret) (hblank : secret.isBlank = false) :
    i.issue r at_ iv = (SigningKey.ofBytes secret.bytes).mapError .crypto >>= fun key =>
      i.wrap iv (SignedToken.sign (ClaimSet.forIdentity r name at_) key) := by
  simp only [issue, Secret.usable?_eq_some_iff.mpr ⟨hsecret, hblank⟩]

/-- What is issued is made of a signed token, for which the signing secret has to be good. -/
theorem issue_eq_ok_iff :
    i.issue r at_ iv = .ok text ↔ ∃ secret, i.signing = some secret ∧ secret.isBlank = false ∧
      ∃ key, SigningKey.ofBytes secret.bytes = .ok key ∧
        i.wrap iv (SignedToken.sign (ClaimSet.forIdentity r name at_) key) = .ok text := by
  constructor
  · intro h
    by_cases hunusable : Secret.Unusable i.signing
    · cases (issue_of_unusable hunusable).symm.trans h
    · obtain ⟨secret, hsecret, hblank⟩ := Secret.not_unusable_iff.mp hunusable
      rw [issue_of_usable hsecret hblank, bind_eq_ok_iff] at h
      simp only [mapError_eq_ok_iff] at h
      exact ⟨secret, hsecret, hblank, h⟩
  · rintro ⟨secret, hsecret, hblank, key, hkey, hwrap⟩
    rw [issue_of_usable hsecret hblank, bind_ok (mapError_ok hkey _), hwrap]

theorem unusable_ofSecret (signing : Secret) :
    Secret.Unusable (ofSecret signing false).encryption :=
  Secret.usable?_eq_none_iff.mp rfl

theorem wrap_of_unusable (h : Secret.Unusable i.encryption) : i.wrap iv signed = .ok signed := by
  simp only [wrap, Secret.usable?_eq_none_iff.mpr h]

theorem wrap_eq_ok_iff {encryption : Secret} (hencryption : i.encryption = some encryption)
    (hblank : encryption.isBlank = false) :
    i.wrap iv signed = .ok text ↔
      ∃ key, ContentKey.ofBytes encryption.bytes = .ok key ∧
        EncryptedToken.encrypt signed key iv = text := by
  simp only [wrap, Secret.usable?_eq_some_iff.mpr ⟨hencryption, hblank⟩, bind_eq_ok_iff,
    mapError_eq_ok_iff, Except.ok.injEq]

theorem isEncrypting_eq_false_iff : i.isEncrypting = false ↔ Secret.Unusable i.encryption := by
  rw [isEncrypting, Option.isSome_eq_false_iff, Option.isNone_iff_eq_none,
    Secret.usable?_eq_none_iff]

theorem isEncrypting_of_usable {encryption : Secret} (hencryption : i.encryption = some encryption)
    (hblank : encryption.isBlank = false) : i.isEncrypting = true := by
  simp [isEncrypting, Secret.usable?_eq_some_iff.mpr ⟨hencryption, hblank⟩]

/-- A token consists of letters, digits and dots, of which none is white space. -/
theorem isSpace_of_mem_issue (h : i.issue r at_ iv = .ok text) :
    ∀ c ∈ text.toList, isSpace c = false := by
  have hjoin {pieces : List String} (hpieces : ∀ s ∈ pieces, ∀ c ∈ s.toList, isSpace c = false) :
      ∀ c ∈ (join '.' pieces).toList, isSpace c = false := forall_mem_join (by decide) hpieces
  have hsegment (b : Bytes) := Base64Url.isSpace_of_mem_encode b
  obtain ⟨-, -, -, key, -, hwrap⟩ := issue_eq_ok_iff.mp h
  by_cases hunusable : Secret.Unusable i.encryption
  · rw [wrap_of_unusable hunusable] at hwrap
    obtain rfl := Except.ok.inj hwrap
    simp only [SignedToken.sign, Header.encode]
    apply hjoin
    simp only [List.forall_mem_cons]
    exact ⟨hsegment _, hsegment _, hsegment _, List.forall_mem_nil _⟩
  · obtain ⟨e, he, hb⟩ := Secret.not_unusable_iff.mp hunusable
    obtain ⟨contentKey, -, rfl⟩ := (wrap_eq_ok_iff he hb).mp hwrap
    simp only [EncryptedToken.encrypt, Header.encode]
    apply hjoin
    simp only [List.forall_mem_cons]
    exact ⟨hsegment _, by simp, hsegment _, hsegment _, hsegment _, List.forall_mem_nil _⟩

/-- A token is issued exactly when the secrets are long enough. A blank secret for encryption counts
as none. -/
theorem exists_issue_iff :
    (∃ text, i.issue r at_ iv = .ok text) ↔
      (∃ secret, i.signing = some secret ∧ secret.isBlank = false ∧ 32 ≤ secret.bytes.length) ∧
      ∀ e, i.encryption = some e → e.isBlank = true ∨ e.bytes.length = 32 := by
  constructor
  · rintro ⟨text, h⟩
    obtain ⟨secret, hsecret, hblank, key, hkey, hwrap⟩ := issue_eq_ok_iff.mp h
    refine ⟨⟨secret, hsecret, hblank, SigningKey.ofBytes_eq_ok_iff.mp hkey ▸ key.length⟩,
      fun e he => ?_⟩
    cases hb : e.isBlank with
    | true => exact .inl rfl
    | false =>
      obtain ⟨contentKey, hcontentKey, -⟩ := (wrap_eq_ok_iff he hb).mp hwrap
      exact .inr (by simp [← ContentKey.ofBytes_eq_ok_iff.mp hcontentKey])
  · rintro ⟨⟨secret, hsecret, hblank, hlength⟩, hencryption⟩
    obtain ⟨key, hkey⟩ := SigningKey.exists_ofBytes hlength
    by_cases hunusable : Secret.Unusable i.encryption
    · exact ⟨_, issue_eq_ok_iff.mpr
        ⟨secret, hsecret, hblank, key, hkey, wrap_of_unusable hunusable⟩⟩
    · obtain ⟨e, he, hb⟩ := Secret.not_unusable_iff.mp hunusable
      have hsize : e.bytes.length = 32 := by simpa [hb] using hencryption e he
      obtain ⟨contentKey, hcontentKey⟩ := ContentKey.exists_ofBytes hsize
      exact ⟨_, issue_eq_ok_iff.mpr
        ⟨secret, hsecret, hblank, key, hkey,
          (wrap_eq_ok_iff he hb).mpr ⟨contentKey, hcontentKey, rfl⟩⟩⟩

end IdentityToken.Issuer
