import IdentityToken.Command.Issue
import IdentityToken.Proofs.Token.Issued
/-!
# Tokens are encrypted unless it is said that they are not

An issuer takes a blank secret for none and then does not encrypt. On command this cannot happen: a
secret that is needed and missing, blank or of the wrong size stops the command. If tokens are to be
signed only, nothing of the secret for encryption matters.
-/

namespace IdentityToken.Command

open Text
open Validator (Encrypts)

variable {o : SecretOptions} {c : Config} {s : Surroundings} {signedOnly : Bool}

namespace SecretOptions

/-- A secret that was looked for, if one was found that is not blank. -/
def needed (missing : CommandError) (found : Except CommandError (Option Secret)) :
    Except CommandError Secret :=
  found >>= fun secret? => (Secret.usable? secret?).elim (.error missing) .ok

theorem signingSecret_eq (o : SecretOptions) (c : Config) (s : Surroundings) :
    o.signingSecret c s = needed .noSigningSecret (resolve s o.signing c.signing) := by
  unfold signingSecret needed
  congr 1
  funext secret?
  cases Secret.usable? secret? <;> rfl

theorem encryptionSecret_eq (o : SecretOptions) (c : Config) (s : Surroundings) :
    o.encryptionSecret c s = needed .noEncryptionSecret (o.encryptionSecret? c s) := by
  unfold encryptionSecret needed
  congr 1
  funext secret?
  cases Secret.usable? secret? <;> rfl

theorem needed_eq_ok_iff {missing : CommandError} {found : Except CommandError (Option Secret)}
    {secret : Secret} :
    needed missing found = .ok secret ↔ found = .ok (some secret) ∧ secret.isBlank = false := by
  rw [needed, bind_eq_ok_iff]
  constructor
  · rintro ⟨secret?, hfound, h⟩
    cases husable : Secret.usable? secret? with
    | none => simp [husable] at h
    | some secret' =>
      obtain rfl : secret' = secret := by simpa [husable] using h
      obtain ⟨rfl, hblank⟩ := Secret.usable?_eq_some_iff.mp husable
      exact ⟨hfound, hblank⟩
  · rintro ⟨hfound, hblank⟩
    exact ⟨some secret, hfound, by rw [Secret.usable?_eq_some_iff.mpr ⟨rfl, hblank⟩]; rfl⟩

theorem signingSecret_eq_ok_iff {secret : Secret} :
    o.signingSecret c s = .ok secret ↔
      resolve s o.signing c.signing = .ok (some secret) ∧ secret.isBlank = false := by
  rw [signingSecret_eq, needed_eq_ok_iff]

theorem encryptionSecret_eq_ok_iff {secret : Secret} :
    o.encryptionSecret c s = .ok secret ↔
      resolve s o.encryption c.encryption = .ok (some secret) ∧ secret.isBlank = false := by
  rw [encryptionSecret_eq, needed_eq_ok_iff]
  rfl

/-! ## Issuers -/

theorem issuer_of_signedOnly (h : signedOnly = true ∨ c.encrypt = false) :
    o.issuer c s signedOnly = (o.signingSecret c s).map fun signing => .ofSecret signing false := by
  have hsigned : (signedOnly || !c.encrypt) = true := by simpa using h
  simp only [issuer, hsigned, if_true]
  cases o.signingSecret c s <;> rfl

theorem issuer_eq_ok_iff_of_encrypting (hsigned : signedOnly = false) (hencrypt : c.encrypt = true)
    {i : Issuer} :
    o.issuer c s signedOnly = .ok i ↔ ∃ signing encryption, i = .ofSecrets signing encryption ∧
      o.signingSecret c s = .ok signing ∧ o.encryptionSecret c s = .ok encryption := by
  simp only [issuer, hsigned, hencrypt, Bool.not_true, Bool.or_self, Bool.false_eq_true, if_false,
    bind_eq_ok_iff, Except.ok.injEq]
  constructor
  · rintro ⟨signing, hsigning, encryption, hencryption, rfl⟩
    exact ⟨signing, encryption, rfl, hsigning, hencryption⟩
  · rintro ⟨signing, encryption, hi, hsigning, hencryption⟩
    exact ⟨signing, hsigning, encryption, hencryption, hi.symm⟩

end SecretOptions

variable {identity : IdentityOptions} {fresh : Fresh} {text : String} {encrypted : Bool}

theorem mint_eq_ok_iff :
    mint c s identity o signedOnly fresh = .ok (text, encrypted) ↔
      ∃ r i, identity.identity s.files = .ok r ∧ o.issuer c s signedOnly = .ok i ∧
        i.issue r fresh.now fresh.iv = .ok text ∧ i.isEncrypting = encrypted := by
  simp only [mint, prepare, bind_eq_ok_iff, mapError_eq_ok_iff, Except.ok.injEq, Prod.mk.injEq]
  constructor
  · rintro ⟨_, ⟨r, hr, i, hi, rfl⟩, token, htoken, rfl, hencrypted⟩
    exact ⟨r, i, hr, hi, htoken, hencrypted⟩
  · rintro ⟨r, i, hr, hi, htext, hencrypted⟩
    exact ⟨(r, i), ⟨r, hr, i, hi, rfl⟩, text, htext, rfl, hencrypted⟩

/-- A token is made exactly when there is an identity, a secret that signs and, unless tokens are
signed only, a secret that encrypts. -/
theorem exists_mint_iff :
    (∃ text encrypted, mint c s identity o signedOnly fresh = .ok (text, encrypted)) ↔
      (∃ r, identity.identity s.files = .ok r) ∧
      (∃ signing, SecretOptions.resolve s o.signing c.signing = .ok (some signing) ∧
        signing.isBlank = false ∧ 32 ≤ signing.bytes.length) ∧
      (signedOnly = false → c.encrypt = true → ∃ encryption,
        SecretOptions.resolve s o.encryption c.encryption = .ok (some encryption) ∧
        encryption.isBlank = false ∧ encryption.bytes.length = 32) := by
  have hmint : (∃ text encrypted, mint c s identity o signedOnly fresh = .ok (text, encrypted)) ↔
      ∃ r i, identity.identity s.files = .ok r ∧ o.issuer c s signedOnly = .ok i ∧
        ∃ text, i.issue r fresh.now fresh.iv = .ok text := by
    simp only [mint_eq_ok_iff]
    constructor
    · rintro ⟨text, _, r, i, hr, hi, htext, -⟩
      exact ⟨r, i, hr, hi, text, htext⟩
    · rintro ⟨r, i, hr, hi, text, htext⟩
      exact ⟨text, _, r, i, hr, hi, htext, rfl⟩
  rw [hmint]
  simp only [Issuer.exists_issue_iff]
  by_cases hmode : signedOnly = true ∨ c.encrypt = false
  · simp only [SecretOptions.issuer_of_signedOnly hmode, map_eq_ok_iff,
      SecretOptions.signingSecret_eq_ok_iff]
    constructor
    · rintro ⟨r, _, hr, ⟨signing, ⟨hfound, -⟩, rfl⟩, ⟨_, ⟨⟩, hblank, hlength⟩, -⟩
      refine ⟨⟨r, hr⟩, ⟨signing, hfound, hblank, hlength⟩, fun hsigned hencrypt => ?_⟩
      simp [hsigned, hencrypt] at hmode
    · rintro ⟨⟨r, hr⟩, ⟨signing, hfound, hblank, hlength⟩, -⟩
      exact ⟨r, _, hr, ⟨signing, ⟨hfound, hblank⟩, rfl⟩, ⟨signing, rfl, hblank, hlength⟩,
        by simp [Issuer.ofSecret]⟩
  · obtain ⟨hsigned, hencrypt⟩ : signedOnly = false ∧ c.encrypt = true := by simpa using hmode
    simp only [SecretOptions.issuer_eq_ok_iff_of_encrypting hsigned hencrypt,
      SecretOptions.signingSecret_eq_ok_iff, SecretOptions.encryptionSecret_eq_ok_iff]
    constructor
    · rintro ⟨r, _, hr, ⟨signing, encryption, rfl, ⟨hfound, hblank⟩, hfound', hblank'⟩,
        ⟨_, ⟨⟩, -, hlength⟩, hsize⟩
      have hlength' : encryption.bytes.length = 32 := by simpa [hblank'] using hsize _ rfl
      exact ⟨⟨r, hr⟩, ⟨signing, hfound, hblank, hlength⟩,
        fun _ _ => ⟨encryption, hfound', hblank', hlength'⟩⟩
    · rintro ⟨⟨r, hr⟩, ⟨signing, hfound, hblank, hlength⟩, hencryption⟩
      obtain ⟨encryption, hfound', hblank', hlength'⟩ := hencryption hsigned hencrypt
      refine ⟨r, .ofSecrets signing encryption, hr,
        ⟨signing, encryption, rfl, ⟨hfound, hblank⟩, hfound', hblank'⟩,
        ⟨signing, rfl, hblank, hlength⟩, ?_⟩
      rintro _ ⟨⟩
      exact .inr hlength'

/-- A text is a signed token that a secret verifies. -/
def Verifies (secret : Secret) (text : String) : Prop :=
  ∃ t key, Token.parse text = .ok (.signed t) ∧ SigningKey.ofBytes secret.bytes = .ok key ∧
    t.verify key.verifier = .ok ()

private theorem verifies_sign {secret : Secret} {key : SigningKey}
    (hkey : SigningKey.ofBytes secret.bytes = .ok key) (claims : ClaimSet) :
    Verifies secret (SignedToken.sign claims key) :=
  ⟨_, key, SignedToken.parse_sign claims key, hkey, SignedToken.verify_ofClaims claims key⟩

/-! ## Encrypted tokens -/

/-- Where tokens are to be encrypted, a token that is made encrypts a signed one, under the secrets
that were found. -/
theorem encrypts_of_mint (hsigned : signedOnly = false) (hencrypt : c.encrypt = true)
    (h : mint c s identity o signedOnly fresh = .ok (text, encrypted)) :
    encrypted = true ∧ ∃ signing encryption nested,
      SecretOptions.resolve s o.signing c.signing = .ok (some signing) ∧
      SecretOptions.resolve s o.encryption c.encryption = .ok (some encryption) ∧
      Encrypts encryption text nested ∧ Verifies signing nested := by
  obtain ⟨r, i, -, hissuer, hissue, rfl⟩ := mint_eq_ok_iff.mp h
  obtain ⟨signing, encryption, rfl, hsigning, hencryption⟩ :=
    (SecretOptions.issuer_eq_ok_iff_of_encrypting hsigned hencrypt).mp hissuer
  obtain ⟨hfound, hblank⟩ := SecretOptions.encryptionSecret_eq_ok_iff.mp hencryption
  obtain ⟨_, ⟨⟩, -, key, hkey, hwrap⟩ := Issuer.issue_eq_ok_iff.mp hissue
  obtain ⟨contentKey, hcontentKey, rfl⟩ := (Issuer.wrap_eq_ok_iff rfl hblank).mp hwrap
  let nested := SignedToken.sign (ClaimSet.forIdentity r Issuer.name fresh.now) key
  have hencrypts : Encrypts encryption (EncryptedToken.encrypt nested contentKey fresh.iv) nested :=
    Validator.encrypts_encrypt nested hcontentKey fresh.iv
  exact ⟨Issuer.isEncrypting_of_usable rfl hblank, signing, encryption, nested,
    (SecretOptions.signingSecret_eq_ok_iff.mp hsigning).1, hfound, hencrypts, verifies_sign hkey _⟩

/-! ## Signed tokens -/

theorem verifies_of_mint (hsigned : signedOnly = true ∨ c.encrypt = false)
    (h : mint c s identity o signedOnly fresh = .ok (text, encrypted)) :
    encrypted = false ∧ ∃ signing,
      SecretOptions.resolve s o.signing c.signing = .ok (some signing) ∧
      Verifies signing text := by
  obtain ⟨r, i, -, hissuer, hissue, rfl⟩ := mint_eq_ok_iff.mp h
  rw [SecretOptions.issuer_of_signedOnly hsigned, map_eq_ok_iff] at hissuer
  obtain ⟨signing, hsigning, rfl⟩ := hissuer
  have hunusable := Issuer.unusable_ofSecret signing
  obtain ⟨_, ⟨⟩, -, key, hkey, hwrap⟩ := Issuer.issue_eq_ok_iff.mp hissue
  rw [Issuer.wrap_of_unusable hunusable] at hwrap
  obtain rfl := Except.ok.inj hwrap
  exact ⟨Issuer.isEncrypting_eq_false_iff.mpr hunusable, signing,
    (SecretOptions.signingSecret_eq_ok_iff.mp hsigning).1, verifies_sign hkey _⟩

/-- Where tokens are signed only, the secret for encryption is not looked for. -/
theorem mint_of_signedOnly (hsigned : signedOnly = true ∨ c.encrypt = false)
    (option : Option String) (source : SecretSource) :
    mint { c with encryption := source } s identity { o with encryption := option } signedOnly fresh
      = mint c s identity o signedOnly fresh := by
  have hissuer : SecretOptions.issuer { o with encryption := option }
      { c with encryption := source } s signedOnly = o.issuer c s signedOnly := by
    rw [SecretOptions.issuer_of_signedOnly hsigned,
      SecretOptions.issuer_of_signedOnly (c := { c with encryption := source }) hsigned]
    rfl
  simp only [mint, prepare, hissuer]

/-- Encryption is never left out in silence. Unless the command or the configuration says that
tokens are signed only, each token that is made is encrypted under the secret that was found, with a
signed token inside, and without a good secret there is no token. Otherwise each token is signed,
and the secret for encryption does not matter, nor where it is looked for. -/
theorem mint_keeps_encryption (c : Config) (s : Surroundings) (identity : IdentityOptions)
    (secrets : SecretOptions) (signedOnly : Bool) (fresh : Fresh) :
    (signedOnly = false → c.encrypt = true →
      (∀ text encrypted, mint c s identity secrets signedOnly fresh = .ok (text, encrypted) →
        encrypted = true ∧ (∃ e, Token.parse text = .ok (.encrypted e)) ∧
        ∃ signing encryption nested,
          SecretOptions.resolve s secrets.signing c.signing = .ok (some signing) ∧
          SecretOptions.resolve s secrets.encryption c.encryption = .ok (some encryption) ∧
          Encrypts encryption text nested ∧ Verifies signing nested) ∧
      ((∀ encryption,
          SecretOptions.resolve s secrets.encryption c.encryption = .ok (some encryption) →
          encryption.isBlank = true ∨ encryption.bytes.length ≠ 32) →
        ∃ e, mint c s identity secrets signedOnly fresh = .error e)) ∧
    (signedOnly = true ∨ c.encrypt = false →
      (∀ text encrypted, mint c s identity secrets signedOnly fresh = .ok (text, encrypted) →
        encrypted = false ∧ ∃ t, Token.parse text = .ok (.signed t)) ∧
      ∀ option source,
        mint { c with encryption := source } s identity { secrets with encryption := option }
            signedOnly fresh
          = mint c s identity secrets signedOnly fresh) := by
  refine ⟨fun hsigned hencrypt => ⟨?_, ?_⟩, fun hsigned => ⟨?_, ?_⟩⟩
  · intro text encrypted h
    obtain ⟨htrue, signing, encryption, nested, hsigning, hencryption, hencrypts, hverifies⟩ :=
      encrypts_of_mint hsigned hencrypt h
    obtain ⟨e, -, hparse, -⟩ := Validator.exists_decrypt_iff.mpr hencrypts
    exact ⟨htrue, ⟨e, hparse⟩, signing, encryption, nested, hsigning, hencryption, hencrypts,
      hverifies⟩
  · intro hbad
    refine exists_error_iff_forall_ne.mpr fun ⟨text, encrypted⟩ h => ?_
    obtain ⟨-, -, hneeded⟩ := exists_mint_iff.mp ⟨text, encrypted, h⟩
    obtain ⟨encryption, hencryption, hblank, hlength⟩ := hneeded hsigned hencrypt
    rcases hbad encryption hencryption with hblank' | hlength'
    · simp [hblank] at hblank'
    · exact hlength' hlength
  · intro text encrypted h
    obtain ⟨hfalse, -, -, t, -, hparse, -⟩ := verifies_of_mint hsigned h
    exact ⟨hfalse, t, hparse⟩
  · exact mint_of_signedOnly hsigned

/-- A signing secret in the environment and a secret for encryption in a file. -/
def keyring : Surroundings where
  files := ⟨[(["e.key"], .file (utf8 " 0123456789abcdef0123456789abcdñ\n"))], []⟩
  environment := [("TESSERA_SIGNING_SECRET", "0123456789abcdef0123456789abcdeü ")]

/-- A subject without a kind, with one attribute. -/
def ada : IdentityOptions := ⟨.subject none "ada", ["rôle=[true]"]⟩

/-- A moment in 2023 at which the same letter is always drawn. -/
def moment : Fresh where
  now := ⟨1700000000, 500000000, by decide, by decide⟩
  iv := Vector.replicate 12 0
  signing := Vector.replicate _ (Fin.last 61)
  encryption := Vector.replicate _ (Fin.last 61)

theorem resolve_keyring :
    SecretOptions.resolve keyring none (default : Config).signing
      = .ok (some ⟨"0123456789abcdef0123456789abcdeü"⟩) ∧
    SecretOptions.resolve keyring (some "e.key") (default : Config).encryption
      = .ok (some ⟨"0123456789abcdef0123456789abcdñ"⟩) ∧
    SecretOptions.resolve keyring (some " \n") (default : Config).encryption = .ok (some ⟨""⟩) :=
  ⟨toOption_eq_some_iff.mp (by decide +kernel), toOption_eq_some_iff.mp (by decide +kernel),
    toOption_eq_some_iff.mp (by decide +kernel)⟩

/-- With the keyring a token is made for every identity. -/
theorem exists_mint_of_identity {identity : IdentityOptions}
    (hidentity : ∃ r, identity.identity keyring.files = .ok r) (signedOnly : Bool)
    (option : Option String) (h : signedOnly = false → option = some "e.key") :
    ∃ text encrypted,
      mint default keyring identity ⟨none, option⟩ signedOnly moment = .ok (text, encrypted) := by
  obtain ⟨hsigning, hencryption, -⟩ := resolve_keyring
  refine exists_mint_iff.mpr ⟨hidentity, ⟨_, hsigning, by decide, by decide⟩, fun hsigned _ => ?_⟩
  obtain rfl := h hsigned
  exact ⟨_, hencryption, by decide, by decide⟩

theorem exists_mint_keyring (signedOnly : Bool) (option : Option String)
    (h : signedOnly = false → option = some "e.key") :
    ∃ text encrypted,
      mint default keyring ada ⟨none, option⟩ signedOnly moment = .ok (text, encrypted) :=
  exists_mint_of_identity ⟨_, rfl⟩ signedOnly option h

/-- With the file as the secret the token is encrypted. A blank secret gives no token, and for a
signed token it does not matter. -/
theorem mint_keeps_encryption_keyring :
    (∃ text e, mint default keyring ada ⟨none, some "e.key"⟩ false moment = .ok (text, true) ∧
      Token.parse text = .ok (.encrypted e)) ∧
    (∃ e, mint default keyring ada ⟨none, some " \n"⟩ false moment = .error e) ∧
    ∃ text t, mint default keyring ada ⟨none, some " \n"⟩ true moment = .ok (text, false) ∧
      mint default keyring ada ⟨none, none⟩ true moment = .ok (text, false) ∧
      Token.parse text = .ok (.signed t) := by
  refine ⟨?_, ?_, ?_⟩
  · obtain ⟨text, encrypted, h⟩ := exists_mint_keyring false (some "e.key") fun _ => rfl
    obtain ⟨rfl, ⟨e, hparse⟩, -⟩ := ((mint_keeps_encryption ..).1 rfl rfl).1 text encrypted h
    exact ⟨text, e, h, hparse⟩
  · refine ((mint_keeps_encryption ..).1 rfl rfl).2 fun secret hfound => .inl ?_
    obtain rfl : ⟨""⟩ = secret := by simpa using resolve_keyring.2.2.symm.trans hfound
    decide
  · obtain ⟨text, encrypted, h⟩ := exists_mint_keyring true (some " \n") (by simp)
    obtain ⟨hkind, hsame⟩ := (mint_keeps_encryption ..).2 (.inl rfl)
    obtain ⟨rfl, t, hparse⟩ := hkind text encrypted h
    exact ⟨text, t, h, (hsame none (default : Config).encryption).trans h, hparse⟩

end IdentityToken.Command
