import IdentityToken.Command.Run
import IdentityToken.Proofs.Command.Minting
import IdentityToken.Proofs.Files
import IdentityToken.Proofs.Reissuance
/-!
# What is made on command is accepted on command

Making and validating tokens look for secrets in the same places, but only the first needs a secret
for encryption. A token that was made is validated with the same options and the same surroundings,
and the identity comes back. Validating on command gives what a validator gives.
-/

namespace IdentityToken

open Text

/-- Of a signed token the secret for encryption says nothing. -/
theorem Validator.claims_of_signed {v : Validator} {text : String} {t : SignedToken}
    (h : Token.parse text = .ok (.signed t)) (encryption : Option Secret) :
    { v with encryption }.claims text = v.claims text := by
  rw [claims_eq, claims_eq, find_of_signed _ h, find_of_signed _ h]

namespace Command

variable {c : Config} {s : Surroundings} {o : SecretOptions} {kind : Option String}

theorem SecretOptions.validator_eq_ok {signing : Secret} {encryption : Option Secret}
    (hsigning : o.signingSecret c s = .ok signing)
    (hencryption : o.encryptionSecret? c s = .ok encryption) :
    o.validator c s kind
      = .ok ⟨some signing, encryption, (kind.or c.defaultKind).getD "JwtProfile"⟩ := by
  rw [validator, bind_ok hsigning, bind_ok hencryption]
  cases encryption <;> cases kind.or c.defaultKind <;> rfl

/-! ## Validating on command -/

theorem map_accept (v : Validator) (text : String) :
    (accept v text).map Prod.snd = (v.validate text).mapError .rejected := by
  unfold accept Validator.validate
  cases v.claims text with
  | error e => rfl
  | ok claims =>
    show ((claims.toIdentity v.defaultKind).mapError _ >>= fun r => .ok (claims, r)).map Prod.snd
      = ((claims.toIdentity v.defaultKind).mapError _).mapError _
    cases claims.toIdentity v.defaultKind <;> rfl

theorem accept_eq_ok_iff {v : Validator} {text : String} {claims : ClaimSet} {r : Identity} :
    accept v text = .ok (claims, r) ↔
      v.claims text = .ok claims ∧ claims.toIdentity v.defaultKind = .ok r := by
  simp only [accept, bind_eq_ok_iff, mapError_eq_ok_iff, Except.ok.injEq, Prod.mk.injEq]
  constructor
  · rintro ⟨_, hclaims, _, hr, rfl, rfl⟩
    exact ⟨hclaims, hr⟩
  · rintro ⟨hclaims, hr⟩
    exact ⟨claims, hclaims, r, hr, rfl, rfl⟩

theorem validate_eq_accept {v : Validator} {arg text : String}
    (hv : o.validator c s kind = .ok v) (htext : readToken s.files arg = .ok text) :
    validate c s arg o kind = accept v text := by
  rw [validate, bind_ok hv, bind_ok htext]

theorem result_runValidate (arg : String) (json : Bool) :
    (runValidate c s arg o kind json).result = (validate c s arg o kind).map fun (claims, r) =>
      if json then ofLines [r.render .indented] else identitySummary claims r := rfl

theorem readToken_append {files : FileSystem} {before text after : String}
    (hbefore : Blank before) (htext : ∀ c ∈ text.toList, isSpace c = false) (hafter : Blank after)
    (h : files.exists? (before ++ text ++ after) = false) :
    readToken files (before ++ text ++ after) = .ok text := by
  rw [readToken, h, trim_append hbefore htext hafter]
  rfl

section made

variable {identity : IdentityOptions} {signedOnly encrypted : Bool} {fresh : Fresh} {text : String}
  {r : Identity} {signing : Secret} {encryption : Option Secret}

/-- A validator with the secrets that a token was made with, wherever it has them from, reads what
the token carries. A signed token can be read with any secret for encryption. -/
theorem claims_of_mint
    (hmint : mint c s identity o signedOnly fresh = .ok (text, encrypted))
    (hr : identity.identity s.files = .ok r) (hsigning : o.signingSecret c s = .ok signing)
    (hencryption : signedOnly = false → c.encrypt = true →
      ∃ e, encryption = some e ∧ o.encryptionSecret c s = .ok e) (kind : String) :
    (⟨some signing, encryption, kind⟩ : Validator).claims text
      = (ClaimSet.ofPayload (ClaimSet.forIdentity r Issuer.name fresh.now).payload).mapError
          .format := by
  obtain ⟨r', i, hr', hissuer, hissue, -⟩ := mint_eq_ok_iff.mp hmint
  obtain rfl : r = r' := Except.ok.inj (hr.symm.trans hr')
  obtain ⟨⟨secret, hsecret, hblank, hlength⟩, hsize⟩ := Issuer.exists_issue_iff.mp ⟨text, hissue⟩
  obtain ⟨text', hissue', hclaims⟩ :=
    Issuer.exists_issue hsecret hblank hlength hsize r fresh.now fresh.iv kind
  obtain rfl : text = text' := Except.ok.inj (hissue.symm.trans hissue')
  by_cases hmode : signedOnly = true ∨ c.encrypt = false
  · -- The validator may have a secret for encryption that the issuer did not have.
    obtain ⟨-, -, -, t, -, hparse, -⟩ := verifies_of_mint hmode hmint
    rw [SecretOptions.issuer_of_signedOnly hmode, map_eq_ok_iff] at hissuer
    obtain ⟨signing', hsigning', rfl⟩ := hissuer
    obtain rfl : signing = signing' := Except.ok.inj (hsigning.symm.trans hsigning')
    exact (Validator.claims_of_signed hparse encryption).trans hclaims
  · obtain ⟨hsigned, hencrypt⟩ : signedOnly = false ∧ c.encrypt = true := by simpa using hmode
    obtain ⟨signing', e, rfl, hsigning', he⟩ :=
      (SecretOptions.issuer_eq_ok_iff_of_encrypting hsigned hencrypt).mp hissuer
    obtain ⟨e', rfl, he'⟩ := hencryption hsigned hencrypt
    obtain rfl : signing = signing' := Except.ok.inj (hsigning.symm.trans hsigning')
    obtain rfl : e' = e := Except.ok.inj (he'.symm.trans he)
    exact hclaims

/-- The identity comes back if it is not too deep and its numbers are integers. -/
theorem validate_of_mint
    (hmint : mint c s identity o signedOnly fresh = .ok (text, encrypted))
    (hr : identity.identity s.files = .ok r) (hsigning : o.signingSecret c s = .ok signing)
    (hencryption : signedOnly = false → c.encrypt = true →
      ∃ e, encryption = some e ∧ o.encryptionSecret c s = .ok e)
    (hintegral : ∀ m ∈ r.attributes.toList, m.2.Integral)
    (hdepth : ∀ m ∈ r.attributes.toList, m.2.depth ≤ 126) (kind : String) :
    (⟨some signing, encryption, kind⟩ : Validator).validate text = .ok (r.withKind kind) := by
  have hclaims := claims_of_mint hmint hr hsigning hencryption kind
  have hshallow : (ClaimSet.forIdentity r Issuer.name fresh.now).toJson.depth ≤ Json.maxDepth :=
    ClaimSet.depth_toJson_le_iff.mpr hdepth
  rw [ClaimSet.ofPayload_payload hintegral, if_pos hshallow] at hclaims
  rw [Validator.validate, bind_ok hclaims]
  exact mapError_ok (ClaimSet.toIdentity_forIdentity r Issuer.name fresh.now kind) _

/-- The secrets that a token was made with. -/
theorem exists_signingSecret_of_mint
    (hmint : mint c s identity o signedOnly fresh = .ok (text, encrypted)) :
    ∃ signing, o.signingSecret c s = .ok signing ∧
      (signedOnly = false → c.encrypt = true → ∃ e, o.encryptionSecret c s = .ok e) := by
  obtain ⟨-, ⟨signing, hsigning, hblank, -⟩, hneeded⟩ := exists_mint_iff.mp ⟨text, encrypted, hmint⟩
  refine ⟨signing, SecretOptions.signingSecret_eq_ok_iff.mpr ⟨hsigning, hblank⟩, ?_⟩
  intro hsigned hencrypt
  obtain ⟨e, he, hblank', -⟩ := hneeded hsigned hencrypt
  exact ⟨e, SecretOptions.encryptionSecret_eq_ok_iff.mpr ⟨he, hblank'⟩⟩

/-- The same options give a validator that reads back what was made. -/
theorem exists_validator_of_mint
    (hmint : mint c s identity o signedOnly fresh = .ok (text, encrypted))
    (hr : identity.identity s.files = .ok r)
    (hintegral : ∀ m ∈ r.attributes.toList, m.2.Integral)
    (hdepth : ∀ m ∈ r.attributes.toList, m.2.depth ≤ 126)
    (hencryption : o.encryptionSecret? c s = .ok encryption) :
    ∃ v, o.validator c s kind = .ok v ∧
      v.validate text = .ok (r.withKind ((kind.or c.defaultKind).getD "JwtProfile")) := by
  obtain ⟨signing, hsigning, hneeded⟩ := exists_signingSecret_of_mint hmint
  refine ⟨_, SecretOptions.validator_eq_ok hsigning hencryption, ?_⟩
  refine validate_of_mint hmint hr hsigning (fun hsigned hencrypt => ?_) hintegral hdepth _
  obtain ⟨e, he⟩ := hneeded hsigned hencrypt
  have hfound : o.encryptionSecret? c s = .ok (some e) :=
    (SecretOptions.encryptionSecret_eq_ok_iff.mp he).1
  exact ⟨e, Except.ok.inj (hencryption.symm.trans hfound), he⟩

end made

/-- A token that was made on command is validated with the same options, configuration, environment
and files, given as text with or without white space around it. The identity that comes back has the
attributes it was made with, and the typed id, in front of which the default kind is put if there is
none. In general the command gives the identity that the validator gives, or reports the kind of its
error and the error. -/
theorem validate_mint (c : Config) (s : Surroundings) (secrets : SecretOptions)
    (defaultKind : Option String) :
    (∀ identity signedOnly fresh text encrypted r,
      mint c s identity secrets signedOnly fresh = .ok (text, encrypted) →
      identity.identity s.files = .ok r →
      (∀ m ∈ r.attributes.toList, m.2.Integral) →
      (∀ m ∈ r.attributes.toList, m.2.depth ≤ 126) →
      (∃ encryption, secrets.encryptionSecret? c s = .ok encryption) →
      ∀ before after, Blank before → Blank after →
        s.files.exists? (before ++ text ++ after) = false →
        ∃ claims r', validate c s (before ++ text ++ after) secrets defaultKind = .ok (claims, r') ∧
          (∀ json, (runValidate c s (before ++ text ++ after) secrets defaultKind json).result
            = .ok (if json then ofLines [r'.render .indented] else identitySummary claims r')) ∧
          r'.attributes = r.attributes ∧
          r'.typedId = if '#' ∈ r.typedId.toList then r.typedId
            else (defaultKind.or c.defaultKind).getD "JwtProfile" ++ "#" ++ r.typedId) ∧
    ∀ v arg text, secrets.validator c s defaultKind = .ok v → readToken s.files arg = .ok text →
      (∀ r, (∃ claims, validate c s arg secrets defaultKind = .ok (claims, r)) ↔
        v.validate text = .ok r) ∧
      ∀ e, v.validate text = .error e → ∃ failure,
        (∀ json, (runValidate c s arg secrets defaultKind json).result = .error failure) ∧
        ∀ words, failure.report words
          = ["✖ Token validation failed (" ++ e.kind.name ++ "): " ++ e.message words] := by
  have haccept {v : Validator} {text : String} {r : Identity} :
      (∃ claims, accept v text = .ok (claims, r)) ↔ v.validate text = .ok r := by
    rw [← mapError_eq_ok_iff, ← map_accept, map_eq_ok_iff]
    constructor
    · rintro ⟨claims, h⟩
      exact ⟨(claims, r), h, rfl⟩
    · rintro ⟨⟨claims, _⟩, h, rfl⟩
      exact ⟨claims, h⟩
  refine ⟨?_, ?_⟩
  · intro identity signedOnly fresh text encrypted r hmint hr hintegral hdepth ⟨_, hencryption⟩
      before after hbefore hafter hmissing
    obtain ⟨v, hv, hvalidate⟩ :=
      exists_validator_of_mint hmint hr hintegral hdepth hencryption
    obtain ⟨_, i, -, -, hissue, -⟩ := mint_eq_ok_iff.mp hmint
    have htext := readToken_append hbefore (Issuer.isSpace_of_mem_issue hissue) hafter hmissing
    obtain ⟨claims, hclaims⟩ := haccept.mpr hvalidate
    have hresult := (validate_eq_accept hv htext).trans hclaims
    exact ⟨claims, _, hresult, fun json => by rw [result_runValidate, hresult]; rfl, rfl, rfl⟩
  · intro v arg text hv htext
    rw [validate_eq_accept hv htext]
    refine ⟨fun r => haccept, fun e he => ⟨.rejected e, fun json => ?_, fun _ => rfl⟩⟩
    have herror : accept v text = .error (.rejected e) := by
      rw [← map_eq_error_iff (f := Prod.snd), map_accept, he]
      rfl
    rw [result_runValidate, validate_eq_accept hv htext, herror]
    rfl

theorem exists?_keyring (text : String) :
    keyring.files.exists? (" " ++ text ++ "\n") = false := by
  obtain ⟨name, rest, hnames⟩ :=
    FileSystem.exists_names_eq_cons (c := ' ') (by decide) (text.toList ++ ['\n'])
  have hpath : " " ++ text ++ "\n" = String.ofList (' ' :: (text.toList ++ ['\n'])) := by
    simp [← String.toList_inj]
  have hne (s : String) (hs : s.toList.head? ≠ some ' ') : String.ofList (' ' :: name) ≠ s := by
    rintro rfl
    simp at hs
  have hentry : keyring.files.entry? [String.ofList (' ' :: name)] = none :=
    List.lookup_eq_none_iff.mpr (by simpa [keyring] using hne "e.key" (by decide))
  rw [hpath]
  exact FileSystem.exists?_eq_false (by simp) hnames
    ⟨hne "." (by decide), hne ".." (by decide)⟩ hentry

/-- With the keyring there is a token for each record that is not too deep, and under each default
kind it is accepted. -/
theorem exists_validate_keyring {r : Identity} (hintegral : ∀ m ∈ r.attributes.toList, m.2.Integral)
    (hdepth : ∀ m ∈ r.attributes.toList, m.2.depth ≤ 126) (flag : Option String) :
    ∃ arg claims, validate default keyring arg ⟨none, some "e.key"⟩ flag
        = .ok (claims, r.withKind (flag.getD "JwtProfile")) ∧
      claims.subject = r.typedId := by
  obtain ⟨hsigning, hencryption, -⟩ := resolve_keyring
  have hvalidator : SecretOptions.validator ⟨none, some "e.key"⟩ default keyring flag
      = .ok (Issuer.accented.validator ((flag.or none).getD "JwtProfile")) :=
    SecretOptions.validator_eq_ok
      (SecretOptions.signingSecret_eq_ok_iff.mpr ⟨hsigning, by decide⟩) hencryption
  rw [Option.or_none] at hvalidator
  obtain ⟨text, hissue, hclaims⟩ := Issuer.exists_issue (i := Issuer.accented) rfl (by decide)
    (by decide) Issuer.encryption_accented r moment.now moment.iv (flag.getD "JwtProfile")
  have hshallow : (ClaimSet.forIdentity r Issuer.name moment.now).toJson.depth ≤ Json.maxDepth :=
    ClaimSet.depth_toJson_le_iff.mpr hdepth
  rw [ClaimSet.ofPayload_payload hintegral, if_pos hshallow] at hclaims
  have htext : readToken keyring.files (" " ++ text ++ "\n") = .ok text :=
    readToken_append (by decide) (Issuer.isSpace_of_mem_issue hissue) (by decide)
      (exists?_keyring text)
  refine ⟨_, _, (validate_eq_accept hvalidator htext).trans
    (accept_eq_ok_iff.mpr ⟨hclaims, ?_⟩), rfl⟩
  exact ClaimSet.toIdentity_forIdentity r Issuer.name moment.now _

/-- What is made from the keyring is read back with white space around it, under a kind. -/
theorem validate_mint_keyring : ∃ (text : String) (claims : ClaimSet) (r r' : Identity),
    mint default keyring ada ⟨none, some "e.key"⟩ false moment = .ok (text, true) ∧
    ada.identity keyring.files = .ok r ∧ r.attributes.toList.map Prod.fst = ["rôle"] ∧
    validate default keyring (" " ++ text ++ "\n") ⟨none, some "e.key"⟩ (some "User")
      = .ok (claims, r') ∧
    r'.typedId = "User#ada" ∧ r'.attributes = r.attributes := by
  have hada : (ada.identity keyring.files).toOption.any (fun r => decide (r.typedId = "ada" ∧
      r.attributes.toList.map Prod.fst = ["rôle"] ∧
      (∀ m ∈ r.attributes.toList, m.2.Integral) ∧
      ∀ m ∈ r.attributes.toList, m.2.depth ≤ 126)) = true := by decide +kernel
  obtain ⟨r, hsome, hproperties⟩ := Option.any_eq_true .. |>.mp hada
  obtain ⟨hid, hnames, hintegral, hdepth⟩ := of_decide_eq_true hproperties
  have hr : ada.identity keyring.files = .ok r := toOption_eq_some_iff.mp hsome
  obtain ⟨text, encrypted, hmint⟩ := exists_mint_keyring false (some "e.key") fun _ => rfl
  obtain ⟨rfl, -⟩ := encrypts_of_mint rfl rfl hmint
  obtain ⟨claims, r', hvalidate, -, hattributes, hid'⟩ := (validate_mint default keyring
    ⟨none, some "e.key"⟩ (some "User")).1 ada false moment text true r hmint hr hintegral hdepth
    ⟨_, resolve_keyring.2.1⟩ " " "\n" (by decide) (by decide) (exists?_keyring text)
  refine ⟨text, claims, r, r', hmint, hr, hnames, hvalidate, ?_, hattributes⟩
  rw [hid', hid]
  rfl

end Command

end IdentityToken
