import IdentityToken.Proofs.Command.Kinds
/-!
# The kind of subjects that have none

A subject without a kind gets the default kind, which the command line, the configuration or else
the program gives. A configuration whose default kind is blank or has a mark of its own is refused.
Nothing refuses such a kind on the command line: the token is accepted, and the record is taken
apart at the first mark of the kind.
-/

namespace IdentityToken

open Text

namespace Config

variable {text : String} {v : Values} {c : Config}

theorem ofValues_eq_ok_iff :
    ofValues v = .ok c ↔ c.signing = v.signing ∧ c.encryption = v.encryption ∧
      c.encrypt = v.encrypt ∧ c.defaultKind = v.defaultKind ∧ c.level = v.level := by
  constructor
  · intro h
    unfold ofValues at h
    split at h
    · obtain rfl := Except.ok.inj h
      exact ⟨rfl, rfl, rfl, rfl, rfl⟩
    · split at h <;> cases h
  · obtain ⟨signing, encryption, encrypt, defaultKind, level, proper⟩ := c
    obtain ⟨signing', encryption', encrypt', defaultKind', level'⟩ := v
    rintro ⟨rfl, rfl, rfl, rfl, rfl⟩
    exact dif_pos proper

theorem exists_ofValues_iff :
    (∃ c, ofValues v = .ok c) ↔ ∀ kind ∈ v.defaultKind, ProperKind kind := by
  constructor
  · rintro ⟨c, h⟩
    rw [← (ofValues_eq_ok_iff.mp h).2.2.2.1]
    exact c.proper
  · intro h
    exact ⟨_, dif_pos h⟩

theorem ofValues_of_blank {kind : String} (hkind : v.defaultKind = some kind)
    (h : Blank kind) : ofValues v = .error .blankKind := by
  have hproper : ¬∀ kind ∈ v.defaultKind, ProperKind kind := fun hall => (hall kind hkind).1 h
  rw [ofValues, dif_neg hproper, if_pos (by rwa [hkind])]

theorem ofValues_of_mark {kind : String} (hkind : v.defaultKind = some kind)
    (hblank : ¬Blank kind) (h : Identity.separator ∈ kind.toList) :
    ofValues v = .error .separatorInKind := by
  have hproper : ¬∀ kind ∈ v.defaultKind, ProperKind kind := fun hall => (hall kind hkind).2 h
  rw [ofValues, dif_neg hproper, if_neg (by rwa [hkind])]

theorem ofYaml_of_values (h : (Yaml.Document.ofText? text).bind values? = some v) :
    ofYaml text = ofValues v := by
  rw [ofYaml, h]

end Config

namespace Command

variable {c : Config} {s : Surroundings} {o : SecretOptions} {arg : String}
  {flag : Option String} {claims : ClaimSet} {r : Identity}

/-- The kind that subjects without one get. -/
def effectiveKind (c : Config) (flag : Option String) : String :=
  (flag.or c.defaultKind).getD "JwtProfile"

theorem properKind_effectiveKind_iff :
    ProperKind (effectiveKind c flag) ↔ ∀ kind ∈ flag, ProperKind kind := by
  cases flag with
  | some kind => simp [effectiveKind]
  | none =>
    refine iff_of_true ?_ (by simp)
    cases hkind : c.defaultKind with
    | none =>
      simp only [effectiveKind, hkind, Option.or_none, Option.getD_none]
      decide
    | some kind =>
      simp only [effectiveKind, hkind, Option.none_or, Option.getD_some]
      exact c.proper kind hkind

theorem SecretOptions.validator_eq_ok_iff {v : Validator} :
    o.validator c s flag = .ok v ↔ ∃ signing encryption, o.signingSecret c s = .ok signing ∧
      o.encryptionSecret? c s = .ok encryption ∧
      v = ⟨some signing, encryption, effectiveKind c flag⟩ := by
  constructor
  · intro h
    obtain ⟨signing, hsigning, hrest⟩ := bind_eq_ok_iff.mp h
    obtain ⟨encryption, hencryption, -⟩ := bind_eq_ok_iff.mp hrest
    rw [validator_eq_ok hsigning hencryption] at h
    exact ⟨signing, encryption, hsigning, hencryption, (Except.ok.inj h).symm⟩
  · rintro ⟨signing, encryption, hsigning, hencryption, rfl⟩
    exact validator_eq_ok hsigning hencryption

/-- The default kind has its part in the identity only, and not in what is accepted. -/
theorem validate_eq_ok_iff :
    validate c s arg o flag = .ok (claims, r) ↔ ∃ signing encryption text,
      o.signingSecret c s = .ok signing ∧ o.encryptionSecret? c s = .ok encryption ∧
      readToken s.files arg = .ok text ∧
      (⟨some signing, encryption, "JwtProfile"⟩ : Validator).claims text = .ok claims ∧
      claims.toIdentity (effectiveKind c flag) = .ok r := by
  simp only [validate, bind_eq_ok_iff, SecretOptions.validator_eq_ok_iff, accept_eq_ok_iff]
  constructor
  · rintro ⟨_, ⟨signing, encryption, hsigning, hencryption, rfl⟩, text, htext, hclaims, hr⟩
    exact ⟨signing, encryption, text, hsigning, hencryption, htext, hclaims, hr⟩
  · rintro ⟨signing, encryption, text, hsigning, hencryption, htext, hclaims, hr⟩
    exact ⟨_, ⟨signing, encryption, hsigning, hencryption, rfl⟩, text, htext, hclaims, hr⟩

theorem typedId_of_validate (h : validate c s arg o flag = .ok (claims, r))
    (hmark : Identity.separator ∉ claims.subject.toList) :
    r.typedId = Identity.typed (effectiveKind c flag) claims.subject := by
  obtain ⟨-, -, -, -, -, -, -, hr⟩ := validate_eq_ok_iff.mp h
  rw [(ClaimSet.toIdentity_eq_ok_iff.mp hr).2.1]
  exact if_neg hmark

/-- A token that is accepted under one default kind is accepted under each. -/
theorem exists_validate_of_flag (h : validate c s arg o flag = .ok (claims, r))
    (flag' : Option String) :
    ∃ r', validate c s arg o flag' = .ok (claims, r') ∧ r'.attributes = r.attributes := by
  obtain ⟨signing, encryption, text, hsigning, hencryption, htext, hclaims, hr⟩ :=
    validate_eq_ok_iff.mp h
  have hnamed := (claims.exists_toIdentity_iff _).mp ⟨r, hr⟩
  obtain ⟨r', hr'⟩ := (claims.exists_toIdentity_iff (effectiveKind c flag')).mpr hnamed
  refine ⟨r', validate_eq_ok_iff.mpr
    ⟨signing, encryption, text, hsigning, hencryption, htext, hclaims, hr'⟩, ?_⟩
  rw [(ClaimSet.toIdentity_eq_ok_iff.mp hr').2.2, (ClaimSet.toIdentity_eq_ok_iff.mp hr).2.2]

/-- A configuration is refused if its default kind is blank or has a mark. A default kind on the
command line is always taken, and a token is accepted with each if with one. The record of a subject
without a kind has the default kind as its kind and the subject as its id, and this kind is not
blank, exactly if none is given on the command line or one that a configuration could have. Of a
kind with a mark the text before the first mark is the kind, and the rest goes to the id. -/
theorem kind_id_of_validate (c : Config) (s : Surroundings) (o : SecretOptions) (arg : String)
    (flag : Option String) :
    (∀ text v, (Yaml.Document.ofText? text).bind Config.values? = some v →
      ((∃ c, Config.ofYaml text = .ok c) ↔
        ∀ kind ∈ v.defaultKind, ¬Blank kind ∧ '#' ∉ kind.toList) ∧
      (∀ c, Config.ofYaml text = .ok c → c.defaultKind = v.defaultKind) ∧
      ∀ kind, v.defaultKind = some kind →
        (Blank kind → Config.ofYaml text = .error .blankKind) ∧
        (¬Blank kind → '#' ∈ kind.toList → Config.ofYaml text = .error .separatorInKind)) ∧
    ∀ claims r, validate c s arg o flag = .ok (claims, r) →
      (∀ flag', ∃ r', validate c s arg o flag' = .ok (claims, r') ∧
        r'.attributes = r.attributes) ∧
      ('#' ∉ claims.subject.toList →
        r.typedId = effectiveKind c flag ++ "#" ++ claims.subject ∧
        (r.kind? = some (effectiveKind c flag) ∧ ¬Blank (effectiveKind c flag) ∧
            r.id = claims.subject ↔
          ∀ kind ∈ flag, ¬Blank kind ∧ '#' ∉ kind.toList) ∧
        (r.kind? = some (effectiveKind c flag) ↔ '#' ∉ (effectiveKind c flag).toList) ∧
        ∀ before after, '#' ∉ before.toList → effectiveKind c flag = before ++ "#" ++ after →
          r.kind? = some before ∧ r.id = after ++ "#" ++ claims.subject) := by
  refine ⟨?_, ?_⟩
  · intro text v hv
    rw [Config.ofYaml_of_values hv]
    exact ⟨Config.exists_ofValues_iff, fun c hc => (Config.ofValues_eq_ok_iff.mp hc).2.2.2.1,
      fun kind hkind => ⟨Config.ofValues_of_blank hkind, Config.ofValues_of_mark hkind⟩⟩
  · intro claims r h
    refine ⟨exists_validate_of_flag h, fun hmark => ?_⟩
    have htypedId := typedId_of_validate h hmark
    obtain ⟨hkind, hid⟩ := Identity.kind?_eq_some_kind_iff htypedId
    refine ⟨htypedId, ?_, hkind,
      fun before after hbefore hsplit => Identity.kind?_id_of_typed hbefore hsplit htypedId⟩
    rw [hkind, hid]
    refine Iff.trans ?_ (@properKind_effectiveKind_iff c flag)
    exact ⟨fun ⟨hunmarked, hblank, _⟩ => ⟨hblank, hunmarked⟩,
      fun ⟨hblank, hunmarked⟩ => ⟨hunmarked, hblank, hunmarked⟩⟩

/-- With the keyring a token for a subject is accepted under each default kind. -/
private theorem exists_validate_subject (id : String) (hblank : ¬Blank id) (flag : Option String) :
    ∃ arg claims r, validate default keyring arg ⟨none, some "e.key"⟩ flag = .ok (claims, r) ∧
      claims.subject = id := by
  obtain ⟨r, -, rfl, hattributes⟩ := Identity.exists_ofTypedId hblank
  have hnone : ∀ m, m ∉ r.attributes.toList := by simp [hattributes]
  obtain ⟨arg, claims, h, hsubject⟩ := exists_validate_keyring (r := r)
    (fun m hm => absurd hm (hnone m)) (fun m hm => absurd hm (hnone m)) flag
  exact ⟨arg, claims, _, h, hsubject⟩

/-- A configuration may have the kind `User`, and under this kind on the command line a subject has
it. -/
theorem kind_id_of_validate_user :
    (∃ c, Config.ofYaml "token: \x7bdefault_kind: User\x7d" = .ok c) ∧
    ∃ arg claims r,
      validate default keyring arg ⟨none, some "e.key"⟩ (some "User") = .ok (claims, r) ∧
        claims.subject = "ada" ∧ r.kind? = some "User" ∧ r.id = "ada" := by
  have hproper : ∀ kind ∈ some "User", ¬Blank kind ∧ '#' ∉ kind.toList := by
    rintro _ ⟨⟩
    decide
  obtain ⟨arg, claims, r, h, hsubject⟩ := exists_validate_subject "ada" (by decide) (some "User")
  obtain ⟨hconfig, hvalidate⟩ :=
    kind_id_of_validate default keyring ⟨none, some "e.key"⟩ arg (some "User")
  constructor
  · obtain ⟨v, hv, hkind⟩ := Option.map_eq_some_iff.mp (show
      ((Yaml.Document.ofText? "token: \x7bdefault_kind: User\x7d").bind Config.values?).map
        (·.defaultKind) = some (some "User") by decide +kernel)
    exact (hconfig _ v hv).1.mpr (hkind ▸ hproper)
  · obtain ⟨-, hparts⟩ := hvalidate claims r h
    obtain ⟨-, hiff, -⟩ := hparts (by rw [hsubject]; decide)
    obtain ⟨hkind, -, hid⟩ := hiff.mpr hproper
    exact ⟨arg, claims, r, h, hsubject, hkind, hid.trans hsubject⟩

/-- A kind with a mark and a blank kind are refused in a configuration, but on the command line they
are taken: a subject gets a kind that nobody named, or a blank one. -/
theorem validate_accepts_improper_kinds :
    Config.ofYaml "token: \x7bdefault_kind: 'A#B'\x7d" = .error .separatorInKind ∧
    Config.ofYaml "token: \x7bdefault_kind: ' '\x7d" = .error .blankKind ∧
    (∃ arg claims r,
      validate default keyring arg ⟨none, some "e.key"⟩ (some "A#B") = .ok (claims, r) ∧
        claims.subject = "c" ∧ r.kind? = some "A" ∧ r.id = "B#c") ∧
    ∃ arg claims r,
      validate default keyring arg ⟨none, some "e.key"⟩ (some " ") = .ok (claims, r) ∧
        claims.subject = "c" ∧ r.kind? = some " " ∧ r.id = "c" := by
  have hsubject {claims : ClaimSet} (h : claims.subject = "c") :
      Identity.separator ∉ claims.subject.toList := by
    rw [h]
    decide
  refine ⟨?_, ?_, ?_, ?_⟩
  · obtain ⟨v, hv, hkind⟩ := Option.map_eq_some_iff.mp (show
      ((Yaml.Document.ofText? "token: \x7bdefault_kind: 'A#B'\x7d").bind Config.values?).map
        (·.defaultKind) = some (some "A#B") by decide +kernel)
    rw [Config.ofYaml_of_values hv]
    exact Config.ofValues_of_mark hkind (by decide) (by decide)
  · obtain ⟨v, hv, hkind⟩ := Option.map_eq_some_iff.mp (show
      ((Yaml.Document.ofText? "token: \x7bdefault_kind: ' '\x7d").bind Config.values?).map
        (·.defaultKind) = some (some " ") by decide +kernel)
    rw [Config.ofYaml_of_values hv]
    exact Config.ofValues_of_blank hkind (by decide)
  · obtain ⟨arg, claims, r, h, hc⟩ := exists_validate_subject "c" (by decide) (some "A#B")
    have htypedId : r.typedId = Identity.typed "A#B" claims.subject :=
      typedId_of_validate h (hsubject hc)
    have hsplit : "A#B" = Identity.typed "A" "B" := rfl
    obtain ⟨hkind, hid⟩ := Identity.kind?_id_of_typed (by decide) hsplit htypedId
    exact ⟨arg, claims, r, h, hc, hkind, by rw [hid, hc]; rfl⟩
  · obtain ⟨arg, claims, r, h, hc⟩ := exists_validate_subject "c" (by decide) (some " ")
    have htypedId : r.typedId = Identity.typed " " claims.subject :=
      typedId_of_validate h (hsubject hc)
    obtain ⟨hkind, hid⟩ := Identity.kind?_id_of_typedId (by decide) htypedId
    exact ⟨arg, claims, r, h, hc, hkind, hid.trans hc⟩

end Command

end IdentityToken
