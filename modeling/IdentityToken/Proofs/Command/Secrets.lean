import IdentityToken.Proofs.Command.Acceptance
/-!
# One secret from every source

A secret is taken from the first place that has one: what the command line gives, then a variable,
then a file that the configuration names. White space around it never counts. So it does not matter
for the key at which of these places a text is put, and a token that is made with a secret from one
place is read with the same secret from any other.
-/

namespace IdentityToken

open Text FileSystem

/-- What a process sees of its variables, which hold octets: a value that is not UTF-8 is as good as
none. -/
def Environment.ofVariables (m : StringMap Bytes) : Environment :=
  m.toList.filterMap fun (name, value) => (ofUtf8? value).map (name, ·)

private theorem lookup_filterMap_utf8 {l : List (String × Bytes)}
    (h : l.Pairwise fun a b => a.1 < b.1) (name : String) :
    (l.filterMap fun (name, value) => (ofUtf8? value).map (name, ·)).lookup name
      = (l.lookup name).bind ofUtf8? := by
  induction l with
  | nil => rfl
  | cons b l ih =>
    obtain ⟨k, value⟩ := b
    obtain ⟨hk, hl⟩ := List.pairwise_cons.mp h
    rw [StringMap.lookup_cons]
    cases hvalue : ofUtf8? value with
    | some text =>
      rw [List.filterMap_cons_some (b := (k, text)) (by simp [hvalue]), StringMap.lookup_cons,
        ih hl]
      by_cases hname : name = k <;> simp [hname, hvalue]
    | none =>
      rw [List.filterMap_cons_none (by simp [hvalue]), ih hl]
      by_cases hname : name = k
      · -- The name stands nowhere else.
        have hnone : l.lookup name = none := List.lookup_eq_none_iff.mpr fun b hb => by
          have hne : name ≠ b.1 := fun e => String.lt_irrefl _ (hname ▸ e ▸ hk b hb)
          simpa using hne
        simp [hname ▸ hnone, hname, hvalue]
      · simp [hname]

theorem Environment.get?_ofVariables_eq_some_iff {m : StringMap Bytes} {name text : String} :
    (ofVariables m).get? name = some text ↔ m.get? name = some (utf8 text) := by
  have hget : (ofVariables m).get? name = (m.get? name).bind ofUtf8? :=
    lookup_filterMap_utf8 m.sorted name
  rw [hget, Option.bind_eq_some_iff]
  simp only [ofUtf8?_eq_some_iff]
  constructor
  · rintro ⟨_, hvalue, rfl⟩
    exact hvalue
  · exact fun h => ⟨_, h, rfl⟩

namespace SecretSource

variable {source : SecretSource} {env : Environment} {fs : FileSystem}

/-- The variable is not there or blank. -/
def Unset (source : SecretSource) (env : Environment) : Prop :=
  ∀ name ∈ source.variableName, ∀ text, env.get? name = some text → Blank text

theorem resolve_of_variable {name text : String} (hname : source.variableName = some name)
    (hget : env.get? name = some text) (hblank : ¬Blank text) :
    source.resolve env fs = .ok (some (.trimmed text)) := by
  have hsome : ((source.variableName.bind env.get?).filter fun text => !decide (Blank text))
      = some text := by
    rw [Option.filter_eq_some_iff]
    exact ⟨Option.bind_eq_some_iff.mpr ⟨name, hname, hget⟩, by simpa using hblank⟩
  rw [resolve, hsome]

theorem resolve_of_unset (h : source.Unset env) :
    source.resolve env fs = match source.file with
      | none => .ok none
      | some path =>
        if fs.exists? path then (fs.readText path).map fun text => some (.trimmed text)
        else .ok none := by
  have hnone : ((source.variableName.bind env.get?).filter fun text => !decide (Blank text))
      = none := by
    rw [Option.filter_eq_none_iff]
    intro text htext
    obtain ⟨name, hname, hget⟩ := Option.bind_eq_some_iff.mp htext
    simpa using h name hname text hget
  cases hfile : source.file <;> simp only [resolve, hnone, hfile]

theorem variable_or_unset (source : SecretSource) (env : Environment) :
    (∃ name text, source.variableName = some name ∧ env.get? name = some text ∧ ¬Blank text) ∨
      source.Unset env := by
  by_cases h : ∃ name text, source.variableName = some name ∧ env.get? name = some text ∧
    ¬Blank text
  · exact .inl h
  · refine .inr fun name hname text hget => Decidable.byContradiction fun hblank => ?_
    exact h ⟨name, text, hname, hget, hblank⟩

end SecretSource

namespace Command.SecretOptions

variable {s : Surroundings} {option : Option String} {source : SecretSource}

/-- What comes of looking for a secret, place by place. Where the command line gives one, the
configured source does not matter, also if what is given is blank. -/
inductive Resolves (s : Surroundings) :
    Option String → SecretSource → Except CommandError (Option Secret) → Prop where
  | named {path text : String} {source : SecretSource} (h : s.files.Offers path text) :
      Resolves s (some path) source (.ok (some ⟨trim text⟩))
  | namedUnreadable {path : String} {source : SecretSource} {entry : Entry} {cause : FileError}
      (h : s.files.lookup path = .ok entry) (hcause : Unreadable entry cause) :
      Resolves s (some path) source
        (.error (.secretFile path (.setup (.unreadableSecret path cause))))
  | literal {text : String} {source : SecretSource} (h : s.files.exists? text = false) :
      Resolves s (some text) source (.ok (some ⟨trim text⟩))
  | inVariable {source : SecretSource} {name text : String}
      (hname : source.variableName = some name)
      (hget : s.environment.get? name = some text) (hblank : ¬Blank text) :
      Resolves s none source (.ok (some ⟨trim text⟩))
  | configured {source : SecretSource} {path text : String} (hunset : source.Unset s.environment)
      (hfile : source.file = some path) (h : s.files.Offers path text) :
      Resolves s none source (.ok (some ⟨trim text⟩))
  | configuredUnreadable {source : SecretSource} {path : String} {entry : Entry}
      {cause : FileError} (hunset : source.Unset s.environment) (hfile : source.file = some path)
      (h : s.files.lookup path = .ok entry) (hcause : Unreadable entry cause) :
      Resolves s none source (.error (.configuredSecret cause))
  | nowhere {source : SecretSource} (hunset : source.Unset s.environment)
      (h : ∀ path ∈ source.file, s.files.exists? path = false) : Resolves s none source (.ok none)

theorem Resolves.resolve_eq {result : Except CommandError (Option Secret)}
    (h : Resolves s option source result) : resolve s option source = result := by
  cases h with
  | named h =>
    have hexists := h.exists?_eq_true
    simp only [resolve, given, hexists, if_true, Secret.load, readText_eq_ok_iff.mpr h]
    rfl
  | namedUnreadable h hcause =>
    have hexists := exists?_eq_true_iff.mpr ⟨_, h⟩
    simp only [resolve, given, hexists, if_true, Secret.load, readText_of_unreadable h hcause]
    rfl
  | literal h =>
    simp only [resolve, given, h, Bool.false_eq_true, if_false]
    rfl
  | inVariable hname hget hblank =>
    rw [resolve, SecretSource.resolve_of_variable hname hget hblank]
    rfl
  | configured hunset hfile h =>
    have hexists := h.exists?_eq_true
    simp only [resolve, SecretSource.resolve_of_unset hunset, hfile, hexists, if_true,
      readText_eq_ok_iff.mpr h]
    rfl
  | configuredUnreadable hunset hfile h hcause =>
    have hexists := exists?_eq_true_iff.mpr ⟨_, h⟩
    simp only [resolve, SecretSource.resolve_of_unset hunset, hfile, hexists, if_true,
      readText_of_unreadable h hcause]
    rfl
  | nowhere hunset h =>
    rw [resolve, SecretSource.resolve_of_unset hunset]
    cases hfile : source.file with
    | none => rfl
    | some path =>
      simp only [h path hfile, Bool.false_eq_true, if_false]
      rfl

theorem exists_resolves (s : Surroundings) (option : Option String) (source : SecretSource) :
    ∃ result, Resolves s option source result := by
  cases option with
  | some path =>
    cases hlookup : s.files.lookup path with
    | error e => exact ⟨_, .literal (exists?_eq_false_iff.mpr ⟨e, hlookup⟩)⟩
    | ok entry =>
      rcases offers_or_unreadable hlookup with ⟨text, htext⟩ | ⟨cause, hcause⟩
      · exact ⟨_, .named htext⟩
      · exact ⟨_, .namedUnreadable hlookup hcause⟩
  | none =>
    rcases source.variable_or_unset s.environment with ⟨name, text, hname, hget, hblank⟩ | hunset
    · exact ⟨_, .inVariable hname hget hblank⟩
    · cases hfile : source.file with
      | none => exact ⟨_, .nowhere hunset (by simp [hfile])⟩
      | some path =>
        cases hlookup : s.files.lookup path with
        | error e =>
          refine ⟨_, .nowhere hunset ?_⟩
          simpa [hfile] using exists?_eq_false_iff.mpr ⟨e, hlookup⟩
        | ok entry =>
          rcases offers_or_unreadable hlookup with ⟨text, htext⟩ | ⟨cause, hcause⟩
          · exact ⟨_, .configured hunset hfile htext⟩
          · exact ⟨_, .configuredUnreadable hunset hfile hlookup hcause⟩

theorem resolve_eq_iff {result : Except CommandError (Option Secret)} :
    resolve s option source = result ↔ Resolves s option source result := by
  refine ⟨?_, Resolves.resolve_eq⟩
  rintro rfl
  obtain ⟨result, h⟩ := exists_resolves s option source
  rwa [h.resolve_eq]

/-- A text is put at a place where a secret is looked for, and there is none before it. -/
inductive Delivers (text : String) (s : Surroundings) : Option String → SecretSource → Prop where
  | literal {source : SecretSource} (h : s.files.exists? text = false) :
      Delivers text s (some text) source
  | named {path : String} {source : SecretSource} (h : s.files.Offers path text) :
      Delivers text s (some path) source
  | inVariable {source : SecretSource} {name : String} (hname : source.variableName = some name)
      (hget : s.environment.get? name = some text) (hblank : ¬Blank text) :
      Delivers text s none source
  | configured {source : SecretSource} {path : String} (hunset : source.Unset s.environment)
      (hfile : source.file = some path) (h : s.files.Offers path text) :
      Delivers text s none source

theorem Delivers.resolves {text : String} (h : Delivers text s option source) :
    Resolves s option source (.ok (some ⟨trim text⟩)) := by
  cases h with
  | literal h => exact .literal h
  | named h => exact .named h
  | inVariable hname hget hblank => exact .inVariable hname hget hblank
  | configured hunset hfile h => exact .configured hunset hfile h

theorem Delivers.resolve_eq {text : String} (h : Delivers text s option source) :
    resolve s option source = .ok (some ⟨trim text⟩) := h.resolves.resolve_eq

end Command.SecretOptions

namespace Command

open SecretOptions

variable {c c' : Config} {s s' : Surroundings} {o o' : SecretOptions}

/-- The secrets that a token is made with can be put elsewhere before it is read. -/
theorem exists_validator_of_delivers {signing : String} {identity : IdentityOptions}
    {signedOnly encrypted : Bool} {fresh : Fresh} {text : String} {encryption : Option Secret}
    (hmint : mint c s identity o signedOnly fresh = .ok (text, encrypted))
    (hsigning : Delivers signing s o.signing c.signing)
    (hsigning' : Delivers signing s' o'.signing c'.signing)
    (hneeded : signedOnly = false → c.encrypt = true → ∃ e,
      Delivers e s o.encryption c.encryption ∧ Delivers e s' o'.encryption c'.encryption)
    (hencryption : o'.encryptionSecret? c' s' = .ok encryption) (kind : Option String) :
    ∃ r v, identity.identity s.files = .ok r ∧ o'.validator c' s' kind = .ok v ∧
      v.claims text = (ClaimSet.ofPayload
        (ClaimSet.forIdentity r Issuer.name fresh.now).payload).mapError .format ∧
      ((∀ m ∈ r.attributes.toList, m.2.Integral) → (∀ m ∈ r.attributes.toList, m.2.depth ≤ 126) →
        v.validate text = .ok (r.withKind ((kind.or c'.defaultKind).getD "JwtProfile"))) := by
  obtain ⟨r, -, hr, -⟩ := mint_eq_ok_iff.mp hmint
  obtain ⟨secret, hsecret, hmade⟩ := exists_signingSecret_of_mint hmint
  obtain ⟨hfound, hblank⟩ := signingSecret_eq_ok_iff.mp hsecret
  have hsame : secret = ⟨trim signing⟩ :=
    Option.some.inj (Except.ok.inj (hfound.symm.trans hsigning.resolve_eq))
  have hsecret' : o'.signingSecret c' s' = .ok secret :=
    signingSecret_eq_ok_iff.mpr ⟨hsame ▸ hsigning'.resolve_eq, hblank⟩
  have hsame' (hsigned : signedOnly = false) (hencrypt : c.encrypt = true) :
      ∃ e, encryption = some e ∧ o.encryptionSecret c s = .ok e := by
    obtain ⟨e, he⟩ := hmade hsigned hencrypt
    obtain ⟨text, hdelivers, hdelivers'⟩ := hneeded hsigned hencrypt
    have hfirst : some e = some ⟨trim text⟩ := Except.ok.inj
      ((encryptionSecret_eq_ok_iff.mp he).1.symm.trans hdelivers.resolve_eq)
    have hsecond : encryption = some ⟨trim text⟩ :=
      Except.ok.inj (hencryption.symm.trans hdelivers'.resolve_eq)
    exact ⟨e, hsecond.trans hfirst.symm, he⟩
  exact ⟨r, _, hr, validator_eq_ok hsecret' hencryption,
    claims_of_mint hmint hr hsecret hsame' _,
    fun hintegral hdepth => validate_of_mint hmint hr hsecret hsame' hintegral hdepth _⟩

/-- A secret is looked for by the rules of `Resolves`, and of a process's variables those count
whose octets are UTF-8. A text gives one key at all places where it can be put. So a token that was
made with secrets from some places is read with the same secrets from any others: what it carries is
read, and the identity comes back if it is not too deep and its numbers are integers. -/
theorem resolve_of_every_source :
    (∀ s option source result,
      resolve s option source = result ↔ Resolves s option source result) ∧
    (∀ m name text, (Environment.ofVariables m).get? name = some text ↔
      m.get? name = some (utf8 text)) ∧
    (∀ text s option source s' option' source', Delivers text s option source →
      Delivers text s' option' source' →
      ∃ secret, resolve s option source = .ok (some secret) ∧
        resolve s' option' source' = .ok (some secret) ∧ secret.bytes = utf8 (trim text)) ∧
    ∀ (c c' : Config) (s s' : Surroundings) (o o' : SecretOptions) signing identity signedOnly fresh
      text encrypted encryption kind,
      mint c s identity o signedOnly fresh = .ok (text, encrypted) →
      Delivers signing s o.signing c.signing → Delivers signing s' o'.signing c'.signing →
      (signedOnly = false → c.encrypt = true → ∃ e,
        Delivers e s o.encryption c.encryption ∧ Delivers e s' o'.encryption c'.encryption) →
      o'.encryptionSecret? c' s' = .ok encryption →
      ∃ r v, identity.identity s.files = .ok r ∧ o'.validator c' s' kind = .ok v ∧
        v.claims text = (ClaimSet.ofPayload
          (ClaimSet.forIdentity r "JwtGenerator" fresh.now).payload).mapError .format ∧
        ((∀ m ∈ r.attributes.toList, m.2.Integral) →
          (∀ m ∈ r.attributes.toList, m.2.depth ≤ 126) →
          ∃ r', v.validate text = .ok r' ∧ r'.attributes = r.attributes ∧
            r'.typedId = if '#' ∈ r.typedId.toList then r.typedId
              else (kind.or c'.defaultKind).getD "JwtProfile" ++ "#" ++ r.typedId) := by
  refine ⟨fun _ _ _ _ => resolve_eq_iff, fun _ _ _ => Environment.get?_ofVariables_eq_some_iff,
    ?_, ?_⟩
  · intro text s option source s' option' source' h h'
    exact ⟨⟨trim text⟩, h.resolve_eq, h'.resolve_eq, rfl⟩
  · intro c c' s s' o o' signing identity signedOnly fresh text encrypted encryption kind hmint
      hsigning hsigning' hneeded hencryption
    obtain ⟨r, v, hr, hv, hclaims, hvalidate⟩ :=
      exists_validator_of_delivers hmint hsigning hsigning' hneeded hencryption kind
    exact ⟨r, v, hr, hv, hclaims,
      fun hintegral hdepth => ⟨_, hvalidate hintegral hdepth, rfl, rfl⟩⟩

/-- The secret for encryption of the keyring in a file that a configuration names. -/
private def vault : Surroundings where
  files := ⟨[(["k"], .directory),
    (["k", "e.key"], .file (utf8 " 0123456789abcdef0123456789abcdñ\n"))], []⟩
  environment := .ofVariables (.ofList [("BAD", [0xFF]), ("NOTHING", utf8 " ")])

/-- A token that is made from the keyring is read where the signing secret stands on the command
line and the other in a file that the configuration names, beside a variable that is blank. -/
theorem validate_mint_vault : ∃ (text : String) (v : Validator) (r : Identity),
    mint default keyring ⟨.subject (some "User") "ada", []⟩ ⟨none, some "e.key"⟩ false moment
      = .ok (text, true) ∧
    SecretOptions.validator ⟨some "0123456789abcdef0123456789abcdeü ", none⟩
      { (default : Config) with encryption := ⟨some "NOTHING", some "k/e.key"⟩ } vault none
      = .ok v ∧
    v.validate text = .ok r ∧ r.typedId = "User#ada" := by
  let elsewhere : Config :=
    { (default : Config) with encryption := ⟨some "NOTHING", some "k/e.key"⟩ }
  have hsigning : Delivers "0123456789abcdef0123456789abcdeü " keyring none
      (default : Config).signing := .inVariable rfl rfl (by decide)
  have hsigning' : Delivers "0123456789abcdef0123456789abcdeü " vault
      (some "0123456789abcdef0123456789abcdeü ") elsewhere.signing := .literal (by decide +kernel)
  have hencryption : Delivers " 0123456789abcdef0123456789abcdñ\n" keyring (some "e.key")
      (default : Config).encryption :=
    .named (readText_eq_ok_iff.mp (toOption_eq_some_iff.mp (by decide +kernel)))
  have hunset : elsewhere.encryption.Unset vault.environment := by
    rintro _ ⟨⟩ text htext
    rw [vault, Environment.get?_ofVariables_eq_some_iff] at htext
    have hblank : text = " " := utf8_injective (Option.some.inj (htext.symm.trans rfl))
    rw [hblank]
    decide
  have hencryption' : Delivers " 0123456789abcdef0123456789abcdñ\n" vault none
      elsewhere.encryption :=
    .configured hunset rfl (readText_eq_ok_iff.mp (toOption_eq_some_iff.mp (by decide +kernel)))
  have hidentity : ∃ r, IdentityOptions.identity ⟨.subject (some "User") "ada", []⟩ keyring.files
      = .ok r := ⟨_, rfl⟩
  obtain ⟨text, encrypted, hmint⟩ :=
    exists_mint_of_identity hidentity false (some "e.key") fun _ => rfl
  obtain ⟨rfl, -⟩ := encrypts_of_mint rfl rfl hmint
  obtain ⟨r, v, hr, hv, -, hvalidate⟩ := resolve_of_every_source.2.2.2 default elsewhere keyring
    vault _ ⟨some "0123456789abcdef0123456789abcdeü ", none⟩ _ _ _ _ text true _ none hmint hsigning
    hsigning' (fun _ _ => ⟨_, hencryption, hencryption'⟩) hencryption'.resolve_eq
  obtain rfl : _ = r := Except.ok.inj hr
  obtain ⟨r', hr', -, htypedId⟩ := hvalidate (by simp) (by simp)
  exact ⟨text, v, r', hmint, hv, hr', htypedId⟩

end Command

end IdentityToken
