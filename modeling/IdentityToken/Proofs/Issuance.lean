import IdentityToken.Issuer
import IdentityToken.Proofs.ClaimSet
import IdentityToken.Proofs.Validation.Paths
/-!
# Issued tokens are accepted

An issuer whose secrets are long enough issues a token for every record and every instant, and a
validator with the same secrets reads the record back. The exception are attributes that are too
deep: the issuer writes them, but nobody reads them.
-/

namespace IdentityToken

open Text

namespace Validator

/-- Of signed claims that were found those are read that their octets are. -/
theorem conclude_ofClaims {signing : Option Secret} {secret : Secret} {key : SigningKey}
    (hsigning : signing = some secret) (hblank : secret.isBlank = false)
    (hkey : SigningKey.ofBytes secret.bytes = .ok key) (c : ClaimSet) :
    conclude signing (.ok (SignedToken.ofClaims c key))
      = (ClaimSet.ofPayload c.payload).mapError .format := by
  have hverify := SignedToken.verify_ofClaims c key
  rw [conclude_of_usable hsigning hblank, bind_ok rfl, authenticate, bind_ok (mapError_ok hkey _),
    bind_ok (mapError_ok hverify _), SignedToken.claims_ofClaims]

end Validator

namespace Issuer

/-- The validator with the secrets of an issuer. -/
def validator (i : Issuer) (kind : String) : Validator where
  signing := i.signing
  encryption := i.encryption
  defaultKind := kind

private theorem exists_wrap {i : Issuer}
    (hencryption : ∀ e, i.encryption = some e → e.isBlank = true ∨ e.bytes.length = 32)
    (iv : Crypto.Gcm.Iv) (kind : String) {signed : String} {t : SignedToken}
    (hsigned : Token.parse signed = .ok (.signed t)) :
    ∃ text, i.wrap iv signed = .ok text ∧ (i.validator kind).find text = .ok t := by
  -- A blank secret counts as none on both sides.
  cases husable : Secret.usable? i.encryption with
  | none => exact ⟨signed, by rw [wrap, husable], Validator.find_of_signed _ hsigned⟩
  | some encryption =>
    obtain ⟨hsome, hblank⟩ := Secret.usable?_eq_some_iff.mp husable
    have hlength : encryption.bytes.length = 32 := by simpa [hblank] using hencryption _ hsome
    obtain ⟨key, hkey⟩ := ContentKey.exists_ofBytes hlength
    refine ⟨EncryptedToken.encrypt signed key iv, ?_, ?_⟩
    · simp only [wrap, husable, bind_ok (mapError_ok hkey _)]
    · have hfind : (i.validator kind).find (EncryptedToken.encrypt signed key iv) = _ :=
        Validator.find_encrypt hsome hblank hkey signed iv
      rw [hfind]
      exact mapError_ok (Validator.nestedToken_of_signed hsigned) _

/-- A token is issued, and what a validator makes of it is what is read of its claims. -/
theorem exists_issue {i : Issuer} {secret : Secret} (hsecret : i.signing = some secret)
    (hblank : secret.isBlank = false) (hlength : 32 ≤ secret.bytes.length)
    (hencryption : ∀ e, i.encryption = some e → e.isBlank = true ∨ e.bytes.length = 32)
    (r : Identity) (at_ : Instant) (iv : Crypto.Gcm.Iv) (kind : String) :
    ∃ text, i.issue r at_ iv = .ok text ∧
      (i.validator kind).claims text
        = (ClaimSet.ofPayload (ClaimSet.forIdentity r name at_).payload).mapError .format := by
  have husable : Secret.usable? i.signing = some secret :=
    Secret.usable?_eq_some_iff.mpr ⟨hsecret, hblank⟩
  obtain ⟨key, hkey⟩ := SigningKey.exists_ofBytes hlength
  obtain ⟨text, hwrap, hfind⟩ := exists_wrap hencryption iv kind
    (SignedToken.parse_sign (ClaimSet.forIdentity r name at_) key)
  refine ⟨text, ?_, ?_⟩
  · simp only [issue, husable, bind_ok (mapError_ok hkey _), hwrap]
  · have hsome : (i.validator kind).signing = some secret := hsecret
    rw [Validator.claims_eq, hfind, Validator.conclude_ofClaims hsome hblank hkey]

/-- The whole circle: a token is issued for every record, and a validator with the same secrets
gives the record back if its attributes are at most 126 arrays and objects deep. If not, it refuses
the token for its format. -/
theorem exists_issue_validate (i : Issuer) {secret : Secret} (hsecret : i.signing = some secret)
    (hblank : secret.isBlank = false) (hlength : 32 ≤ secret.bytes.length)
    (hencryption : ∀ e, i.encryption = some e → e.isBlank = true ∨ e.bytes.length = 32)
    (r : Identity) (hintegral : ∀ m ∈ r.attributes.toList, m.2.Integral) (at_ : Instant)
    (iv : Crypto.Gcm.Iv) (kind : String) :
    ∃ text, i.issue r at_ iv = .ok text ∧
      ((∀ m ∈ r.attributes.toList, m.2.depth ≤ 126) →
        (∃ c, (i.validator kind).claims text = .ok c ∧ c.subject = r.typedId ∧
          c.issuer = some "JwtGenerator" ∧
          (∃ issued, c.issuedAt = some issued ∧ issued.seconds = at_.seconds ∧
            issued.nanos = 0) ∧
          c.extra = r.attributes) ∧
        ∃ r', (i.validator kind).validate text = .ok r' ∧ r'.attributes = r.attributes ∧
          r'.typedId = if '#' ∈ r.typedId.toList then r.typedId else kind ++ "#" ++ r.typedId) ∧
      ((∃ m ∈ r.attributes.toList, 126 < m.2.depth) →
        ∃ e, (i.validator kind).validate text = .error e ∧ e.kind = .format) := by
  obtain ⟨text, hissue, hclaims⟩ := exists_issue hsecret hblank hlength hencryption r at_ iv kind
  rw [ClaimSet.ofPayload_payload hintegral] at hclaims
  have hdepth : (ClaimSet.forIdentity r name at_).toJson.depth ≤ Json.maxDepth ↔
      ∀ m ∈ r.attributes.toList, m.2.depth ≤ 126 := ClaimSet.depth_toJson_le_iff
  refine ⟨text, hissue, ?_, ?_⟩
  · intro hshallow
    rw [if_pos (hdepth.mpr hshallow)] at hclaims
    refine ⟨⟨_, hclaims, rfl, rfl, ⟨at_.whole, rfl, rfl, rfl⟩, rfl⟩, r.withKind kind, ?_, rfl, rfl⟩
    rw [Validator.validate, bind_ok hclaims]
    exact mapError_ok (ClaimSet.toIdentity_forIdentity r name at_ kind) _
  · rintro ⟨m, hm, hdeep⟩
    have hnot : ¬(ClaimSet.forIdentity r name at_).toJson.depth ≤ Json.maxDepth :=
      fun h => Nat.not_le.mpr hdeep (hdepth.mp h m hm)
    rw [if_neg hnot] at hclaims
    exact ⟨_, bind_error hclaims _, rfl⟩

/-- Arrays inside one another. -/
def nestedArray : Nat → Json
  | 0 => .null
  | d + 1 => .array [nestedArray d]

theorem depth_nestedArray (d : Nat) : (nestedArray d).depth = d := by
  induction d with
  | zero => rfl
  | succ d ih =>
    have hdepth : (nestedArray d).raw.depth = d := ih
    simp [nestedArray, Json.depth, Json.array, Json.Raw.depth, Json.Raw.depthItems, hdepth]

theorem integral_nestedArray (d : Nat) : (nestedArray d).Integral := by
  induction d with
  | zero => exact fun _ hn => nomatch hn
  | succ d ih =>
    intro n hn
    refine ih n ?_
    simpa [nestedArray, Json.array, Json.Raw.numbers, Json.Raw.numbersItems] using hn

/-- A record with arrays inside one another as its only attribute. -/
def nestedRecord (d : Nat) : Identity where
  typedId := "ada"
  attributes := .ofList [("rôle\n", nestedArray d)]
  typedId_not_blank := by decide
  allowed := by
    intro m hm
    obtain rfl := List.mem_singleton.mp hm
    show AllowedKey "rôle\n"
    decide

theorem integral_nestedRecord (d : Nat) :
    ∀ m ∈ (nestedRecord d).attributes.toList, m.2.Integral := by
  intro m hm
  obtain rfl := List.mem_singleton.mp hm
  exact integral_nestedArray d

theorem depth_nestedRecord (d : Nat) :
    ∀ m ∈ (nestedRecord d).attributes.toList, m.2.depth = d := by
  intro m hm
  obtain rfl := List.mem_singleton.mp hm
  exact depth_nestedArray d

/-- An issuer whose secrets have letters beyond ASCII. -/
def accented : Issuer :=
  ofSecrets ⟨"0123456789abcdef0123456789abcdeü"⟩ ⟨"0123456789abcdef0123456789abcdñ"⟩

theorem encryption_accented (e : Secret) (h : accented.encryption = some e) :
    e.isBlank = true ∨ e.bytes.length = 32 := by
  cases h
  exact .inr (by decide)

/-- The boundary: at a leap second before 1970 a record with 126 arrays is issued and read back,
and one with 127 is issued and refused. -/
theorem exists_issue_validate_boundary :
    (∃ text r', accented.issue (nestedRecord 126) ⟨-1, 1999999999, by decide, by decide⟩
          (Vector.replicate 12 0) = .ok text ∧
      (accented.validator "").validate text = .ok r' ∧ r'.typedId = "#ada") ∧
    ∃ text e, accented.issue (nestedRecord 127) ⟨-1, 1999999999, by decide, by decide⟩
          (Vector.replicate 12 0) = .ok text ∧
      (accented.validator "").validate text = .error e ∧ e.kind = .format := by
  have hcircle (d : Nat) := exists_issue_validate accented rfl (by decide) (by decide)
    encryption_accented (nestedRecord d)
    (fun m hm => List.mem_singleton.mp hm ▸ integral_nestedArray d)
    ⟨-1, 1999999999, by decide, by decide⟩ (Vector.replicate 12 0) ""
  refine ⟨?_, ?_⟩
  · obtain ⟨text, hissue, hshallow, -⟩ := hcircle 126
    have hdepth : (nestedArray 126).depth ≤ 126 := Nat.le_of_eq (depth_nestedArray 126)
    obtain ⟨-, r', hvalidate, -, htypedId⟩ := hshallow fun m hm =>
      List.mem_singleton.mp hm ▸ hdepth
    exact ⟨text, r', hissue, hvalidate, htypedId⟩
  · obtain ⟨text, hissue, -, hdeep⟩ := hcircle 127
    have hdepth : 126 < (nestedArray 127).depth := by rw [depth_nestedArray]; decide
    obtain ⟨e, hvalidate, hkind⟩ := hdeep ⟨_, List.mem_singleton_self _, hdepth⟩
    exact ⟨text, e, hissue, hvalidate, hkind⟩

end Issuer

end IdentityToken
