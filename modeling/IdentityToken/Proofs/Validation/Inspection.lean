import IdentityToken.Proofs.Validation.Authenticators
import IdentityToken.Token.Inspection
/-!
# What is seen of a token and what is accepted

Looking into a token reads the payload that a validation reads, without a look at the signature. So
a token that is accepted shows the very claims that were accepted, or none if it is encrypted. Of
any text, its form and its payload decide what is seen and why nothing is seen.
-/

namespace IdentityToken

open Text

/-- The segment of a token that everybody can read. -/
def Token.payload? : Token → Option String
  | .signed t => some t.payloadSegment
  | .unsecured t => some t.payloadSegment
  | .encrypted _ => none

namespace Inspection

/-- A segment is the base64url of a value in JSON. -/
def Holds (segment : String) (x : Json) : Prop :=
  ∃ b, segment = Base64Url.encode b ∧ Json.ofBytes? b = some x

theorem decodeClaims_eq_ok_iff {segment : String} {x : Json} :
    decodeClaims segment = .ok x ↔ Holds segment x := by
  simp only [Holds, ← Base64Url.decode?_eq_some_iff]
  unfold decodeClaims
  cases Base64Url.decode? segment with
  | none => simp
  | some b => cases hx : Json.ofBytes? b <;> simp [hx]

/-- Why a segment holds no value. -/
inductive Refuses (segment : String) : FormatError → Prop where
  | notBase64 (h : ∀ b, segment ≠ Base64Url.encode b) :
      Refuses segment (.claimsNotBase64 segment)
  | notJson (b : Bytes) (h : segment = Base64Url.encode b) (hb : Json.ofBytes? b = none) :
      Refuses segment (.claimsNotJson b)

theorem decodeClaims_eq_error_iff {segment : String} {e : FormatError} :
    decodeClaims segment = .error e ↔ Refuses segment e := by
  constructor
  · intro h
    unfold decodeClaims at h
    split at h
    · next hsegment =>
      cases h
      refine .notBase64 fun b hb => ?_
      rw [Base64Url.decode?_eq_some_iff.mpr hb] at hsegment
      cases hsegment
    · next b hsegment =>
      split at h
      · next hb =>
        cases h
        exact .notJson b (Base64Url.decode?_eq_some_iff.mp hsegment) hb
      · cases h
  · intro h
    cases h with
    | notBase64 h =>
      have hnone : Base64Url.decode? segment = none :=
        Option.eq_none_iff_forall_ne_some.mpr fun b hb => h b (Base64Url.decode?_eq_some_iff.mp hb)
      simp only [decodeClaims, hnone]
    | notJson b h hb => simp only [decodeClaims, Base64Url.decode?_eq_some_iff.mpr h, hb]

theorem claimsOf_eq (t : Token) :
    claimsOf t = match t.payload? with
      | none => .ok none
      | some segment => (decodeClaims segment).map some := by
  cases t <;> rfl

/-- The claims that are seen of a token: the value that its payload holds. -/
def Shows (t : Token) (claims : Option Json) : Prop :=
  match t.payload? with
  | none => claims = none
  | some segment => ∃ x, claims = some x ∧ Holds segment x

theorem claimsOf_eq_ok_iff {t : Token} {claims : Option Json} :
    claimsOf t = .ok claims ↔ Shows t claims := by
  rw [claimsOf_eq, Shows]
  cases t.payload? with
  | none => simp [eq_comm]
  | some segment =>
    simp only [map_eq_ok_iff, decodeClaims_eq_ok_iff]
    exact exists_congr fun x => and_comm.trans (and_congr_left' eq_comm)

theorem claimsOf_eq_error_iff {t : Token} {e : FormatError} :
    claimsOf t = .error e ↔ ∃ segment, t.payload? = some segment ∧ Refuses segment e := by
  rw [claimsOf_eq]
  cases t.payload? with
  | none => simp
  | some segment => simp [map_eq_error_iff, decodeClaims_eq_error_iff]

variable {text : String}

theorem ofText_eq_ok_iff {i : Inspection} :
    ofText text = .ok i ↔
      ∃ t, Token.parse text = .ok t ∧ i.form = t.form ∧ i.header = t.header ∧ Shows t i.claims := by
  obtain ⟨form, header, claims⟩ := i
  simp only [ofText, bind_eq_ok_iff, Except.ok.injEq, Inspection.mk.injEq, claimsOf_eq_ok_iff]
  refine exists_congr fun t => and_congr_right fun _ => ?_
  constructor
  · rintro ⟨_, hshows, rfl, rfl, rfl⟩
    exact ⟨rfl, rfl, hshows⟩
  · rintro ⟨rfl, rfl, hshows⟩
    exact ⟨claims, hshows, rfl, rfl, rfl⟩

theorem ofText_eq_error_iff {e : FormatError} :
    ofText text = .error e ↔ Token.parse text = .error e ∨
      ∃ t segment, Token.parse text = .ok t ∧ t.payload? = some segment ∧ Refuses segment e := by
  unfold ofText
  cases hparse : Token.parse text with
  | error e' => simp [bind_error rfl]
  | ok t =>
    rw [bind_ok rfl]
    cases hclaims : claimsOf t with
    | error e' =>
      have hrefuses := claimsOf_eq_error_iff (t := t) (e := e)
      rw [hclaims] at hrefuses
      simpa [bind_error rfl] using hrefuses
    | ok claims =>
      have hnot : ∀ segment, t.payload? = some segment → ¬Refuses segment e := by
        intro segment hsegment hrefuses
        cases hclaims.symm.trans (claimsOf_eq_error_iff.mpr ⟨segment, hsegment, hrefuses⟩)
      simpa [bind_ok rfl] using hnot

theorem exists_ofText_iff :
    (∃ i, ofText text = .ok i) ↔ ∃ t, Token.parse text = .ok t ∧
      ∀ segment, t.payload? = some segment → ∃ x, Holds segment x := by
  simp only [ofText_eq_ok_iff]
  constructor
  · rintro ⟨i, t, hparse, -, -, hshows⟩
    refine ⟨t, hparse, fun segment hsegment => ?_⟩
    rw [Shows, hsegment] at hshows
    obtain ⟨x, -, hx⟩ := hshows
    exact ⟨x, hx⟩
  · rintro ⟨t, hparse, hholds⟩
    cases hpayload : t.payload? with
    | none => exact ⟨⟨t.form, t.header, none⟩, t, hparse, rfl, rfl, by rw [Shows, hpayload]⟩
    | some segment =>
      obtain ⟨x, hx⟩ := hholds segment hpayload
      refine ⟨⟨t.form, t.header, some x⟩, t, hparse, rfl, rfl, ?_⟩
      rw [Shows, hpayload]
      exact ⟨x, rfl, hx⟩

end Inspection

namespace Validator

variable {v : Validator} {text : String} {c : ClaimSet}

/-- The claims of a signed token that is accepted are the value that its payload holds. -/
theorem holds_of_claims {t : SignedToken} (hparse : Token.parse text = .ok (.signed t))
    (hc : v.claims text = .ok c) :
    ∃ x, Inspection.Holds t.payloadSegment x ∧ ClaimSet.ofJson x = .ok c := by
  rw [claims_eq, v.find_of_signed hparse] at hc
  obtain ⟨secret, t', -, -, ht, hauth⟩ := conclude_eq_ok_iff.mp hc
  obtain rfl := Except.ok.inj ht
  obtain ⟨-, -, -, hclaims⟩ := authenticate_eq_ok_iff.mp hauth
  obtain ⟨b, hb, hpayload⟩ := SignedToken.claims_eq_ok_iff.mp hclaims
  obtain ⟨x, hx, hof⟩ := ClaimSet.ofPayload_eq_ok_iff.mp hpayload
  exact ⟨x, ⟨b, Base64Url.decode?_eq_some_iff.mp hb, hx⟩, hof⟩

theorem exists_ofText_of_claims (hc : v.claims text = .ok c) :
    ∃ i, Inspection.ofText text = .ok i ∧
      (i.form = .signed ∧ (∃ x, i.claims = some x ∧ ClaimSet.ofJson x = .ok c) ∨
        i.form = .encrypted ∧ i.claims = none) := by
  rcases parse_of_claims_eq_ok hc with ⟨t, hparse⟩ | ⟨t, hparse⟩
  · obtain ⟨x, hholds, hof⟩ := holds_of_claims hparse hc
    refine ⟨⟨.signed, t.header, some x⟩, ?_, .inl ⟨rfl, x, rfl, hof⟩⟩
    exact Inspection.ofText_eq_ok_iff.mpr ⟨_, hparse, rfl, rfl, x, rfl, hholds⟩
  · refine ⟨⟨.encrypted, t.header, none⟩, ?_, .inr ⟨rfl, rfl⟩⟩
    exact Inspection.ofText_eq_ok_iff.mpr ⟨_, hparse, rfl, rfl, rfl⟩

end Validator

/-- What is accepted is what is seen: looking into an accepted token shows the claims that were
accepted, unless it is encrypted. Something is seen of exactly the tokens whose payload, if it can
be read, is a value in JSON, and else the format is at fault. -/
theorem Inspection.ofText_agrees (text : String) :
    (∀ (v : Validator) c, v.claims text = .ok c → ∃ i, ofText text = .ok i ∧
      (i.form = .signed ∧ (∃ x, i.claims = some x ∧ ClaimSet.ofJson x = .ok c) ∨
        i.form = .encrypted ∧ i.claims = none)) ∧
    ((∃ i, ofText text = .ok i) ↔ ∃ t, Token.parse text = .ok t ∧
      ∀ segment, t.payload? = some segment →
        ∃ b x, segment = Base64Url.encode b ∧ Json.ofBytes? b = some x) ∧
    (∀ i, ofText text = .ok i → ∃ t, Token.parse text = .ok t ∧ i.form = t.form ∧
      i.header = t.header ∧ Shows t i.claims) ∧
    ∀ e, (ofText text).mapError TokenError.format = .error e → e.kind = .format ∧
      ∃ cause, e = .format cause ∧ (Token.parse text = .error cause ∨
        ∃ t segment, Token.parse text = .ok t ∧ t.payload? = some segment ∧
          Refuses segment cause) := by
  refine ⟨fun v c hc => v.exists_ofText_of_claims hc, ?_, fun i => ofText_eq_ok_iff.mp, ?_⟩
  · rw [exists_ofText_iff]
    refine exists_congr fun t => and_congr_right fun _ => forall₂_congr fun segment _ => ?_
    exact exists_comm
  · intro e he
    obtain ⟨cause, hcause, rfl⟩ := mapError_eq_error_iff.mp he
    exact ⟨rfl, cause, rfl, ofText_eq_error_iff.mp hcause⟩

end IdentityToken
