import IdentityToken.ClaimSet
import IdentityToken.Proofs.Json.RoundTrip
import IdentityToken.Proofs.Outcome
import IdentityToken.Proofs.StringMap
/-!
# Claims are read back

The members of claims are exactly the claims by name, so claims are rebuilt from them: all but the
part of a second of the time of issue, which no token carries. The claims stand inside an object,
which takes one level of the depth that is read. The record that claims were made for is rebuilt
too, with the default kind if it has none.
-/

namespace IdentityToken

/-- An instant without its part of a second. -/
def Instant.whole (t : Instant) : Instant := ⟨t.seconds, 0, t.inRange, Nat.zero_lt_succ _⟩

theorem Instant.ofSeconds?_seconds (t : Instant) : ofSeconds? t.seconds = some t.whole :=
  dif_pos t.inRange

namespace ClaimSet

/-- The claims as they are read back. -/
def readBack (c : ClaimSet) : ClaimSet := { c with issuedAt := c.issuedAt.map Instant.whole }

private theorem get?_insertSome (m : Members) (name k : String) (x : Option Json) :
    (insertSome m name x).get? k = if k = name then x.or (m.get? k) else m.get? k := by
  cases x with
  | none => simp [insertSome]
  | some x => simp [insertSome]

theorem get?_extra_of_mem_reservedKeys (c : ClaimSet) {name : String} (h : name ∈ reservedKeys) :
    c.extra.get? name = none :=
  StringMap.get?_eq_none_of_forall_ne fun m hm hname => c.unregistered m hm (hname ▸ h)

theorem mem_reservedKeys_iff {name : String} :
    name ∈ reservedKeys ↔ name = subjectName ∨ name = issuedAtName ∨ name = issuerName := by
  simp [reservedKeys, subjectName, issuedAtName, issuerName]

/-- No other claim has a registered name, so the registered ones may as well come last. -/
theorem toMembers_eq_insertSome (c : ClaimSet) : c.toMembers =
    insertSome (insertSome (c.extra.insert subjectName (.string c.subject)) issuedAtName
      (c.issuedAt.map numericDate)) issuerName (c.issuer.map .string) := by
  apply StringMap.ext_get?
  intro name
  simp only [toMembers, registered, StringMap.get?_insertAll, get?_insertSome,
    StringMap.get?_insert]
  by_cases hregistered : name ∈ reservedKeys
  · rw [c.get?_extra_of_mem_reservedKeys hregistered, Option.none_or]
    rcases mem_reservedKeys_iff.mp hregistered with rfl | rfl | rfl <;>
      simp [subjectName, issuedAtName, issuerName]
  · simp only [mem_reservedKeys_iff, not_or] at hregistered
    simp [hregistered]

/-- The members of claims are the claims by name. -/
@[simp] theorem get?_toMembers (c : ClaimSet) (name : String) :
    c.toMembers.get? name = c.claim? name := by
  have hissuedAt : issuedAtName ≠ subjectName := by decide
  have hissuer : issuerName ≠ subjectName ∧ issuerName ≠ issuedAtName := by decide
  simp only [toMembers_eq_insertSome, get?_insertSome, StringMap.get?_insert, claim?]
  by_cases hregistered : name ∈ reservedKeys
  · have hextra := c.get?_extra_of_mem_reservedKeys hregistered
    rcases mem_reservedKeys_iff.mp hregistered with rfl | rfl | rfl
    · simp [hissuedAt.symm, hissuer.1.symm]
    · simp [hextra, hissuedAt, hissuer.2.symm]
    · simp [hextra, hissuer]
  · simp only [mem_reservedKeys_iff, not_or] at hregistered
    simp [hregistered]

theorem claim?_of_not_mem_reservedKeys (c : ClaimSet) {name : String} (h : name ∉ reservedKeys) :
    c.claim? name = c.extra.get? name := by
  simp only [mem_reservedKeys_iff, not_or] at h
  rw [claim?, if_neg h.1, if_neg h.2.1, if_neg h.2.2]

/-- What holds of texts and dates holds of all claims when it holds of the others. -/
theorem forall_mem_toMembers {P : Json → Prop} (hstring : ∀ s, P (.string s))
    (hdate : ∀ t, P (numericDate t)) (c : ClaimSet) :
    (∀ m ∈ c.toMembers.toList, P m.2) ↔ ∀ m ∈ c.extra.toList, P m.2 := by
  constructor
  · intro h m hm
    refine h m (StringMap.mem_toList_iff.mpr ?_)
    rw [get?_toMembers, c.claim?_of_not_mem_reservedKeys (c.unregistered m hm)]
    exact StringMap.mem_toList_iff.mp hm
  · intro h m hm
    have hclaim : c.claim? m.1 = some m.2 := by
      rw [← get?_toMembers]
      exact StringMap.mem_toList_iff.mp hm
    unfold claim? at hclaim
    split at hclaim
    · rw [← Option.some.inj hclaim]; exact hstring _
    · split at hclaim
      · obtain ⟨t, -, ht⟩ := Option.map_eq_some_iff.mp hclaim
        rw [← ht]
        exact hdate _
      · split at hclaim
        · obtain ⟨s, -, hs⟩ := Option.map_eq_some_iff.mp hclaim
          rw [← hs]
          exact hstring _
        · exact h m (StringMap.mem_toList_iff.mpr hclaim)

/-- Claims are one level deeper than those that are not registered. -/
theorem depth_toJson_le_iff {c : ClaimSet} {d : Nat} :
    c.toJson.depth ≤ d + 1 ↔ ∀ m ∈ c.extra.toList, m.2.depth ≤ d := by
  rw [toJson, Json.depth_object_le_iff]
  have hstring : ∀ s, (Json.string s).depth ≤ d := fun _ => Nat.zero_le d
  have hdate : ∀ t, (numericDate t).depth ≤ d := fun _ => Nat.zero_le d
  exact forall_mem_toMembers (P := fun x => x.depth ≤ d) hstring hdate c

theorem integral_toJson {c : ClaimSet} (h : ∀ m ∈ c.extra.toList, m.2.Integral) :
    c.toJson.Integral := by
  have hstring : ∀ s, (Json.string s).Integral := fun _ _ hn => nomatch hn
  have hdate : ∀ t, (numericDate t).Integral := by
    intro t n hn
    obtain rfl := List.mem_singleton.mp hn
    rfl
  exact Json.integral_object_iff.mpr ((forall_mem_toMembers hstring hdate c).mpr h)

private theorem extraOf_toMembers (c : ClaimSet) : extraOf c.toMembers = c.extra := by
  apply StringMap.ext_get?
  intro name
  simp only [extraOf, StringMap.get?_erase, get?_toMembers]
  by_cases h : name ∈ reservedKeys
  · rw [c.get?_extra_of_mem_reservedKeys h]
    rcases mem_reservedKeys_iff.mp h with rfl | rfl | rfl <;> simp
  · rw [c.claim?_of_not_mem_reservedKeys h]
    simp only [mem_reservedKeys_iff, not_or] at h
    rw [if_neg h.2.2, if_neg h.2.1, if_neg h.1]

private theorem subjectOf_toMembers (c : ClaimSet) : subjectOf c.toMembers = .ok c.subject := by
  rw [subjectOf, get?_toMembers, claim?, if_pos rfl]
  rfl

private theorem issuedAtOf_toMembers (c : ClaimSet) :
    issuedAtOf c.toMembers = .ok (c.issuedAt.map Instant.whole) := by
  rw [issuedAtOf, get?_toMembers, claim?, if_neg (by simp [issuedAtName, subjectName]), if_pos rfl]
  cases c.issuedAt with
  | none => rfl
  | some t => simp [numericDate, ofNumericDate?, Instant.ofSeconds?_seconds]

private theorem issuerOf_toMembers (c : ClaimSet) : issuerOf c.toMembers = .ok c.issuer := by
  rw [issuerOf, get?_toMembers, claim?, if_neg (by simp [issuerName, subjectName]),
    if_neg (by simp [issuerName, issuedAtName]), if_pos rfl]
  cases c.issuer <;> rfl

/-- Claims are rebuilt from their members. -/
theorem ofMembers_toMembers (c : ClaimSet) : ofMembers c.toMembers = .ok c.readBack := by
  rw [ofMembers, bind_ok (subjectOf_toMembers c), bind_ok (issuedAtOf_toMembers c),
    bind_ok (issuerOf_toMembers c)]
  simp only [extraOf_toMembers]
  rfl

theorem ofJson_toJson (c : ClaimSet) : ofJson c.toJson = .ok c.readBack := by
  simp only [ofJson, toJson, Json.members?_object, ofMembers_toMembers]

/-- Claims are read back from the octets that a token carries unless they are too deep. -/
theorem ofPayload_payload {c : ClaimSet} (h : ∀ m ∈ c.extra.toList, m.2.Integral) :
    ofPayload c.payload
      = if c.toJson.depth ≤ Json.maxDepth then .ok c.readBack
        else .error (.claimsNotJson c.payload) := by
  have hread := Json.ofBytes?_render Json.Layout.regular_compact (integral_toJson h)
  have hvalue : Json.ofBytes? c.payload = _ := hread
  rw [ofPayload, hvalue]
  by_cases hdepth : c.toJson.depth ≤ Json.maxDepth
  · simp only [if_pos hdepth, ofJson_toJson]
  · simp only [if_neg hdepth]

theorem ofPayload_eq_ok_iff {b : Bytes} {c : ClaimSet} :
    ofPayload b = .ok c ↔ ∃ x, Json.ofBytes? b = some x ∧ ofJson x = .ok c := by
  unfold ofPayload
  cases Json.ofBytes? b <;> simp

theorem payload_readBack (c : ClaimSet) : c.readBack.payload = c.payload := by
  have hissuedAt : c.readBack.issuedAt.map numericDate = c.issuedAt.map numericDate :=
    Option.map_map ..
  simp only [payload, toJson, toMembers, registered, hissuedAt]
  rfl

/-- The octets that a token carries are those of one claim set as it is read back, also where it is
too deep to be read back from them. -/
theorem payload_eq_payload_iff {c c' : ClaimSet} (h : ∀ m ∈ c.extra.toList, m.2.Integral)
    (h' : ∀ m ∈ c'.extra.toList, m.2.Integral) :
    c.payload = c'.payload ↔ c.readBack = c'.readBack := by
  constructor
  · intro hpayload
    have hjson : c.toJson = c'.toJson :=
      Json.render_injective Json.Layout.regular_compact (integral_toJson h) (integral_toJson h')
        (Text.utf8_injective hpayload)
    have hread := ofJson_toJson c
    rw [hjson, ofJson_toJson] at hread
    exact (Except.ok.inj hread).symm
  · intro hread
    rw [← payload_readBack c, hread, payload_readBack]

end ClaimSet

/-! ## Records -/

namespace Identity

open Text

theorem not_blank_typed (kind id : String) : ¬Blank (typed kind id) := by
  intro h
  have hspace : isSpace separator = true := h separator (by simp [typed, Char.toString])
  exact absurd hspace (by decide)

theorem ofParts_eq_ok {typedId : String} {attributes : Members} (h : ¬Blank typedId)
    (hallowed : ∀ m ∈ attributes.toList, AllowedKey m.1) :
    ofParts typedId attributes = .ok ⟨typedId, attributes, h, hallowed⟩ := by
  have hkeys : attributes.toList.findSome? (fun m => RecordError.ofKey? m.1) = none :=
    List.findSome?_eq_none_iff.mpr fun m hm => RecordError.ofKey?_eq_none_iff.mpr (hallowed m hm)
  unfold ofParts
  rw [dif_neg h]
  split
  · next e he => rw [hkeys] at he; cases he
  · rfl

/-- The record with a kind, the given one if it has none. -/
def withKind (r : Identity) (kind : String) : Identity :=
  { r with
    typedId := if separator ∈ r.typedId.toList then r.typedId else typed kind r.typedId
    typedId_not_blank := by
      split
      · exact r.typedId_not_blank
      · exact not_blank_typed kind r.typedId }

end Identity

/-- The record that claims were made for is rebuilt from what is read back. -/
theorem ClaimSet.toIdentity_forIdentity (r : Identity) (issuer : String) (at_ : Instant)
    (kind : String) :
    (forIdentity r issuer at_).readBack.toIdentity kind = .ok (r.withKind kind) := by
  have hsubject : ¬Text.Blank (forIdentity r issuer at_).readBack.subject := r.typedId_not_blank
  rw [toIdentity, if_neg hsubject]
  exact mapError_ok (Identity.ofParts_eq_ok (r.withKind kind).typedId_not_blank r.allowed) _

end IdentityToken
