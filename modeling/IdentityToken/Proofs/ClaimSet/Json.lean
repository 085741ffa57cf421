import IdentityToken.Proofs.ClaimSet
/-!
# Claims and their JSON

Reading claims and writing them are inverse. An object is read exactly when its registered members
have the right forms, and it is written again as it was, unless its time of issue is a
floating-point number, which is rounded down. Claims that are written are read back but for the part
of a second of their time of issue.
-/

namespace IdentityToken

theorem StringMap.mem_keys_iff {β : Type} {m : StringMap β} {k : String} :
    k ∈ m.keys ↔ ∃ v, m.get? k = some v := by
  simp [keys, ← mem_toList_iff]

namespace Json

theorem string?_eq_some_iff {x : Json} {s : String} : x.string? = some s ↔ x = string s := by
  obtain ⟨r, hr⟩ := x
  cases r <;> simp [string?, string]

theorem number?_eq_some_iff {x : Json} {n : Number} : x.number? = some n ↔ x = number n := by
  obtain ⟨r, hr⟩ := x
  cases r <;> simp [number?, number]

theorem members?_eq_some_iff {x : Json} {m : Members} : x.members? = some m ↔ x = object m := by
  constructor
  · exact fun h => (object_of_members? h).symm
  · rintro rfl
    exact members?_object m

theorem object_injective {m n : Members} (h : object m = object n) : m = n := by
  rw [← Option.some.injEq, ← members?_object m, h, members?_object]

end Json

theorem Instant.ofSeconds?_eq_some_iff {seconds : Int} {t : Instant} :
    ofSeconds? seconds = some t ↔ t.seconds = seconds ∧ t.nanos = 0 := by
  unfold ofSeconds?
  constructor
  · intro h
    split at h
    · cases h; exact ⟨rfl, rfl⟩
    · cases h
  · rintro ⟨rfl, hnanos⟩
    obtain ⟨seconds, nanos, hrange, hlt⟩ := t
    obtain rfl := hnanos
    exact dif_pos hrange

namespace ClaimSet

variable {m : Members} {c : ClaimSet}

/-! ## What is read -/

theorem subjectOf_eq_ok_iff {s : String} :
    subjectOf m = .ok s ↔ m.get? subjectName = some (.string s) := by
  unfold subjectOf
  cases m.get? subjectName with
  | none => simp
  | some x =>
    simp only [Option.some.injEq, ← Json.string?_eq_some_iff]
    cases x.string? <;> simp

theorem issuerOf_eq_ok_iff {s : Option String} :
    issuerOf m = .ok s ↔ m.get? issuerName = s.map .string := by
  unfold issuerOf
  cases m.get? issuerName with
  | none => cases s <;> simp
  | some x =>
    cases s with
    | none =>
      simp only [Option.map_none, reduceCtorEq]
      cases x.string? <;> simp
    | some s =>
      simp only [Option.map_some, Option.some.injEq, ← Json.string?_eq_some_iff]
      cases x.string? <;> simp

/-- A time of issue that stands for a claim, or the absence of both. -/
def Dates (claim : Option Json) (date : Option Instant) : Prop :=
  claim = none ∧ date = none ∨
    ∃ n t, claim = some (.number n) ∧ ofNumericDate? n = some t ∧ date = some t

theorem issuedAtOf_eq_ok_iff {date : Option Instant} :
    issuedAtOf m = .ok date ↔ Dates (m.get? issuedAtName) date := by
  unfold issuedAtOf Dates
  cases m.get? issuedAtName with
  | none => simp [eq_comm]
  | some x =>
    simp only [reduceCtorEq, false_and, false_or, Option.some.injEq, ← Json.number?_eq_some_iff]
    cases x.number? with
    | none => simp
    | some n =>
      cases hn : ofNumericDate? n with
      | none => simp [hn]
      | some t => simp [hn, eq_comm]

theorem ofMembers_eq_ok_iff :
    ofMembers m = .ok c ↔ m.get? subjectName = some (.string c.subject) ∧
      Dates (m.get? issuedAtName) c.issuedAt ∧ m.get? issuerName = c.issuer.map .string ∧
      c.extra = extraOf m := by
  simp only [ofMembers, bind_eq_ok_iff, subjectOf_eq_ok_iff, issuedAtOf_eq_ok_iff,
    issuerOf_eq_ok_iff]
  constructor
  · rintro ⟨subject, hsubject, date, hdate, issuer, hissuer, hc⟩
    cases hc
    exact ⟨hsubject, hdate, hissuer, rfl⟩
  · rintro ⟨hsubject, hdate, hissuer, hextra⟩
    obtain ⟨subject, issuedAt, issuer, extra, hunregistered⟩ := c
    obtain rfl := hextra
    exact ⟨subject, hsubject, issuedAt, hdate, issuer, hissuer, rfl⟩

theorem ofJson_eq_ok_iff {x : Json} :
    ofJson x = .ok c ↔ ∃ m, x = .object m ∧ ofMembers m = .ok c := by
  simp only [← Json.members?_eq_some_iff]
  unfold ofJson
  cases x.members? <;> simp

theorem get?_extraOf (m : Members) (name : String) :
    (extraOf m).get? name = if name ∈ reservedKeys then none else m.get? name := by
  simp only [extraOf, StringMap.get?_erase, mem_reservedKeys_iff]
  by_cases hsubject : name = subjectName
  · simp [hsubject]
  · by_cases hissuedAt : name = issuedAtName
    · simp [hissuedAt]
    · simp [hsubject, hissuedAt]

theorem mem_keys_extraOf_iff {name : String} :
    name ∈ (extraOf m).keys ↔ name ∈ m.keys ∧ name ∉ reservedKeys := by
  rw [StringMap.mem_keys_iff, StringMap.mem_keys_iff, get?_extraOf]
  by_cases h : name ∈ reservedKeys <;> simp [h]

/-! ## What is written again -/

theorem claim?_of_ofMembers (h : ofMembers m = .ok c) {name : String}
    (hname : name ≠ issuedAtName) : c.claim? name = m.get? name := by
  obtain ⟨hsubject, -, hissuer, hextra⟩ := ofMembers_eq_ok_iff.mp h
  by_cases hreserved : name ∈ reservedKeys
  · rcases mem_reservedKeys_iff.mp hreserved with rfl | rfl | rfl
    · rw [hsubject]; rfl
    · exact absurd rfl hname
    · rw [hissuer]; rfl
  · rw [c.claim?_of_not_mem_reservedKeys hreserved, hextra, get?_extraOf, if_neg hreserved]

theorem toMembers_of_ofMembers (h : ofMembers m = .ok c)
    (hdate : c.issuedAt.map numericDate = m.get? issuedAtName) : c.toMembers = m := by
  apply StringMap.ext_get?
  intro name
  rw [get?_toMembers]
  by_cases hname : name = issuedAtName
  · rw [hname, ← hdate]
    rfl
  · exact claim?_of_ofMembers h hname

/-- An integer as a time of issue is written as it was read. -/
theorem Dates.numericDate {claim : Option Json} {date : Option Instant} (h : Dates claim date)
    (hint : ∀ f, claim ≠ some (.number (.float f))) : date.map numericDate = claim := by
  rcases h with ⟨rfl, rfl⟩ | ⟨n, t, rfl, ht, rfl⟩
  · rfl
  · cases n with
    | float f => exact absurd rfl (hint f)
    | int seconds _ =>
      obtain ⟨rfl, -⟩ := Instant.ofSeconds?_eq_some_iff.mp ht
      rfl

/-! ## Which objects are read -/

theorem exists_ofMembers_iff :
    (∃ c, ofMembers m = .ok c) ↔ (∃ s, m.get? subjectName = some (.string s)) ∧
      (∃ date, Dates (m.get? issuedAtName) date) ∧
      ∃ s : Option String, m.get? issuerName = s.map .string := by
  simp only [ofMembers_eq_ok_iff]
  constructor
  · rintro ⟨c, hsubject, hdate, hissuer, -⟩
    exact ⟨⟨_, hsubject⟩, ⟨_, hdate⟩, _, hissuer⟩
  · rintro ⟨⟨subject, hsubject⟩, ⟨date, hdate⟩, issuer, hissuer⟩
    exact ⟨⟨subject, date, issuer, extraOf m, unregistered_extraOf m⟩, hsubject, hdate, hissuer,
      rfl⟩

theorem exists_dates_iff {claim : Option Json} (hint : ∀ f, claim ≠ some (.number (.float f))) :
    (∃ date, Dates claim date) ↔ claim = none ∨
      ∃ seconds h, claim = some (.number (.int seconds h)) ∧
        -8334601228800 ≤ seconds ∧ seconds ≤ 8210266876799 := by
  constructor
  · rintro ⟨date, ⟨hnone, -⟩ | ⟨n, t, hclaim, ht, -⟩⟩
    · exact .inl hnone
    · cases n with
      | float f => exact absurd hclaim (hint f)
      | int seconds h =>
        obtain ⟨rfl, -⟩ := Instant.ofSeconds?_eq_some_iff.mp ht
        exact .inr ⟨_, h, hclaim, t.inRange⟩
  · rintro (hnone | ⟨seconds, h, hclaim, hrange⟩)
    · exact ⟨none, .inl ⟨hnone, rfl⟩⟩
    · exact ⟨_, .inr ⟨_, ⟨seconds, 0, hrange, by decide⟩, hclaim, dif_pos hrange, rfl⟩⟩

/-- An object has a subject, and its time of issue and its issuer, if they are there, have the right
forms. -/
structure Registered (m : Members) : Prop where
  subject : ∃ s, m.get? "sub" = some (.string s)
  issuedAt : m.get? "iat" = none ∨ ∃ seconds h, m.get? "iat" = some (.number (.int seconds h)) ∧
    -8334601228800 ≤ seconds ∧ seconds ≤ 8210266876799
  issuer : m.get? "iss" = none ∨ ∃ s, m.get? "iss" = some (.string s)

theorem exists_ofMembers_iff_registered
    (hint : ∀ f, m.get? issuedAtName ≠ some (.number (.float f))) :
    (∃ c, ofMembers m = .ok c) ↔ Registered m := by
  have hissuer : (∃ s : Option String, m.get? issuerName = s.map .string) ↔
      m.get? "iss" = none ∨ ∃ s, m.get? "iss" = some (.string s) := Option.exists
  rw [exists_ofMembers_iff, exists_dates_iff hint, hissuer]
  constructor
  · rintro ⟨hsubject, hdate, hissuer⟩
    exact ⟨hsubject, hdate, hissuer⟩
  · rintro ⟨hsubject, hdate, hissuer⟩
    exact ⟨hsubject, hdate, hissuer⟩

/-- Claims and their JSON determine each other. A value is read exactly if it is an object whose
registered members have the right forms, an integer being no date unless there is a date for it, and
it is written again as it was. The other claims never have a registered name. Claims that are
written are read back with whole seconds, and each stands under its name. -/
theorem ofJson_toJson_inverse :
    (∀ x : Json, (∀ m f, x = .object m → m.get? "iat" ≠ some (.number (.float f))) →
      ((∃ c, ofJson x = .ok c) ↔ ∃ m, x = .object m ∧ Registered m) ∧
      (∀ e, (ofJson x).mapError TokenError.format = .error e → e.kind = .format) ∧
      ∀ c, ofJson x = .ok c → c.toJson = x) ∧
    (∀ m c, ofJson (.object m) = .ok c → ∀ name,
      c.extra.get? name = if name ∈ ["sub", "iat", "iss"] then none else m.get? name) ∧
    (∀ r issuer at_ name, (forIdentity r issuer at_).extra.get? name
      = if name ∈ ["sub", "iat", "iss"] then none else r.get? name) ∧
    ∀ c : ClaimSet,
      ofJson c.toJson = .ok { c with issuedAt := c.issuedAt.map Instant.whole } ∧
      ∃ m, c.toJson = .object m ∧ ∀ name, m.get? name = c.claim? name := by
  refine ⟨?_, ?_, ?_, ?_⟩
  · intro x hint
    refine ⟨?_, ?_, ?_⟩
    · constructor
      · rintro ⟨c, hc⟩
        obtain ⟨m, rfl, hm⟩ := ofJson_eq_ok_iff.mp hc
        exact ⟨m, rfl, (exists_ofMembers_iff_registered fun f => hint m f rfl).mp ⟨c, hm⟩⟩
      · rintro ⟨m, rfl, hregistered⟩
        obtain ⟨c, hc⟩ :=
          (exists_ofMembers_iff_registered fun f => hint m f rfl).mpr hregistered
        exact ⟨c, ofJson_eq_ok_iff.mpr ⟨m, rfl, hc⟩⟩
    · intro e he
      obtain ⟨cause, -, rfl⟩ := mapError_eq_error_iff.mp he
      rfl
    · intro c hc
      obtain ⟨m, rfl, hm⟩ := ofJson_eq_ok_iff.mp hc
      have hdate := (ofMembers_eq_ok_iff.mp hm).2.1.numericDate fun f => hint m f rfl
      rw [toJson, toMembers_of_ofMembers hm hdate]
  · intro m c hc name
    obtain ⟨m', hm', hc'⟩ := ofJson_eq_ok_iff.mp hc
    obtain rfl := Json.object_injective hm'
    rw [(ofMembers_eq_ok_iff.mp hc').2.2.2, get?_extraOf]
    rfl
  · intro r issuer at_ name
    split
    · next hreserved => exact get?_extra_of_mem_reservedKeys _ hreserved
    · rfl
  · exact fun c => ⟨c.ofJson_toJson, c.toMembers, rfl, c.get?_toMembers⟩

/-- The members of claims that were issued at some second. -/
def dated (seconds : Int)
    (h : -0x8000000000000000 ≤ seconds ∧ seconds < 0x10000000000000000) : Members :=
  .ofList [("sub", .string "ada"), ("iat", .number (.int seconds h))]

/-- The last second that there is a date for is read and written again. The first one that does not
fit 64 bits with a sign is refused. -/
theorem ofJson_toJson_dated :
    (∃ c, ofJson (.object (dated 8210266876799 (by decide))) = .ok c ∧
      c.toJson = .object (dated 8210266876799 (by decide))) ∧
    ¬∃ c, ofJson (.object (dated 9223372036854775808 (by decide))) = .ok c := by
  have hint (seconds h) (m : Members) (f) (hm : Json.object (dated seconds h) = .object m) :
      m.get? "iat" ≠ some (.number (.float f)) := by
    obtain rfl := Json.object_injective hm
    have hdate : (dated seconds h).get? "iat" = some (.number (.int seconds h)) := rfl
    simp [hdate, Json.number]
  refine ⟨?_, ?_⟩
  · obtain ⟨hread, -, hwritten⟩ :=
      ofJson_toJson_inverse.1 (.object (dated 8210266876799 (by decide))) (hint _ _)
    obtain ⟨c, hc⟩ := hread.mpr ⟨_, rfl, ⟨"ada", rfl⟩,
      .inr ⟨8210266876799, by decide, rfl, by decide⟩, .inl rfl⟩
    exact ⟨c, hc, hwritten c hc⟩
  · rw [(ofJson_toJson_inverse.1 (.object (dated 9223372036854775808 (by decide)))
      (hint _ _)).1]
    rintro ⟨m, hm, -, hdate, -⟩
    obtain rfl := Json.object_injective hm
    rcases hdate with hnone | ⟨seconds, h, hsome, hlow, hhigh⟩
    · cases hnone
    · cases hsome
      omega

end ClaimSet

end IdentityToken
