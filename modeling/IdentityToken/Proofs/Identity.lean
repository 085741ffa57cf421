import IdentityToken.Proofs.ClaimSet
import IdentityToken.Proofs.Text.Order
/-!
# Identity records over runs of operations

Records are made in four ways and changed in three. Whatever is done, the typed id of a record is
not blank and its attributes have no name that is blank or reserved, and every such record can be
made. An attribute that is refused changes nothing, and of several names that are not allowed the
first in the order of octets is reported.
-/

namespace IdentityToken

open Text

/-- A name that no attribute has: it is blank or reserved. -/
def RefusedKey (key : String) : Prop := trim key = "" ∨ key ∈ ["sub", "iat", "iss"]

theorem not_refusedKey_iff {key : String} : ¬RefusedKey key ↔ AllowedKey key := by
  rw [RefusedKey, trim_eq_empty_iff, not_or]
  rfl

namespace RecordError

/-- The reason for refusing a name. -/
def ofRefused (key : String) : RecordError :=
  if trim key = "" then .blankKey else .reservedKey key

theorem ofKey?_eq_some_iff {key : String} {e : RecordError} :
    ofKey? key = some e ↔ RefusedKey key ∧ e = ofRefused key := by
  simp only [ofKey?, RefusedKey, ofRefused, trim_eq_empty_iff]
  by_cases hblank : Blank key
  · simp [hblank, eq_comm]
  · by_cases hreserved : key ∈ reservedKeys
    · have hmem : key ∈ ["sub", "iat", "iss"] := hreserved
      simp only [hblank, hreserved, hmem, if_true, if_false, or_true, true_and, Option.some.injEq]
      exact eq_comm
    · have hmem : key ∉ ["sub", "iat", "iss"] := hreserved
      simp only [hblank, hreserved, hmem, if_false, or_false, false_and, reduceCtorEq]

end RecordError

namespace Identity

theorem ext {r s : Identity} (htypedId : r.typedId = s.typedId)
    (hattributes : r.attributes = s.attributes) : r = s := by
  cases r
  cases s
  cases htypedId
  cases hattributes
  rfl

/-! ## Records from parts -/

/-- Parts that a record can have. -/
def Admissible (typedId : String) (attributes : Members) : Prop :=
  trim typedId ≠ "" ∧ ∀ key ∈ attributes.keys, ¬RefusedKey key

theorem admissible_iff {typedId : String} {attributes : Members} :
    Admissible typedId attributes ↔
      ¬Blank typedId ∧ ∀ m ∈ attributes.toList, AllowedKey m.1 := by
  simp only [Admissible, ne_eq, trim_eq_empty_iff, not_refusedKey_iff, StringMap.keys]
  exact and_congr_right fun _ => List.forall_mem_map

theorem admissible (r : Identity) : Admissible r.typedId r.attributes :=
  admissible_iff.mpr ⟨r.typedId_not_blank, r.allowed⟩

variable {typedId : String} {attributes : Members}

theorem ofParts_eq_ok_iff {r : Identity} :
    ofParts typedId attributes = .ok r ↔ r.typedId = typedId ∧ r.attributes = attributes := by
  constructor
  · intro h
    unfold ofParts at h
    split at h
    · cases h
    · split at h
      · cases h
      · cases h
        exact ⟨rfl, rfl⟩
  · rintro ⟨rfl, rfl⟩
    exact ofParts_eq_ok r.typedId_not_blank r.allowed

theorem exists_ofParts_iff :
    (∃ r, ofParts typedId attributes = .ok r) ↔ Admissible typedId attributes := by
  constructor
  · rintro ⟨r, h⟩
    obtain ⟨rfl, rfl⟩ := ofParts_eq_ok_iff.mp h
    exact r.admissible
  · intro h
    obtain ⟨hid, hallowed⟩ := admissible_iff.mp h
    exact ⟨_, ofParts_eq_ok hid hallowed⟩

/-- A name that is refused, with no other such name before it. -/
def FirstRefused (attributes : Members) (key : String) : Prop :=
  key ∈ attributes.keys ∧ RefusedKey key ∧
    ∀ k ∈ attributes.keys, RefusedKey k → k = key ∨ utf8 key < utf8 k

/-- The search that `ofParts` makes finds the first name that is refused. -/
theorem firstRefused_of_findSome? {e : RecordError}
    (h : attributes.toList.findSome? (fun m => RecordError.ofKey? m.1) = some e) :
    ∃ key, FirstRefused attributes key ∧ e = .ofRefused key := by
  obtain ⟨before, ⟨key, value⟩, after, hlist, hkey, hbefore⟩ := List.findSome?_eq_some_iff.mp h
  obtain ⟨hrefused, he⟩ := RecordError.ofKey?_eq_some_iff.mp hkey
  have hsorted := attributes.sorted
  rw [hlist] at hsorted
  have hafter := (List.pairwise_cons.mp (List.pairwise_append.mp hsorted).2.1).1
  refine ⟨key, ⟨by simp [StringMap.keys, hlist], hrefused, ?_⟩, he⟩
  intro k hk hrefused'
  obtain ⟨⟨k, w⟩, hmem, rfl⟩ := List.mem_map.mp hk
  rw [hlist, List.mem_append, List.mem_cons] at hmem
  rcases hmem with hmem | hmem | hmem
  · -- The names before were all allowed.
    have hallowed := RecordError.ofKey?_eq_none_iff.mp (hbefore _ hmem)
    exact absurd hrefused' (not_refusedKey_iff.mpr hallowed)
  · exact .inl (congrArg Prod.fst hmem)
  · exact .inr (utf8_lt_utf8 (hafter _ hmem))

theorem ofParts_of_blank (h : Blank typedId) : ofParts typedId attributes = .error .blankId :=
  dif_pos h

theorem ofParts_eq_error_iff (h : ¬Blank typedId) {e : RecordError} :
    ofParts typedId attributes = .error e ↔
      attributes.toList.findSome? (fun m => RecordError.ofKey? m.1) = some e := by
  unfold ofParts
  rw [dif_neg h]
  split
  · next e' he => simp [he]
  · next he => simp [he]

theorem ofParts_eq_error {e : RecordError} (h : ofParts typedId attributes = .error e) :
    trim typedId = "" ∧ e = .blankId ∨
      trim typedId ≠ "" ∧ ∃ key, FirstRefused attributes key ∧ e = .ofRefused key := by
  rw [ne_eq, trim_eq_empty_iff]
  by_cases hblank : Blank typedId
  · rw [ofParts_of_blank hblank] at h
    cases h
    exact .inl ⟨hblank, rfl⟩
  · exact .inr ⟨hblank, firstRefused_of_findSome? ((ofParts_eq_error_iff hblank).mp h)⟩

/-! ## Setting an attribute -/

theorem set_eq_ok_iff {r r' : Identity} {key : String} {value : Json} :
    r.set key value = .ok r' ↔ AllowedKey key ∧ r'.typedId = r.typedId ∧
      r'.attributes = r.attributes.insert key value := by
  rw [← RecordError.ofKey?_eq_none_iff]
  unfold set
  split
  · next e h => simp [h]
  · next h =>
    simp only [h, true_and, Except.ok.injEq]
    constructor
    · rintro rfl
      exact ⟨rfl, rfl⟩
    · rintro ⟨htypedId, hattributes⟩
      exact ext htypedId.symm hattributes.symm

theorem set_eq_error_iff {r : Identity} {key : String} {value : Json} {e : RecordError} :
    r.set key value = .error e ↔ RecordError.ofKey? key = some e := by
  unfold set
  split
  · next h => simp [h]
  · next h => simp [h]

theorem exists_set_eq_error_iff {r : Identity} {key : String} {value : Json} :
    (∃ e, r.set key value = .error e) ↔ RefusedKey key := by
  simp only [set_eq_error_iff, RecordError.ofKey?_eq_some_iff, exists_and_left, exists_eq, and_true]

theorem get?_of_set_eq_ok {r r' : Identity} {key : String} {value : Json}
    (h : r.set key value = .ok r') (k : String) :
    r'.get? k = if k = key then some value else r.get? k := by
  rw [get?, get?, (set_eq_ok_iff.mp h).2.2, StringMap.get?_insert]

theorem exists_ofTypedId {typedId : String} (h : ¬Blank typedId) :
    ∃ r, ofTypedId typedId = .ok r ∧ r.typedId = typedId ∧ r.attributes = ∅ :=
  ⟨_, dif_neg h, rfl, rfl⟩

private theorem foldlM_set_eq_ok {l : List (String × Json)} {r r' : Identity}
    (h : l.foldlM (fun r m => r.set m.1 m.2) r = .ok r') :
    r'.typedId = r.typedId ∧
      r'.attributes = l.foldl (fun m b => m.insert b.1 b.2) r.attributes := by
  induction l generalizing r with
  | nil =>
    cases h
    exact ⟨rfl, rfl⟩
  | cons b l ih =>
    rw [List.foldlM_cons] at h
    obtain ⟨s, hs, hrest⟩ := bind_eq_ok_iff.mp h
    obtain ⟨-, htypedId, hattributes⟩ := set_eq_ok_iff.mp hs
    obtain ⟨htypedId', hattributes'⟩ := ih hrest
    exact ⟨htypedId'.trans htypedId, by rw [hattributes', hattributes]; rfl⟩

private theorem foldlM_set_eq_error {l : List (String × Json)} {r : Identity} {e : RecordError}
    (h : l.foldlM (fun r m => r.set m.1 m.2) r = .error e) :
    l.findSome? (fun m => RecordError.ofKey? m.1) = some e := by
  induction l generalizing r with
  | nil => cases h
  | cons b l ih =>
    rw [List.foldlM_cons] at h
    cases hs : r.set b.1 b.2 with
    | error e' =>
      rw [bind_error hs] at h
      cases h
      rw [List.findSome?_cons, set_eq_error_iff.mp hs]
    | ok s =>
      rw [bind_ok hs] at h
      have hkey := RecordError.ofKey?_eq_none_iff.mpr (set_eq_ok_iff.mp hs).1
      rw [List.findSome?_cons, hkey]
      exact ih h

/-- A record is made from parts as it is made from a typed id and then given one attribute after
the other. -/
theorem ofParts_eq_foldlM_set (typedId : String) (attributes : Members) :
    ofParts typedId attributes = ofTypedId typedId >>= fun r =>
      attributes.toList.foldlM (fun r m => r.set m.1 m.2) r := by
  by_cases hblank : Blank typedId
  · rw [ofParts_of_blank hblank, ofTypedId, dif_pos hblank]
    rfl
  · obtain ⟨r, hr, htypedId, hattributes⟩ := exists_ofTypedId hblank
    rw [bind_ok hr]
    cases hfold : attributes.toList.foldlM (fun r m => r.set m.1 m.2) r with
    | error e => exact (ofParts_eq_error_iff hblank).mpr (foldlM_set_eq_error hfold)
    | ok r' =>
      obtain ⟨htypedId', hattributes'⟩ := foldlM_set_eq_ok hfold
      rw [hattributes] at hattributes'
      refine ofParts_eq_ok_iff.mpr ⟨htypedId'.trans htypedId, hattributes'.trans ?_⟩
      exact attributes.ofList_toList

/-! ## Runs -/

/-- What can be done with records. -/
inductive Operation where
  | ofTypedId (typedId : String)
  | ofKind (kind id : String)
  | ofParts (typedId : String) (attributes : Members)
  | ofJson (b : Bytes)
  | set (key : String) (value : Json)
  /-- Gives up the record for one with an attribute set. -/
  | extend (key : String) (value : Json)
  | erase (key : String)
  /-- Takes the record apart and makes one from the parts. -/
  | rebuild

/-- The record that there is after an operation. Where making a record fails there is none, and
where setting an attribute fails there is the record from before. -/
def step (state : Option Identity) : Operation → Option Identity
  | .ofTypedId typedId => (Identity.ofTypedId typedId).toOption
  | .ofKind kind id => (Identity.ofKind kind id).toOption
  | .ofParts typedId attributes => (Identity.ofParts typedId attributes).toOption
  | .ofJson b => (Identity.ofJson b).toOption
  | .set key value => state.map fun r => (r.set key value).toOption.getD r
  | .extend key value => state.bind fun r => (r.set key value).toOption
  | .erase key => state.map fun r => r.erase key
  | .rebuild => state.bind fun r => (Identity.ofParts r.typedId r.attributes).toOption

/-- The record that there is after a run of operations; there is none at first. -/
def run (ops : List Operation) : Option Identity := ops.foldl step none

theorem step_rebuild (state : Option Identity) : step state .rebuild = state := by
  cases state with
  | none => rfl
  | some r => exact toOption_eq_some_iff.mpr (ofParts_eq_ok_iff.mpr ⟨rfl, rfl⟩)

theorem step_set_of_refusedKey (state : Option Identity) {key : String} (value : Json)
    (h : RefusedKey key) : step state (.set key value) = state := by
  cases state with
  | none => rfl
  | some r =>
    obtain ⟨e, he⟩ : ∃ e, r.set key value = .error e := exists_set_eq_error_iff.mpr h
    simp [step, he, Except.toOption]

/-- An operation that changes nothing can be left out of a run. -/
theorem run_append_cons {op : Operation} (h : ∀ state, step state op = state)
    (before after : List Operation) : run (before ++ op :: after) = run (before ++ after) := by
  simp only [run, List.foldl_append, List.foldl_cons, h]

/-- An operation that works on the record there is and does not name an attribute. -/
def Operation.Spares (k : String) : Operation → Prop
  | .set key _ => k ≠ key
  | .extend key _ => k ≠ key
  | .erase key => k ≠ key
  | .rebuild => True
  | _ => False

private theorem step_none {op : Operation} {k : String} (h : op.Spares k) :
    step none op = none := by
  cases op with
  | ofTypedId | ofKind | ofParts | ofJson => exact h.elim
  | set | extend | erase | rebuild => rfl

private theorem step_spares {op : Operation} {k : String} (h : op.Spares k) {r r' : Identity}
    (hstep : step (some r) op = some r') :
    r'.typedId = r.typedId ∧ r'.get? k = r.get? k := by
  have hset {key : String} {value : Json} {s : Identity} (hkey : k ≠ key)
      (hs : r.set key value = .ok s) : s.typedId = r.typedId ∧ s.get? k = r.get? k :=
    ⟨(set_eq_ok_iff.mp hs).2.1, by rw [get?_of_set_eq_ok hs, if_neg hkey]⟩
  cases op with
  | ofTypedId | ofKind | ofParts | ofJson => exact h.elim
  | set key value =>
    have hr' : (r.set key value).toOption.getD r = r' := Option.some.inj hstep
    cases hs : r.set key value with
    | error e =>
      obtain rfl : r = r' := by simpa [hs, Except.toOption] using hr'
      exact ⟨rfl, rfl⟩
    | ok s =>
      obtain rfl : s = r' := by simpa [hs, Except.toOption] using hr'
      exact hset h hs
  | extend key value => exact hset h (toOption_eq_some_iff.mp hstep)
  | erase key =>
    obtain rfl : r.erase key = r' := Option.some.inj hstep
    have hget : (r.attributes.erase key).get? k = r.attributes.get? k := by
      rw [StringMap.get?_erase, if_neg h]
    exact ⟨rfl, hget⟩
  | rebuild =>
    rw [step_rebuild] at hstep
    obtain rfl := Option.some.inj hstep
    exact ⟨rfl, rfl⟩

/-- What operations do not name they leave alone, however many there are. -/
theorem foldl_step_spares {ops : List Operation} {k : String} (h : ∀ op ∈ ops, op.Spares k)
    {r r' : Identity} (hrun : ops.foldl step (some r) = some r') :
    r'.typedId = r.typedId ∧ r'.get? k = r.get? k := by
  induction ops generalizing r with
  | nil =>
    obtain rfl := Option.some.inj hrun
    exact ⟨rfl, rfl⟩
  | cons op ops ih =>
    obtain ⟨hop, hops⟩ := List.forall_mem_cons.mp h
    rw [List.foldl_cons] at hrun
    cases hstep : step (some r) op with
    | none =>
      -- Once the record is gone only a constructor brings one back.
      have hnone : ops.foldl step none = none :=
        List.foldlRecOn ops step (motive := (· = none)) rfl fun state hstate op hmem => by
          rw [hstate]
          exact step_none (hops op hmem)
      rw [hstep, hnone] at hrun
      cases hrun
    | some s =>
      rw [hstep] at hrun
      obtain ⟨htypedId, hget⟩ := step_spares hop hstep
      obtain ⟨htypedId', hget'⟩ := ih hops hrun
      exact ⟨htypedId'.trans htypedId, hget'.trans hget⟩

theorem exists_run_iff (typedId : String) (attributes : Members) :
    (∃ ops r, run ops = some r ∧ r.typedId = typedId ∧ r.attributes = attributes) ↔
      Admissible typedId attributes := by
  constructor
  · rintro ⟨ops, r, -, rfl, rfl⟩
    exact r.admissible
  · intro h
    obtain ⟨r, hr⟩ := exists_ofParts_iff.mpr h
    exact ⟨[.ofParts typedId attributes], r, toOption_eq_some_iff.mpr hr, ofParts_eq_ok_iff.mp hr⟩

/-- Runs make exactly the records of admissible parts. Adding an attribute changes that attribute or
nothing, and what a run does not name it leaves alone. Parts are taken as they are or refused for
the first reason there is. -/
theorem run_keeps_records :
    (∀ typedId attributes,
      (∃ ops r, run ops = some r ∧ r.typedId = typedId ∧ r.attributes = attributes) ↔
        Admissible typedId attributes) ∧
    (∀ (r : Identity) key value,
      ((∃ e, r.set key value = .error e) ↔ RefusedKey key) ∧
      ∀ r', r.set key value = .ok r' → r'.typedId = r.typedId ∧
        ∀ k, r'.get? k = if k = key then some value else r.get? k) ∧
    (∀ before after key value, RefusedKey key →
      run (before ++ .set key value :: after) = run (before ++ after)) ∧
    (∀ before after, run (before ++ .rebuild :: after) = run (before ++ after)) ∧
    (∀ before ops r r' k, run before = some r → run (before ++ ops) = some r' →
      (∀ op ∈ ops, op.Spares k) → r'.typedId = r.typedId ∧ r'.get? k = r.get? k) ∧
    ∀ typedId attributes,
      ((∃ r, Identity.ofParts typedId attributes = .ok r) ↔ Admissible typedId attributes) ∧
      (∀ r, Identity.ofParts typedId attributes = .ok r →
        r.typedId = typedId ∧ r.attributes = attributes) ∧
      ∀ e, Identity.ofParts typedId attributes = .error e →
        trim typedId = "" ∧ e = .blankId ∨
          trim typedId ≠ "" ∧ ∃ key, FirstRefused attributes key ∧ e = .ofRefused key := by
  refine ⟨exists_run_iff, ?_, ?_, ?_, ?_, ?_⟩
  · intro r key value
    refine ⟨exists_set_eq_error_iff, fun r' h => ?_⟩
    exact ⟨(set_eq_ok_iff.mp h).2.1, get?_of_set_eq_ok h⟩
  · intro before after key value h
    exact run_append_cons (fun state => step_set_of_refusedKey state value h) before after
  · exact run_append_cons step_rebuild
  · intro before ops r r' k hbefore hafter hspares
    have hfold : ops.foldl step (run before) = some r' := by rwa [run, ← List.foldl_append]
    rw [hbefore] at hfold
    exact foldl_step_spares hspares hfold
  · intro typedId attributes
    exact ⟨exists_ofParts_iff, fun _ => ofParts_eq_ok_iff.mp, fun _ => ofParts_eq_error⟩

end Identity

end IdentityToken
