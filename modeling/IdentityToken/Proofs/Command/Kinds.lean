import IdentityToken.Proofs.Command.Acceptance
import IdentityToken.Proofs.Identity
import IdentityToken.Proofs.Text.Segments
/-!
# Kinds and ids

A record that is made of a kind and an id has both with a mark between them as its typed id, which
is taken apart at the first mark. The kind and the id come back exactly if the kind has no mark of
its own. A kind with a mark gives the record of another kind, and its token then carries that one.
-/

namespace IdentityToken

open Text

namespace Identity

variable {kind id : String} {r : Identity}

/-! ## Putting together and taking apart -/

theorem ofKind_eq_ok_iff :
    ofKind kind id = .ok r ↔
      (¬Blank kind ∧ ¬Blank id) ∧ r.typedId = typed kind id ∧ r.attributes = ∅ := by
  by_cases hkind : Blank kind
  · simp [ofKind, hkind]
  · by_cases hid : Blank id
    · simp [ofKind, hkind, hid]
    · have htyped : ofKind kind id = .ok ⟨typed kind id, ∅, not_blank_typed kind id, by simp⟩ := by
        rw [ofKind, if_neg hkind, if_neg hid]
        exact dif_neg (not_blank_typed kind id)
      simp only [htyped, hkind, hid, not_false_iff, and_self, true_and, Except.ok.injEq]
      constructor
      · rintro rfl
        exact ⟨rfl, rfl⟩
      · rintro ⟨htypedId, hattributes⟩
        exact ext htypedId.symm hattributes.symm

theorem exists_ofKind_iff : (∃ r, ofKind kind id = .ok r) ↔ ¬Blank kind ∧ ¬Blank id := by
  simp only [ofKind_eq_ok_iff]
  constructor
  · rintro ⟨_, h, -⟩
    exact h
  · intro h
    exact ⟨⟨typed kind id, ∅, not_blank_typed kind id, by simp⟩, h, rfl, rfl⟩

/-- The first mark is where a typed id is taken apart. -/
theorem kind?_id_of_typedId {before after : String} (hbefore : separator ∉ before.toList)
    (h : r.typedId = typed before after) : r.kind? = some before ∧ r.id = after := by
  have hsplit : splitFirst? separator r.typedId = some (before, after) := by
    rw [h]
    exact splitFirst?_append hbefore after
  simp only [Identity.kind?, Identity.id, hsplit]
  exact ⟨rfl, rfl⟩

theorem typed_typed (a b c : String) : typed (typed a b) c = typed a (typed b c) := by
  rw [← String.toList_inj]
  simp only [typed, toList_append_mark, List.append_assoc, List.cons_append]

/-- If a kind has a mark, the text before it is the kind that a typed id has, and the rest goes to
the id. -/
theorem kind?_id_of_typed {before after : String} (hbefore : separator ∉ before.toList)
    (hkind : kind = typed before after) (h : r.typedId = typed kind id) :
    r.kind? = some before ∧ r.id = typed after id := by
  apply kind?_id_of_typedId hbefore
  rw [h, hkind, typed_typed]

private theorem typed_ne (before after : String) :
    typed before after ≠ before ∧ typed before after ≠ after := by
  have hlength {s : String} (h : typed before after = s) :
      s.toList.length = before.toList.length + after.toList.length + 1 := by
    rw [← h, typed, toList_append_mark, List.length_append, List.length_cons]
    omega
  refine ⟨fun h => ?_, fun h => ?_⟩
  · have := hlength h
    omega
  · have := hlength h
    omega

theorem kind?_eq_some_kind_iff (h : r.typedId = typed kind id) :
    (r.kind? = some kind ↔ separator ∉ kind.toList) ∧ (r.id = id ↔ separator ∉ kind.toList) := by
  by_cases hmark : separator ∈ kind.toList
  · obtain ⟨before, after, hbefore, hkind⟩ := exists_eq_append_mark hmark
    obtain ⟨hk, hid⟩ := kind?_id_of_typed hbefore hkind h
    refine ⟨iff_of_false ?_ (not_not_intro hmark), iff_of_false ?_ (not_not_intro hmark)⟩
    · rw [hk, Option.some.injEq, hkind]
      exact (typed_ne before after).1.symm
    · rw [hid]
      exact (typed_ne after id).2
  · obtain ⟨hk, hid⟩ := kind?_id_of_typedId hmark h
    exact ⟨iff_of_true hk hmark, iff_of_true hid hmark⟩

/-- Two pairs give the same typed id exactly if they are equal or one kind takes in a mark of the
other id. -/
theorem typed_eq_typed_iff {kind' id' : String} :
    typed kind' id' = typed kind id ↔
      (kind' = kind ∧ id' = id) ∨ ∃ m, (kind' = typed kind m ∧ id = typed m id') ∨
        (kind = typed kind' m ∧ id' = typed m id) :=
  eq_comm.trans append_mark_eq_iff

end Identity

namespace Command

variable {r r' : Identity}

/-! ## On command -/

theorem IdentityOptions.typedId_of_setAttribute {text : String}
    (h : setAttribute r text = .ok r') : r'.typedId = r.typedId := by
  obtain ⟨⟨key, value⟩, -, hset⟩ := bind_eq_ok_iff.mp h
  exact (Identity.set_eq_ok_iff.mp (mapError_eq_ok_iff.mp hset)).2.1

/-- Attributes do not change the typed id. -/
theorem IdentityOptions.typedId_of_foldlM {texts : List String}
    (h : texts.foldlM setAttribute r = .ok r') : r'.typedId = r.typedId := by
  induction texts generalizing r with
  | nil =>
    cases h
    rfl
  | cons text texts ih =>
    rw [List.foldlM_cons] at h
    obtain ⟨s, hs, hrest⟩ := bind_eq_ok_iff.mp h
    exact (ih hrest).trans (typedId_of_setAttribute hs)

theorem IdentityOptions.typedId_of_subject {kind id : String} {attributes : List String}
    {files : FileSystem}
    (h : IdentityOptions.identity ⟨.subject (some kind) id, attributes⟩ files = .ok r) :
    (¬Blank kind ∧ ¬Blank id) ∧ r.typedId = Identity.typed kind id := by
  obtain ⟨base, hbase, hattributes⟩ := bind_eq_ok_iff.mp h
  obtain ⟨hblank, htypedId, -⟩ := Identity.ofKind_eq_ok_iff.mp (mapError_eq_ok_iff.mp hbase)
  exact ⟨hblank, (typedId_of_foldlM hattributes).trans htypedId⟩

/-- The token that is made for a subject of a kind carries both in its typed id. -/
theorem typedId_of_mint {c : Config} {s : Surroundings} {kind id : String}
    {attributes : List String} {secrets : SecretOptions} {signedOnly encrypted : Bool}
    {fresh : Fresh} {text : String}
    (h : mint c s ⟨.subject (some kind) id, attributes⟩ secrets signedOnly fresh
      = .ok (text, encrypted)) :
    ∃ (r : Identity) (i : Issuer),
      IdentityOptions.identity ⟨.subject (some kind) id, attributes⟩ s.files = .ok r ∧
      secrets.issuer c s signedOnly = .ok i ∧ i.issue r fresh.now fresh.iv = .ok text ∧
      r.typedId = Identity.typed kind id ∧
      ((∀ m ∈ r.attributes.toList, m.2.Integral) → (∀ m ∈ r.attributes.toList, m.2.depth ≤ 126) →
        ∀ encryption defaultKind, secrets.encryptionSecret? c s = .ok encryption →
          ∃ v, secrets.validator c s defaultKind = .ok v ∧ v.validate text = .ok r) := by
  obtain ⟨r, i, hr, hissuer, hissue, -⟩ := mint_eq_ok_iff.mp h
  have htypedId := (IdentityOptions.typedId_of_subject hr).2
  have hmark : Identity.separator ∈ r.typedId.toList := by
    rw [htypedId, Identity.typed, toList_append_mark]
    simp
  refine ⟨r, i, hr, hissuer, hissue, htypedId, ?_⟩
  intro hintegral hdepth encryption defaultKind hencryption
  have hread : ∃ v, secrets.validator c s defaultKind = .ok v ∧
      v.validate text = .ok (r.withKind ((defaultKind.or c.defaultKind).getD "JwtProfile")) :=
    exists_validator_of_mint h hr hintegral hdepth hencryption
  rw [Identity.withKind_of_separator_mem hmark] at hread
  exact hread

end Command

open Command in
/-- A record is made of every kind and id that are not blank. Both come back exactly if the kind has
no mark of its own. Otherwise the kind is cut at its first mark and the rest of it goes to the id,
so different pairs can give one typed id, but only by moving a mark from one to the other. A token
that is made for a subject of a kind carries the same typed id and is read back with it. -/
theorem Identity.kind_id_of_ofKind (kind id : String) :
    ((∃ r, ofKind kind id = .ok r) ↔ ¬Blank kind ∧ ¬Blank id) ∧
    (∀ r, ofKind kind id = .ok r →
      r.typedId = kind ++ "#" ++ id ∧ r.attributes = ∅ ∧
      (r.kind? = some kind ↔ '#' ∉ kind.toList) ∧ (r.id = id ↔ '#' ∉ kind.toList) ∧
      (∀ before after, '#' ∉ before.toList → kind = before ++ "#" ++ after →
        r.kind? = some before ∧ r.id = after ++ "#" ++ id) ∧
      ∀ kind' id' r', ofKind kind' id' = .ok r' →
        (r'.typedId = r.typedId ↔ (kind' = kind ∧ id' = id) ∨
          ∃ m, (kind' = kind ++ "#" ++ m ∧ id = m ++ "#" ++ id') ∨
            (kind = kind' ++ "#" ++ m ∧ id' = m ++ "#" ++ id)) ∧
        ('#' ∉ kind.toList → '#' ∉ kind'.toList → r'.typedId = r.typedId →
          kind' = kind ∧ id' = id)) ∧
    ∀ c s attributes secrets signedOnly fresh text encrypted,
      mint c s ⟨.subject (some kind) id, attributes⟩ secrets signedOnly fresh
        = .ok (text, encrypted) →
      ∃ (r : Identity) (i : Issuer),
        IdentityOptions.identity ⟨.subject (some kind) id, attributes⟩ s.files = .ok r ∧
        secrets.issuer c s signedOnly = .ok i ∧ i.issue r fresh.now fresh.iv = .ok text ∧
        r.typedId = kind ++ "#" ++ id ∧
        (r.kind? = some kind ↔ '#' ∉ kind.toList) ∧ (r.id = id ↔ '#' ∉ kind.toList) ∧
        ((∀ m ∈ r.attributes.toList, m.2.Integral) →
          (∀ m ∈ r.attributes.toList, m.2.depth ≤ 126) →
          ∀ encryption defaultKind, secrets.encryptionSecret? c s = .ok encryption →
            ∃ v, secrets.validator c s defaultKind = .ok v ∧ v.validate text = .ok r) := by
  refine ⟨exists_ofKind_iff, ?_, ?_⟩
  · intro r hr
    obtain ⟨-, htypedId, hattributes⟩ := ofKind_eq_ok_iff.mp hr
    obtain ⟨hkind, hid⟩ := kind?_eq_some_kind_iff htypedId
    refine ⟨htypedId, hattributes, hkind, hid,
      fun before after hbefore hk => kind?_id_of_typed hbefore hk htypedId, ?_⟩
    intro kind' id' r' hr'
    obtain ⟨-, htypedId', -⟩ := ofKind_eq_ok_iff.mp hr'
    refine ⟨by rw [htypedId, htypedId']; exact typed_eq_typed_iff, ?_⟩
    intro hmark hmark' hsame
    -- Without a mark in the kinds, both are read off the one typed id.
    obtain ⟨hk, hi⟩ := kind?_id_of_typedId hmark htypedId
    obtain ⟨hk', hi'⟩ := kind?_id_of_typedId hmark' (hsame.symm.trans htypedId')
    exact ⟨Option.some.inj (hk'.symm.trans hk), hi'.symm.trans hi⟩
  · intro c s attributes secrets signedOnly fresh text encrypted hmint
    obtain ⟨r, i, hr, hissuer, hissue, htypedId, hvalidate⟩ := typedId_of_mint hmint
    obtain ⟨hkind, hid⟩ := kind?_eq_some_kind_iff htypedId
    exact ⟨r, i, hr, hissuer, hissue, htypedId, hkind, hid, hvalidate⟩

open Command in
/-- A kind without a mark comes back with its id, also where the id has a mark, and a token that is
made for them is read back. -/
theorem Identity.kind_id_of_user :
    ∃ r, ofKind "User" "alice#2" = .ok r ∧ r.typedId = "User#alice#2" ∧
      r.kind? = some "User" ∧ r.id = "alice#2" ∧
      ∃ (text : String) (encrypted : Bool) (v : Validator),
        mint default keyring ⟨.subject (some "User") "alice#2", []⟩ ⟨none, some "e.key"⟩ false
          moment = .ok (text, encrypted) ∧
        v.validate text = .ok r := by
  obtain ⟨hexists, hparts, htoken⟩ := kind_id_of_ofKind "User" "alice#2"
  obtain ⟨r, hr⟩ := hexists.mpr (by decide)
  obtain ⟨htypedId, hattributes, hkind, hid, -⟩ := hparts r hr
  have hidentity : IdentityOptions.identity ⟨.subject (some "User") "alice#2", []⟩ keyring.files
      = .ok r := bind_ok (mapError_ok hr .record) _
  obtain ⟨text, encrypted, hmint⟩ :=
    exists_mint_of_identity ⟨r, hidentity⟩ false (some "e.key") fun _ => rfl
  obtain ⟨r', i, hr', -, -, -, -, -, hread⟩ := htoken _ _ _ _ _ _ _ _ hmint
  obtain rfl : r' = r := Except.ok.inj (hr'.symm.trans hidentity)
  have hnone : ∀ m, m ∉ r'.attributes.toList := by simp [hattributes]
  obtain ⟨v, -, hvalidate⟩ := hread (fun m hm => absurd hm (hnone m))
    (fun m hm => absurd hm (hnone m)) _ none resolve_keyring.2.1
  exact ⟨r', hr, htypedId, hkind.mpr (by decide), hid.mpr (by decide), text, encrypted, v,
    hmint, hvalidate⟩

open Command in
/-- A kind with a mark gives the record and the token of another kind. -/
theorem Identity.ofKind_collides :
    ∃ r text encrypted, ofKind "A#B" "c" = .ok r ∧ ofKind "A" "B#c" = .ok r ∧
      r.kind? = some "A" ∧ r.kind? ≠ some "A#B" ∧ r.id = "B#c" ∧ r.id ≠ "c" ∧
      mint default keyring ⟨.subject (some "A#B") "c", []⟩ ⟨none, some "e.key"⟩ false moment
        = .ok (text, encrypted) ∧
      mint default keyring ⟨.subject (some "A") "B#c", []⟩ ⟨none, some "e.key"⟩ false moment
        = .ok (text, encrypted) := by
  have hsame : ofKind "A#B" "c" = ofKind "A" "B#c" := rfl
  have hidentity : ∃ r, IdentityOptions.identity ⟨.subject (some "A#B") "c", []⟩ keyring.files
      = .ok r := ⟨_, rfl⟩
  obtain ⟨text, encrypted, hmint⟩ :=
    exists_mint_of_identity hidentity false (some "e.key") fun _ => rfl
  exact ⟨_, text, encrypted, rfl, hsame.symm, rfl, by decide, rfl, by decide, hmint, hmint⟩

end IdentityToken
