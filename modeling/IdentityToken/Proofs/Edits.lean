import IdentityToken.Proofs.Identity
/-!
# Edits of attributes

Setting and removing attributes keeps the typed id. What the edited record has under a name was
written there by the last edit that wrote to this name, and if there is none it is what was there
before. So only the last edit of each name counts, and not the order in which the names are edited.
-/

namespace IdentityToken.Identity

namespace Operation

/-- Operations that change attributes in place. -/
def Edits : Operation → Prop
  | .set _ _ => True
  | .erase _ => True
  | _ => False

/-- What an edit leaves under a name: a value or nothing, if it writes to this name at all. -/
def write? (k : String) : Operation → Option (Option Json)
  | .set key value => if AllowedKey key ∧ k = key then some (some value) else none
  | .erase key => if k = key then some none else none
  | _ => none

end Operation

/-- What the last edit of a name leaves there, if there is such an edit. -/
def lastWrite? (ops : List Operation) (k : String) : Option (Option Json) :=
  ops.reverse.findSome? (·.write? k)

theorem lastWrite?_cons (op : Operation) (ops : List Operation) (k : String) :
    lastWrite? (op :: ops) k = (lastWrite? ops k).or (op.write? k) := by
  rw [lastWrite?, List.reverse_cons, List.findSome?_append, List.findSome?_singleton]
  rfl

theorem exists_set_of_allowedKey {key : String} (h : AllowedKey key) (r : Identity)
    (value : Json) : ∃ s, r.set key value = .ok s := by
  cases hs : r.set key value with
  | ok s => exact ⟨s, rfl⟩
  | error e => exact absurd (exists_set_eq_error_iff.mp ⟨e, hs⟩) (not_refusedKey_iff.mpr h)

private theorem exists_step_edit {op : Operation} (h : op.Edits) (r : Identity) :
    ∃ s, step (some r) op = some s ∧ s.typedId = r.typedId ∧
      ∀ k, s.get? k = (op.write? k).getD (r.get? k) := by
  cases op with
  | ofTypedId | ofKind | ofParts | ofJson | extend | rebuild => exact h.elim
  | set key value =>
    by_cases hkey : AllowedKey key
    · obtain ⟨s, hs⟩ := exists_set_of_allowedKey hkey r value
      refine ⟨s, by simp [step, hs, Except.toOption], (set_eq_ok_iff.mp hs).2.1, fun k => ?_⟩
      rw [get?_of_set_eq_ok hs, Operation.write?]
      by_cases hk : k = key
      · simp [hk, hkey]
      · simp [hk]
    · -- A name that is refused is not written to.
      have hrefused : RefusedKey key :=
        Classical.byContradiction fun h => hkey (not_refusedKey_iff.mp h)
      refine ⟨r, step_set_of_refusedKey (some r) value hrefused, rfl, fun k => ?_⟩
      simp [Operation.write?, hkey]
  | erase key =>
    refine ⟨r.erase key, rfl, rfl, fun k => ?_⟩
    have hget : (r.erase key).get? k = if k = key then none else r.get? k :=
      StringMap.get?_erase r.attributes key k
    rw [hget, Operation.write?]
    by_cases hk : k = key
    · simp [hk]
    · simp [hk]

/-- Edits of a record give a record of the same typed id that has what was written last. -/
theorem exists_foldl_step_edits {ops : List Operation} (h : ∀ op ∈ ops, op.Edits) (r : Identity) :
    ∃ s, ops.foldl step (some r) = some s ∧ s.typedId = r.typedId ∧
      ∀ k, s.get? k = (lastWrite? ops k).getD (r.get? k) := by
  induction ops generalizing r with
  | nil => exact ⟨r, rfl, rfl, fun _ => rfl⟩
  | cons op ops ih =>
    obtain ⟨hop, hops⟩ := List.forall_mem_cons.mp h
    obtain ⟨s, hstep, htypedId, hget⟩ := exists_step_edit hop r
    obtain ⟨s', hrun, htypedId', hget'⟩ := ih hops s
    refine ⟨s', by rw [List.foldl_cons, hstep, hrun], htypedId'.trans htypedId, fun k => ?_⟩
    rw [hget', hget, lastWrite?_cons]
    cases lastWrite? ops k <;> rfl

theorem ext_get? {r s : Identity} (htypedId : r.typedId = s.typedId)
    (hget : ∀ k, r.get? k = s.get? k) : r = s :=
  ext htypedId (StringMap.ext_get? hget)

/-- Two edits write to no common name. -/
def Operation.Apart (a b : Operation) : Prop := ∀ k, a.write? k = none ∨ b.write? k = none

theorem Operation.Apart.symm {a b : Operation} (h : a.Apart b) : b.Apart a := fun k => (h k).symm

private theorem lastWrite?_eq_of_perm {ops ops' : List Operation} (hperm : ops.Perm ops')
    (hapart : ops.Pairwise Operation.Apart) (k : String) :
    lastWrite? ops k = lastWrite? ops' k := by
  induction hperm with
  | nil => rfl
  | cons op _ ih => rw [lastWrite?_cons, lastWrite?_cons, ih hapart.of_cons]
  | swap a b ops =>
    have hab : b.Apart a := (List.pairwise_cons.mp hapart).1 a List.mem_cons_self
    rw [lastWrite?_cons, lastWrite?_cons, lastWrite?_cons, lastWrite?_cons, Option.or_assoc,
      Option.or_assoc]
    rcases hab k with hb | ha
    · rw [hb, Option.none_or, Option.or_none]
    · rw [ha, Option.none_or, Option.or_none]
  | trans hfirst _ ih ih' =>
    exact (ih hapart).trans (ih' (hfirst.pairwise hapart Operation.Apart.symm))

/-- Edits of different names can be made in any order. -/
theorem foldl_step_eq_of_perm {ops ops' : List Operation} (hperm : ops.Perm ops')
    (hedits : ∀ op ∈ ops, op.Edits) (hapart : ops.Pairwise Operation.Apart) (r : Identity) :
    ops.foldl step (some r) = ops'.foldl step (some r) := by
  have hedits' : ∀ op ∈ ops', op.Edits := fun op hop => hedits op (hperm.mem_iff.mpr hop)
  obtain ⟨s, hrun, htypedId, hget⟩ := exists_foldl_step_edits hedits r
  obtain ⟨s', hrun', htypedId', hget'⟩ := exists_foldl_step_edits hedits' r
  have hsame : s = s' := by
    apply ext_get? (htypedId.trans htypedId'.symm)
    intro k
    rw [hget, hget', lastWrite?_eq_of_perm hperm hapart]
  rw [hrun, hrun', hsame]

end IdentityToken.Identity
