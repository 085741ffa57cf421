import IdentityToken.StringMap
/-!
# Maps and their look-ups

A map lists its bindings by increasing key, so it is determined by its look-ups, and a look-up finds
exactly the bindings that are listed. Building a map from its own bindings gives it back.
-/

namespace IdentityToken.StringMap

variable {β : Type}

private theorem lookup_cons_eq (b : String × β) (l : List (String × β)) (k : String) :
    (b :: l).lookup k = if k = b.1 then some b.2 else l.lookup k := lookup_cons b.1 k b.2 l

private theorem lookup_eq_none {l : List (String × β)} {k : String} (h : ∀ b ∈ l, k < b.1) :
    l.lookup k = none := by
  induction l with
  | nil => rfl
  | cons b l ih =>
    have hk : k ≠ b.1 := fun e => String.lt_irrefl _ (e ▸ h b (by simp))
    rw [lookup_cons_eq, if_neg hk, ih fun b' hb => h b' (List.mem_cons_of_mem _ hb)]

private theorem mem_iff_lookup {l : List (String × β)} (h : l.Pairwise (fun a b => a.1 < b.1))
    {k : String} {v : β} : (k, v) ∈ l ↔ l.lookup k = some v := by
  induction l with
  | nil => simp
  | cons b l ih =>
    obtain ⟨j, w⟩ := b
    obtain ⟨hb, hl⟩ := List.pairwise_cons.mp h
    rw [lookup_cons, List.mem_cons, ih hl]
    by_cases hk : k = j
    · subst hk
      have hnone : l.lookup k = none := lookup_eq_none hb
      simp [hnone, eq_comm]
    · simp [hk]

/-- A look-up finds exactly the bindings that are listed. -/
theorem mem_toList_iff {m : StringMap β} {k : String} {v : β} :
    (k, v) ∈ m.toList ↔ m.get? k = some v := mem_iff_lookup m.sorted

theorem get?_eq_none_of_forall_ne {m : StringMap β} {k : String} (h : ∀ b ∈ m.toList, b.1 ≠ k) :
    m.get? k = none := by
  cases hv : m.get? k with
  | none => rfl
  | some v => exact absurd rfl (h _ (mem_toList_iff.mpr hv))

private theorem eq_of_lookup {l m : List (String × β)} (hl : l.Pairwise (fun a b => a.1 < b.1))
    (hm : m.Pairwise (fun a b => a.1 < b.1)) (h : ∀ k, l.lookup k = m.lookup k) : l = m := by
  induction l generalizing m with
  | nil =>
    cases m with
    | nil => rfl
    | cons b m => simpa [lookup_cons_eq] using h b.1
  | cons a l ih =>
    cases m with
    | nil => simpa [lookup_cons_eq] using h a.1
    | cons b m =>
      obtain ⟨ha, hl'⟩ := List.pairwise_cons.mp hl
      obtain ⟨hb, hm'⟩ := List.pairwise_cons.mp hm
      -- Each first key is bound on the other side, so neither is below the other.
      have hba : ¬a.1 < b.1 := by
        intro hlt
        have hnone : (b :: m).lookup a.1 = none := lookup_eq_none fun c hc => by
          rcases List.mem_cons.mp hc with rfl | hc
          · exact hlt
          · exact String.lt_trans hlt (hb c hc)
        simpa [hnone, lookup_cons_eq] using h a.1
      have hab : ¬b.1 < a.1 := by
        intro hlt
        have hnone : (a :: l).lookup b.1 = none := lookup_eq_none fun c hc => by
          rcases List.mem_cons.mp hc with rfl | hc
          · exact hlt
          · exact String.lt_trans hlt (ha c hc)
        simpa [hnone, lookup_cons_eq] using (h b.1).symm
      have hkey : a.1 = b.1 := eq_of_not_lt hba hab
      have hvalue : a.2 = b.2 := by simpa [lookup_cons_eq, hkey] using h a.1
      obtain rfl : a = b := Prod.ext hkey hvalue
      congr 1
      apply ih hl' hm'
      intro k
      by_cases hk : k = a.1
      · rw [hk, lookup_eq_none ha, lookup_eq_none hb]
      · simpa [lookup_cons_eq, hk] using h k

/-- Maps with the same look-ups are the same. -/
theorem ext_get? {m n : StringMap β} (h : ∀ k, m.get? k = n.get? k) : m = n :=
  ext (eq_of_lookup m.sorted n.sorted h)

private theorem get?_foldl_insert {l : List (String × β)}
    (h : l.Pairwise (fun a b => a.1 < b.1)) (m : StringMap β) (k : String) :
    (l.foldl (fun m (k, v) => m.insert k v) m).get? k = (l.lookup k).or (m.get? k) := by
  induction l generalizing m with
  | nil => rfl
  | cons b l ih =>
    obtain ⟨hb, hl⟩ := List.pairwise_cons.mp h
    rw [List.foldl_cons, ih hl, get?_insert, lookup_cons_eq]
    by_cases hk : k = b.1
    · have hnone : l.lookup k = none := lookup_eq_none (hk ▸ hb)
      simp [hk ▸ hnone, hk]
    · simp [hk]

@[simp] theorem get?_insertAll (m n : StringMap β) (k : String) :
    (m.insertAll n).get? k = (n.get? k).or (m.get? k) := get?_foldl_insert n.sorted m k

private theorem insertList_append {k : String} (v : β) {l : List (String × β)}
    (h : ∀ b ∈ l, b.1 < k) : insertList k v l = l ++ [(k, v)] := by
  induction l with
  | nil => rfl
  | cons b l ih =>
    have hb : b.1 < k := h b (by simp)
    have hk : ¬k < b.1 := fun hlt => String.lt_irrefl _ (String.lt_trans hb hlt)
    rw [insertList, if_neg hk, if_pos hb, ih fun b' hb' => h b' (List.mem_cons_of_mem _ hb'),
      List.cons_append]

private theorem toList_foldl_insert {l : List (String × β)} {m : StringMap β}
    (h : (m.toList ++ l).Pairwise (fun a b => a.1 < b.1)) :
    (l.foldl (fun m (k, v) => m.insert k v) m).toList = m.toList ++ l := by
  induction l generalizing m with
  | nil => simp
  | cons b l ih =>
    have hb : ∀ a ∈ m.toList, a.1 < b.1 := fun a ha =>
      (List.pairwise_append.mp h).2.2 a ha b (by simp)
    have hm : (m.insert b.1 b.2).toList = m.toList ++ [b] := insertList_append b.2 hb
    rw [List.foldl_cons, ih (by simpa [hm] using h), hm, List.append_assoc, List.singleton_append]

/-- A map is built again from its own bindings. -/
@[simp] theorem ofList_toList (m : StringMap β) : ofList m.toList = m :=
  ext (toList_foldl_insert (by simpa using m.sorted))

private theorem mem_foldl_insert {l : List (String × β)} {m : StringMap β} {a : String × β}
    (h : a ∈ (l.foldl (fun m (k, v) => m.insert k v) m).toList) : a ∈ m.toList ∨ a ∈ l := by
  induction l generalizing m with
  | nil => exact .inl h
  | cons b l ih =>
    rcases ih h with h | h
    · rcases mem_insertList h with rfl | h
      · exact .inr List.mem_cons_self
      · exact .inl h
    · exact .inr (List.mem_cons_of_mem _ h)

/-- A map has no other bindings than the list that it is built from. -/
theorem mem_of_mem_ofList {l : List (String × β)} {a : String × β} (h : a ∈ (ofList l).toList) :
    a ∈ l :=
  (mem_foldl_insert h).resolve_left List.not_mem_nil

end IdentityToken.StringMap
