/-!
# Maps from text

A `StringMap` lists its bindings by strictly increasing key. Keys are compared by code point, which
is the order of their UTF-8 octets. `get?_insert` and `get?_erase` say what an update does to each
look-up.
-/

namespace IdentityToken

/-- A finite map whose bindings stand in the order of their keys. -/
structure StringMap (β : Type) where
  toList : List (String × β)
  sorted : toList.Pairwise (fun a b => a.1 < b.1)

namespace StringMap

variable {β γ : Type}

def empty : StringMap β := ⟨[], .nil⟩

instance : EmptyCollection (StringMap β) := ⟨empty⟩

instance : Inhabited (StringMap β) := ⟨empty⟩

def keys (m : StringMap β) : List String := m.toList.map (·.1)

def size (m : StringMap β) : Nat := m.toList.length

def isEmpty (m : StringMap β) : Bool := m.toList.isEmpty

def get? (m : StringMap β) (k : String) : Option β := m.toList.lookup k

def insertList (k : String) (v : β) : List (String × β) → List (String × β)
  | [] => [(k, v)]
  | (k', v') :: rest =>
    if k < k' then (k, v) :: (k', v') :: rest
    else if k' < k then (k', v') :: insertList k v rest
    else (k, v) :: rest

theorem mem_insertList {k : String} {v : β} {a : String × β} {l : List (String × β)}
    (h : a ∈ insertList k v l) : a = (k, v) ∨ a ∈ l := by
  induction l with
  | nil => exact .inl (by simpa [insertList] using h)
  | cons b l ih =>
    obtain ⟨k', v'⟩ := b
    simp only [insertList] at h
    split at h
    · simpa [or_assoc] using h
    · split at h
      · rcases List.mem_cons.1 h with h | h
        · exact .inr (h ▸ List.mem_cons_self)
        · exact (ih h).imp_right (List.mem_cons_of_mem _)
      · exact (List.mem_cons.1 h).imp_right (List.mem_cons_of_mem _)

theorem eq_of_not_lt {s t : String} (h : ¬s < t) (h' : ¬t < s) : s = t :=
  String.le_antisymm (String.not_lt.1 h') (String.not_lt.1 h)

theorem sorted_insertList {k : String} {v : β} {l : List (String × β)}
    (h : l.Pairwise (fun a b => a.1 < b.1)) :
    (insertList k v l).Pairwise (fun a b => a.1 < b.1) := by
  induction l with
  | nil => simp [insertList]
  | cons b l ih =>
    obtain ⟨k', v'⟩ := b
    obtain ⟨hb, hl⟩ := List.pairwise_cons.1 h
    simp only [insertList]
    split
    · next hk =>
      refine .cons (fun a ha => ?_) h
      rcases List.mem_cons.1 ha with rfl | ha
      · exact hk
      · exact String.lt_trans hk (hb a ha)
    · next hk =>
      split
      · next hk' =>
        refine .cons (fun a ha => ?_) (ih hl)
        rcases mem_insertList ha with rfl | ha
        · exact hk'
        · exact hb a ha
      · next hk' =>
        obtain rfl := eq_of_not_lt hk hk'
        exact .cons hb hl

/-- Binds `k` to `v`, in place of what it was bound to. -/
def insert (m : StringMap β) (k : String) (v : β) : StringMap β :=
  ⟨insertList k v m.toList, sorted_insertList m.sorted⟩

def erase (m : StringMap β) (k : String) : StringMap β :=
  ⟨m.toList.filter (·.1 ≠ k), m.sorted.filter _⟩

/-- The map of the bindings of a list; a later binding of a key replaces an earlier one. -/
def ofList (l : List (String × β)) : StringMap β :=
  l.foldl (fun m (k, v) => m.insert k v) ∅

/-- Binds all keys of `n` as `n` does, in place of what they were bound to. -/
def insertAll (m n : StringMap β) : StringMap β := n.toList.foldl (fun m (k, v) => m.insert k v) m

def map (f : β → γ) (m : StringMap β) : StringMap γ :=
  ⟨m.toList.map fun (k, v) => (k, f v), List.pairwise_map.2 m.sorted⟩

@[simp] theorem toList_empty : (∅ : StringMap β).toList = [] := rfl

@[simp] theorem get?_empty (k : String) : (∅ : StringMap β).get? k = none := rfl

theorem lookup_cons (k k' : String) (v : β) (l : List (String × β)) :
    ((k, v) :: l).lookup k' = if k' = k then some v else l.lookup k' := by
  by_cases h : k' = k
  · simp [h]
  · have : (k' == k) = false := by simpa using h
    simp [List.lookup_cons, h, this]

theorem lookup_insertList (k k' : String) (v : β) (l : List (String × β)) :
    (insertList k v l).lookup k' = if k' = k then some v else l.lookup k' := by
  induction l with
  | nil => simp [insertList, lookup_cons]
  | cons b l ih =>
    obtain ⟨j, w⟩ := b
    simp only [insertList]
    split
    · exact lookup_cons ..
    · next hk =>
      split
      · next hj =>
        by_cases h : k' = k
        · subst h
          have : k' ≠ j := fun e => String.lt_irrefl _ (e ▸ hj)
          simp [lookup_cons, ih, this]
        · simp [lookup_cons, ih, h]
      · next hj =>
        obtain rfl := eq_of_not_lt hk hj
        by_cases h : k' = k <;> simp [lookup_cons, h]

@[simp] theorem get?_insert (m : StringMap β) (k k' : String) (v : β) :
    (m.insert k v).get? k' = if k' = k then some v else m.get? k' :=
  lookup_insertList k k' v m.toList

theorem lookup_filter_ne (k k' : String) (l : List (String × β)) :
    (l.filter (·.1 ≠ k)).lookup k' = if k' = k then none else l.lookup k' := by
  induction l with
  | nil => simp
  | cons b l ih =>
    obtain ⟨j, w⟩ := b
    by_cases hj : j = k
    · rw [List.filter_cons_of_neg (by simpa using hj), ih, lookup_cons]
      by_cases h : k' = k
      · simp [h]
      · have : k' ≠ j := fun e => h (e.trans hj)
        simp [h, this]
    · rw [List.filter_cons_of_pos (by simpa using hj), lookup_cons, lookup_cons, ih]
      by_cases h : k' = k
      · have : k' ≠ j := fun e => hj (e.symm.trans h)
        simp [h, Ne.symm hj]
      · simp [h]

@[simp] theorem get?_erase (m : StringMap β) (k k' : String) :
    (m.erase k).get? k' = if k' = k then none else m.get? k' :=
  lookup_filter_ne k k' m.toList

@[ext] theorem ext {m n : StringMap β} (h : m.toList = n.toList) : m = n := by
  cases m; cases n; cases h; rfl

instance [DecidableEq β] : DecidableEq (StringMap β) := fun m n =>
  decidable_of_iff (m.toList = n.toList) ⟨ext, fun h => h ▸ rfl⟩

end StringMap

end IdentityToken
