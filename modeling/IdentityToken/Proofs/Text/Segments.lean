import IdentityToken.Text.Split
/-!
# Texts and their segments

Cutting a text at a character and joining pieces that do not contain it are inverse to each other.
A text has exactly one list of segments, so whatever is computed from joined segments is computed
from the text itself.
-/

namespace IdentityToken.Text

/-- No piece contains the character between the pieces. -/
def Separated (c : Char) (pieces : List String) : Prop := ∀ s ∈ pieces, c ∉ s.toList

@[simp] theorem separated_nil (c : Char) : Separated c [] := by simp [Separated]

@[simp] theorem separated_cons (c : Char) (s : String) (pieces : List String) :
    Separated c (s :: pieces) ↔ c ∉ s.toList ∧ Separated c pieces := by
  simp [Separated]

private theorem not_mem_splitList (c : Char) (l : List Char) :
    c ∉ (splitList c l).1 ∧ ∀ p ∈ (splitList c l).2, c ∉ p := by
  induction l with
  | nil => simp [splitList]
  | cons d l ih =>
    by_cases h : d = c
    · simp only [splitList, h, if_true, List.not_mem_nil, not_false_iff, true_and]
      intro p hp
      rcases List.mem_cons.mp hp with rfl | hp
      · exact ih.1
      · exact ih.2 p hp
    · simp only [splitList, h, if_false, List.mem_cons, not_or]
      exact ⟨⟨fun hc => h hc.symm, ih.1⟩, ih.2⟩

theorem separated_split (c : Char) (s : String) : Separated c (split c s) := by
  obtain ⟨hfirst, hrest⟩ := not_mem_splitList c s.toList
  rw [split, separated_cons]
  refine ⟨by simpa using hfirst, ?_⟩
  intro t ht
  obtain ⟨p, hp, rfl⟩ := List.mem_map.mp ht
  simpa using hrest p hp

private theorem splitList_append {c : Char} {l : List Char} (h : c ∉ l) (m : List Char) :
    splitList c (l ++ m) = (l ++ (splitList c m).1, (splitList c m).2) := by
  induction l with
  | nil => rfl
  | cons d l ih =>
    have hd : d ≠ c := fun e => h (by simp [e])
    have hl : c ∉ l := fun e => h (List.mem_cons_of_mem _ e)
    simp [splitList, ih hl, hd]

private theorem splitList_joinTail {c : Char} {pieces : List String} (h : Separated c pieces) :
    splitList c (joinTail c pieces) = ([], pieces.map String.toList) := by
  induction pieces with
  | nil => rfl
  | cons s pieces ih =>
    obtain ⟨hs, hpieces⟩ := (separated_cons c s pieces).mp h
    rw [joinTail, List.cons_append, splitList, splitList_append hs, ih hpieces]
    simp

/-- Pieces that were joined are the segments of the text. -/
theorem split_join {c : Char} {s : String} {pieces : List String}
    (h : Separated c (s :: pieces)) : split c (join c (s :: pieces)) = s :: pieces := by
  obtain ⟨hs, hpieces⟩ := (separated_cons c s pieces).mp h
  rw [split, join, String.toList_ofList, splitList_append hs, splitList_joinTail hpieces]
  simp [Function.comp_def]

/-- A text has segments exactly when they are separated and the text joins them. -/
theorem split_eq_cons_iff {c : Char} {t s : String} {pieces : List String} :
    split c t = s :: pieces ↔ Separated c (s :: pieces) ∧ t = join c (s :: pieces) := by
  constructor
  · intro h
    refine ⟨h ▸ separated_split c t, ?_⟩
    rw [← h, join_split]
  · rintro ⟨h, rfl⟩
    exact split_join h

private theorem joinTail_append (c : Char) (pieces : List String) (last : String) :
    joinTail c (pieces ++ [last]) = joinTail c pieces ++ c :: last.toList := by
  induction pieces with
  | nil => simp [joinTail]
  | cons s pieces ih => simp [joinTail, ih]

/-- The last piece stands after the last mark. -/
theorem join_append_last (c : Char) (s last : String) (pieces : List String) :
    join c (s :: (pieces ++ [last])) = join c (s :: pieces) ++ c.toString ++ last := by
  rw [← String.toList_inj]
  simp [join, joinTail_append, Char.toString]

/-- A text without the mark that is put after a mark is one more segment. -/
theorem split_append_mark {c : Char} {last : String} (h : c ∉ last.toList) (s : String) :
    split c (s ++ c.toString ++ last) = split c s ++ [last] := by
  obtain ⟨first, rest, hsplit⟩ : ∃ first rest, split c s = first :: rest := ⟨_, _, rfl⟩
  obtain ⟨hseparated, hs⟩ := split_eq_cons_iff.mp hsplit
  rw [hsplit, hs, ← join_append_last, List.cons_append]
  refine split_join fun piece hpiece => ?_
  rcases List.mem_append.mp (List.cons_append ▸ hpiece) with hpiece | hpiece
  · exact hseparated piece hpiece
  · exact List.mem_singleton.mp hpiece ▸ h

/-- What holds of the characters of all pieces and of the mark between them holds of a joined
text. -/
theorem forall_mem_join {P : Char → Prop} {c : Char} (hc : P c) {pieces : List String}
    (h : ∀ s ∈ pieces, ∀ d ∈ s.toList, P d) : ∀ d ∈ (join c pieces).toList, P d := by
  have htail {pieces : List String} (h : ∀ s ∈ pieces, ∀ d ∈ s.toList, P d) :
      ∀ d ∈ joinTail c pieces, P d := by
    induction pieces with
    | nil => simp [joinTail]
    | cons s pieces ih =>
      obtain ⟨hs, hpieces⟩ := List.forall_mem_cons.mp h
      simp only [joinTail, List.cons_append, List.forall_mem_cons, List.forall_mem_append]
      exact ⟨hc, hs, ih hpieces⟩
  cases pieces with
  | nil => simp [join]
  | cons s pieces =>
    obtain ⟨hs, hpieces⟩ := List.forall_mem_cons.mp h
    rw [join, String.toList_ofList, List.forall_mem_append]
    exact ⟨hs, htail hpieces⟩

/-! ## The first mark -/

theorem toList_append_mark (s : String) (c : Char) (t : String) :
    (s ++ c.toString ++ t).toList = s.toList ++ c :: t.toList := by
  simp [Char.toString]

/-- A text is cut at the first mark. -/
theorem splitFirst?_append {c : Char} {before : String} (h : c ∉ before.toList) (after : String) :
    splitFirst? c (before ++ c.toString ++ after) = some (before, after) := by
  have hne : ∀ d ∈ before.toList, (d != c) = true := by
    intro d hd
    rw [bne_iff_ne]
    rintro rfl
    exact h hd
  rw [splitFirst?, toList_append_mark, List.takeWhile_append_of_pos hne,
    List.dropWhile_append_of_pos hne]
  simp

/-- A text with a mark is some text without it, the mark and another text. -/
theorem exists_eq_append_mark {c : Char} {s : String} (h : c ∈ s.toList) :
    ∃ before after, c ∉ before.toList ∧ s = before ++ c.toString ++ after := by
  obtain ⟨l, m, hs, hl⟩ := List.eq_append_cons_of_mem h
  refine ⟨String.ofList l, String.ofList m, by simpa using hl, ?_⟩
  rw [← String.toList_inj, toList_append_mark, hs]
  simp

private theorem append_cons_eq_iff {c : Char} {l m l' m' : List Char} :
    l ++ c :: m = l' ++ c :: m' ↔
      (l' = l ∧ m' = m) ∨ ∃ k, (l' = l ++ c :: k ∧ m = k ++ c :: m') ∨
        (l = l' ++ c :: k ∧ m' = k ++ c :: m) := by
  constructor
  · intro h
    rcases List.append_eq_append_iff.mp h with ⟨_ | ⟨d, k⟩, hl, hm⟩ | ⟨_ | ⟨d, k⟩, hl, hm⟩
    · exact .inl ⟨by simpa using hl, (List.cons.inj hm).2.symm⟩
    · obtain ⟨rfl, rfl⟩ := List.cons.inj hm
      exact .inr ⟨k, .inl ⟨hl, rfl⟩⟩
    · exact .inl ⟨by simpa using hl.symm, (List.cons.inj hm).2⟩
    · obtain ⟨rfl, rfl⟩ := List.cons.inj hm
      exact .inr ⟨k, .inr ⟨hl, rfl⟩⟩
  · rintro (⟨rfl, rfl⟩ | ⟨k, ⟨rfl, rfl⟩ | ⟨rfl, rfl⟩⟩) <;> simp

/-- Two texts with a mark between them are put together like two others exactly if they are the same
or the first text of one pair takes in the mark of the other. -/
theorem append_mark_eq_iff {c : Char} {s t s' t' : String} :
    s ++ c.toString ++ t = s' ++ c.toString ++ t' ↔
      (s' = s ∧ t' = t) ∨ ∃ m, (s' = s ++ c.toString ++ m ∧ t = m ++ c.toString ++ t') ∨
        (s = s' ++ c.toString ++ m ∧ t' = m ++ c.toString ++ t) := by
  simp only [← String.toList_inj, toList_append_mark, append_cons_eq_iff]
  refine or_congr_right ⟨?_, ?_⟩
  · rintro ⟨k, h⟩
    exact ⟨String.ofList k, by simpa using h⟩
  · rintro ⟨m, h⟩
    exact ⟨m.toList, h⟩

end IdentityToken.Text
