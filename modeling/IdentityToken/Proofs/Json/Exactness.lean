import IdentityToken.Proofs.Json.Scalars
/-!
# What is read is what is written

Each value that is read comes from a term that is written there and denotes it. With the converse
this says which texts are read and as which values, without the reader: those of the terms that are
not too deep, as the values that the terms denote.
-/

namespace IdentityToken.Json

open Text

namespace Scan

variable {b rest : Bytes}

theorem exists_blanks (b : Bytes) : ∃ gap, Blanks gap ∧ b = gap ++ skipBlanks b :=
  ⟨b.takeWhile isBlank, List.all_eq_true.mp List.all_takeWhile,
    List.takeWhile_append_dropWhile.symm⟩

theorem word_eq_some_iff {cs : List Char} : word cs b = some rest ↔ b = cs.map ascii ++ rest := by
  induction cs generalizing b with
  | nil => simp [word]
  | cons c cs ih => simp [word, Option.bind_eq_some_iff, eat_eq_some_iff, ih]

/-! ## Lists -/

section lists

variable {α γ : Type} {item : Nat → Scan α} {written : γ → Bytes} {value : γ → Option α}
  {P : γ → Prop} {xs : List α}

/-- Whatever is found as an item is what something that is written there, after blanks, denotes. -/
def OnlyReads (item : Nat → Scan α) (written : γ → Bytes) (value : γ → Option α) (P : γ → Prop) :
    Prop :=
  ∀ index b x rest, item index b = some (x, rest) →
    ∃ gap y, Blanks gap ∧ b = gap ++ (written y ++ rest) ∧ value y = some x ∧ P y

private theorem exists_continued_of_more {close : Char} (hitem : OnlyReads item written value P)
    {fuel index : Nat} (h : more close item fuel index b = some (xs, rest)) :
    ∃ (ys : List γ) (w tail : Bytes), Continued (ys.map written) w ∧ Blanks tail ∧
      b = w ++ (tail ++ ascii close :: rest) ∧ ys.mapM value = some xs ∧ ∀ y ∈ ys, P y := by
  induction fuel generalizing index b xs with
  | zero => cases h
  | succ fuel ih =>
    obtain ⟨gap, hgap, hb⟩ := exists_blanks b
    unfold more at h
    split at h
    · next heat =>
      cases h
      exact ⟨[], [], gap, .nil, hgap, by rw [List.nil_append, ← eat_eq_some_iff.mp heat, ← hb], rfl,
        by simp⟩
    · simp only [Option.bind_eq_bind, Option.bind_eq_some_iff, Option.some.injEq,
        Prod.mk.injEq] at h
      obtain ⟨tail, heat, ⟨x, _⟩, hx, ⟨ys, _⟩, hys, rfl, rfl⟩ := h
      obtain ⟨gap', y, hgap', rfl, hy, hP⟩ := hitem _ _ _ _ hx
      obtain ⟨ys, w, tail, hw, htail, rfl, hvalue, hall⟩ := ih hys
      refine ⟨y :: ys, _, tail, .cons hgap hgap' hw, htail, ?_, ?_,
        List.forall_mem_cons.mpr ⟨hP, hall⟩⟩
      · rw [hb, eat_eq_some_iff.mp heat]
        simp
      · rw [mapM_cons_eq, hy, hvalue]
        rfl

/-- A list that is read is written with commas between its items. -/
theorem exists_listed_of_items {opening close : Char} (hitem : OnlyReads item written value P)
    (h : items opening close item b = some (xs, rest)) :
    ∃ (ys : List γ) (w : Bytes), Listed opening close (ys.map written) w ∧ b = w ++ rest ∧
      ys.mapM value = some xs ∧ ∀ y ∈ ys, P y := by
  simp only [items, Option.bind_eq_bind, Option.bind_eq_some_iff] at h
  obtain ⟨tail, hopening, h⟩ := h
  obtain ⟨gap, hgap, htail⟩ := exists_blanks tail
  split at h
  · next heat =>
    cases h
    refine ⟨[], _, .nil hgap, ?_, rfl, by simp⟩
    rw [eat_eq_some_iff.mp hopening, htail, eat_eq_some_iff.mp heat]
    simp
  · simp only [Option.bind_eq_some_iff, Option.some.injEq, Prod.mk.injEq] at h
    obtain ⟨⟨x, _⟩, hx, ⟨ys, _⟩, hys, rfl, rfl⟩ := h
    obtain ⟨gap', y, hgap', rfl, hy, hP⟩ := hitem _ _ _ _ hx
    obtain ⟨ys, w, tail, hw, hblanks, rfl, hvalue, hall⟩ := exists_continued_of_more hitem hys
    refine ⟨y :: ys, _, .cons hgap' hblanks hw, ?_, ?_, List.forall_mem_cons.mpr ⟨hP, hall⟩⟩
    · rw [eat_eq_some_iff.mp hopening]
      simp
    · rw [mapM_cons_eq, hy, hvalue]
      rfl

end lists

/-! ## Values -/

private theorem exists_written_of_scalar {x : Json} (h : scalar b = some (x, rest)) :
    ∃ t w, Written t w ∧ b = w ++ rest ∧ t.depth = 0 ∧ t.value? = some x := by
  unfold scalar at h
  split at h
  · cases h
  · split at h
    · obtain ⟨_, hword, h⟩ := Option.map_eq_some_iff.mp h
      cases h
      exact ⟨_, _, .null, word_eq_some_iff.mp hword, rfl, rfl⟩
    · split at h
      · obtain ⟨_, hword, h⟩ := Option.map_eq_some_iff.mp h
        cases h
        exact ⟨_, _, .true, word_eq_some_iff.mp hword, rfl, rfl⟩
      · split at h
        · obtain ⟨_, hword, h⟩ := Option.map_eq_some_iff.mp h
          cases h
          exact ⟨_, _, .false, word_eq_some_iff.mp hword, rfl, rfl⟩
        · split at h
          · obtain ⟨⟨s, _⟩, hstring, h⟩ := Option.map_eq_some_iff.mp h
            cases h
            obtain ⟨w, hw, hb⟩ := exists_spelled_of_string hstring
            exact ⟨_, _, .string hw, hb, rfl, rfl⟩
          · obtain ⟨⟨n, _⟩, hnumber, h⟩ := Option.map_eq_some_iff.mp h
            cases h
            simp only [number, Option.bind_eq_bind, Option.bind_eq_some_iff, Option.some.injEq,
              Prod.mk.injEq] at hnumber
            obtain ⟨⟨l, _⟩, hl, m, hm, rfl, rfl⟩ := hnumber
            obtain ⟨n, hb, rfl⟩ := exists_numeral_of_literal hl
            refine ⟨_, _, .number n, hb, rfl, ?_⟩
            rw [Term.value?, hm]
            rfl

/-- On a level, each value that is read is that of a term that is written after blanks and is not
too deep. -/
def ReadsWritten (d : Nat) : Prop :=
  ∀ {b rest : Bytes} {x : Json}, value d b = some (x, rest) → ∃ gap t w, Blanks gap ∧
    Written t w ∧ b = gap ++ (w ++ rest) ∧ t.depth ≤ d ∧ t.value? = some x

private theorem onlyReads_value {d : Nat} (h : ReadsWritten d) :
    OnlyReads (fun _ => value d) (Prod.snd : Term × Bytes → Bytes) (fun y => y.1.value?)
      fun y => Written y.1 y.2 ∧ y.1.depth ≤ d := by
  intro _ b x rest hx
  obtain ⟨gap, t, w, hgap, hw, hb, hdepth, hvalue⟩ := h hx
  exact ⟨gap, (t, w), hgap, hb, hvalue, hw, hdepth⟩

private theorem onlyReads_member {d : Nat} (h : ReadsWritten d) :
    OnlyReads (fun _ => member string fun _ => value d) Entry.octets
      (fun e => e.value.value?.map fun x => (e.name, x))
      fun e => Written e.value e.text ∧ e.value.depth ≤ d := by
  intro _ b m rest hm
  simp only [member, Option.bind_eq_bind, Option.bind_eq_some_iff, Option.some.injEq,
    Prod.mk.injEq] at hm
  obtain ⟨⟨name, b₁⟩, hname, b₂, hcolon, ⟨x, _⟩, hx, rfl, rfl⟩ := hm
  obtain ⟨front, hfront, hb⟩ := exists_blanks b
  obtain ⟨spelling, hspelling, hskip⟩ := exists_spelled_of_string hname
  obtain ⟨before, hbefore, hb₁⟩ := exists_blanks b₁
  obtain ⟨after, t, w, hafter, hw, hb₂, hdepth, hvalue⟩ := h hx
  refine ⟨front, ⟨name, t, spelling, before, after, w, hspelling, hbefore, hafter⟩, hfront, ?_,
    congrArg (Option.map fun x => (name, x)) hvalue, hw, hdepth⟩
  rw [hb, hskip, hb₁, eat_eq_some_iff.mp hcolon, hb₂]
  simp [Entry.octets]

theorem readsWritten (d : Nat) : ReadsWritten d := by
  -- The items of an array are read one level below it, so the induction is on the level.
  induction d with
  | zero =>
    intro b rest x h
    obtain ⟨gap, hgap, hb⟩ := exists_blanks b
    obtain ⟨t, w, hw, hskip, hdepth, hvalue⟩ := exists_written_of_scalar h
    exact ⟨gap, t, w, hgap, hw, hskip ▸ hb, Nat.le_of_eq hdepth, hvalue⟩
  | succ d ih =>
    intro b rest x h
    obtain ⟨gap, hgap, hb⟩ := exists_blanks b
    unfold value at h
    simp only at h
    split at h
    · cases h
    · split at h
      · obtain ⟨⟨xs, _⟩, hitems, h⟩ := Option.map_eq_some_iff.mp h
        cases h
        obtain ⟨ys, w, hw, hskip, hvalue, hall⟩ :=
          exists_listed_of_items (onlyReads_value ih) hitems
        refine ⟨gap, _, w, hgap, .array (fun y hy => (hall y hy).1) hw, hskip ▸ hb,
          Term.depth_array_le_iff.mpr
            ⟨d, rfl, List.forall_mem_map.mpr fun y hy => (hall y hy).2⟩, ?_⟩
        rw [Term.value?_array, List.mapM_map]
        exact congrArg (Option.map array) hvalue
      · split at h
        · obtain ⟨⟨ms, _⟩, hitems, h⟩ := Option.map_eq_some_iff.mp h
          cases h
          obtain ⟨es, w, hw, hskip, hvalue, hall⟩ :=
            exists_listed_of_items (onlyReads_member ih) hitems
          refine ⟨gap, _, w, hgap, .object (fun e he => (hall e he).1) hw, hskip ▸ hb,
            Term.depth_object_le_iff.mpr
              ⟨d, rfl, List.forall_mem_map.mpr fun e he => (hall e he).2⟩, ?_⟩
          rw [Term.value?_object, List.mapM_map]
          exact congrArg (Option.map fun ms => object (.ofList ms)) hvalue
        · obtain ⟨t, w, hw, hskip, hdepth, hvalue⟩ := exists_written_of_scalar h
          exact ⟨gap, t, w, hgap, hw, hskip ▸ hb, by omega, hvalue⟩

end Scan

/-- A text is read as a value exactly if a term that denotes the value is written in it and is not
too deep. -/
theorem ofBytes?_eq_some_iff {b : Bytes} {x : Json} :
    ofBytes? b = some x ↔ ∃ t, Document t b ∧ t.depth ≤ 127 ∧ t.value? = some x := by
  constructor
  · intro h
    obtain ⟨rest, hvalue, hrest⟩ := Scan.complete_eq_some_iff.mp h
    obtain ⟨gap, t, w, hgap, hw, rfl, hdepth, hx⟩ := Scan.readsWritten _ hvalue
    obtain ⟨after, hafter, hb⟩ := Scan.exists_blanks rest
    rw [hrest, List.append_nil] at hb
    exact ⟨t, .mk hgap (hb ▸ hafter) hw, hdepth, hx⟩
  · rintro ⟨t, ht, hdepth, hx⟩
    rw [ofBytes?_document ht hdepth, hx]

/-- A text denotes a value: some term that denotes it is written there and is not too deep. A text
with a number beyond all finite ones denotes none. -/
def Denotes (s : String) (x : Json) : Prop :=
  ∃ t, Document t (utf8 s) ∧ t.depth ≤ 127 ∧ t.value? = some x

theorem ofString?_eq_some_iff {s : String} {x : Json} : ofString? s = some x ↔ Denotes s x :=
  ofBytes?_eq_some_iff

theorem ofString?_eq_none_iff {s : String} : ofString? s = none ↔ ∀ x, ¬Denotes s x := by
  rw [Option.eq_none_iff_forall_ne_some]
  exact forall_congr' fun x => not_congr ofString?_eq_some_iff

end IdentityToken.Json
