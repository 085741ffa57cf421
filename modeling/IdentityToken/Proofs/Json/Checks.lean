import IdentityToken.Proofs.Json.Depth
import IdentityToken.Proofs.Json.RoundTrip
/-!
# Reading values and checking them

The first mark of a text decides whether it is an array or an object. A list whose items are scanned
and checked one by one is scanned and then checked as a whole, so a reader that looks for something
special in a list finds what is found among the values that are read of it.
-/

namespace IdentityToken.Json

/-- The first octet that is no blank opens an object. -/
def OpensObject (b : Bytes) : Prop := ∃ rest, Scan.skipBlanks b = Scan.ascii '{' :: rest

theorem not_opensObject_of_square {b tail : Bytes}
    (h : Scan.skipBlanks b = Scan.ascii '[' :: tail) : ¬OpensObject b := by
  rintro ⟨rest, hcurly⟩
  rw [h] at hcurly
  exact absurd (List.cons.inj hcurly).1 (by decide)

theorem array_injective {xs ys : List Json} (h : array xs = array ys) : xs = ys :=
  (List.map_inj_right fun _ _ => Json.ext).mp (Raw.array.inj (congrArg raw h))

namespace Scan

/-! ## The first mark -/

theorem eat_eq_some_iff {c : Char} {b rest : Bytes} :
    eat c b = some rest ↔ b = ascii c :: rest := by
  cases b with
  | nil => simp [eat]
  | cons o b =>
    rw [eat, List.cons.injEq]
    split
    · next h => simp [h]
    · next h => simp [h]

theorem opens_of_items {α : Type} {opening close : Char} {item : Nat → Scan α} {b rest : Bytes}
    {xs : List α} (h : items opening close item b = some (xs, rest)) :
    ∃ tail, b = ascii opening :: tail := by
  obtain ⟨tail, htail, -⟩ := Option.bind_eq_some_iff.mp h
  exact ⟨tail, eat_eq_some_iff.mp htail⟩

/-- What a value is read from: an array, an object or neither. -/
theorem value_cases {d : Nat} {b rest : Bytes} {x : Json} (h : value d b = some (x, rest)) :
    (∃ d' xs, d = d' + 1 ∧ x = array xs ∧
      items '[' ']' (fun _ => value d') (skipBlanks b) = some (xs, rest)) ∨
    (∃ m, x = object m ∧ OpensObject b) ∨
    scalar (skipBlanks b) = some (x, rest) := by
  cases d with
  | zero => exact .inr (.inr h)
  | succ d =>
    cases hb : skipBlanks b with
    | nil => simp [value, hb] at h
    | cons o tail =>
      by_cases hsquare : o = ascii '['
      · subst hsquare
        rw [value_array hb, Option.map_eq_some_iff] at h
        obtain ⟨⟨xs, _⟩, hxs, hx⟩ := h
        cases hx
        exact .inl ⟨d, xs, rfl, rfl, hxs⟩
      · by_cases hcurly : o = ascii '{'
        · subst hcurly
          rw [value_object hb, Option.map_eq_some_iff] at h
          obtain ⟨⟨ms, _⟩, -, hx⟩ := h
          cases hx
          exact .inr (.inl ⟨_, rfl, tail, hb⟩)
        · simp only [value, hb, hsquare, hcurly, if_false] at h
          exact .inr (.inr h)

/-- A value is an object exactly if its first mark opens one. -/
theorem exists_eq_object_iff {d : Nat} {b rest : Bytes} {x : Json}
    (h : value d b = some (x, rest)) : (∃ m, x = object m) ↔ OpensObject b := by
  rcases value_cases h with ⟨d', xs, -, rfl, hitems⟩ | ⟨m, rfl, hb⟩ | hscalar
  · obtain ⟨tail, hsquare⟩ := opens_of_items hitems
    refine iff_of_false ?_ ?_
    · rintro ⟨m, hm⟩
      cases congrArg raw hm
    · rintro ⟨tail', hcurly⟩
      rw [hcurly] at hsquare
      cases (List.cons.inj hsquare).1
  · exact iff_of_true ⟨m, rfl⟩ hb
  · refine iff_of_false ?_ ?_
    · rintro ⟨m, rfl⟩
      exact depth_object_pos m (Nat.le_of_eq (depth_scalar hscalar))
    · rintro ⟨tail, hcurly⟩
      rw [hcurly, scalar_mark (.inr rfl)] at hscalar
      cases hscalar

theorem value_eq_array_iff {d : Nat} {b rest : Bytes} {xs : List Json} :
    value (d + 1) b = some (array xs, rest) ↔
      items '[' ']' (fun _ => value d) (skipBlanks b) = some (xs, rest) := by
  constructor
  · intro h
    rcases value_cases h with ⟨d', ys, hd, harray, hitems⟩ | ⟨m, hm, -⟩ | hscalar
    · cases hd
      rw [array_injective harray, hitems]
    · cases congrArg raw hm
    · exact absurd (Nat.le_of_eq (depth_scalar hscalar)) (depth_array_pos xs)
  · intro h
    obtain ⟨tail, hb⟩ := opens_of_items h
    rw [value_array hb, ← hb, h]
    rfl

theorem complete_eq_some_iff {α : Type} {scan : Scan α} {b : Bytes} {x : α} :
    complete scan b = some x ↔ ∃ rest, scan b = some (x, rest) ∧ skipBlanks rest = [] := by
  simp only [complete, Option.bind_eq_bind, Option.bind_eq_some_iff, Prod.exists,
    Option.ite_none_right_eq_some, Option.some.injEq]
  constructor
  · rintro ⟨y, rest, hy, hrest, rfl⟩
    exact ⟨rest, hy, hrest⟩
  · rintro ⟨rest, hx, hrest⟩
    exact ⟨x, rest, hx, hrest, rfl⟩

/-! ## Checks -/

variable {α β : Type}

/-- Scans and then checks what was found. -/
def filterMap (g : α → Option β) (scan : Scan α) : Scan β := fun b =>
  (scan b).bind fun (x, rest) => (g x).map fun y => (y, rest)

/-- Checks the items of a list, each with its index. -/
def checkFrom (g : Nat → α → Option β) : Nat → List α → Option (List β)
  | _, [] => some []
  | index, x :: xs => (g index x).bind fun y => (checkFrom g (index + 1) xs).map (y :: ·)

/-- An item that is checked and then others that are checked are items that are checked. -/
private theorem filterMap_cons (g : Nat → α → Option β) (index : Nat) (first : Option (α × Bytes))
    (others : Scan (List α)) :
    ((first.bind fun (x, rest) => (g index x).map fun y => (y, rest)).bind fun (y, rest) =>
        (filterMap (checkFrom g (index + 1)) others rest).bind fun (ys, rest) =>
          some (y :: ys, rest))
      = (first.bind fun (x, rest) => (others rest).bind fun (xs, rest) =>
          some (x :: xs, rest)).bind fun (xs, rest) =>
            (checkFrom g index xs).map fun ys => (ys, rest) := by
  cases first with
  | none => rfl
  | some found =>
    obtain ⟨x, rest⟩ := found
    cases hothers : others rest with
    | none => cases g index x <;> simp [filterMap, hothers]
    | some found =>
      obtain ⟨xs, rest'⟩ := found
      cases hx : g index x with
      | none => simp [hothers, checkFrom, hx]
      | some y =>
        cases hxs : checkFrom g (index + 1) xs <;> simp [filterMap, hothers, checkFrom, hx, hxs]

private theorem more_filterMap (close : Char) (item : Nat → Scan α) (g : Nat → α → Option β)
    (fuel index : Nat) :
    more close (fun i => filterMap (g i) (item i)) fuel index
      = filterMap (checkFrom g index) (more close item fuel index) := by
  induction fuel generalizing index with
  | zero => rfl
  | succ fuel ih =>
    funext b
    simp only [filterMap, more, Option.bind_eq_bind]
    cases eat close (skipBlanks b) with
    | some rest => rfl
    | none =>
      cases eat ',' (skipBlanks b) with
      | none => rfl
      | some r =>
        simp only [Option.bind_some]
        rw [← filterMap_cons, ← ih]

/-- Checking each item is checking the list. -/
theorem items_filterMap (opening close : Char) (item : Nat → Scan α) (g : Nat → α → Option β) :
    items opening close (fun i => filterMap (g i) (item i))
      = filterMap (checkFrom g 0) (items opening close item) := by
  funext b
  simp only [filterMap, items, Option.bind_eq_bind]
  cases eat opening b with
  | none => rfl
  | some r =>
    simp only [Option.bind_some]
    cases eat close (skipBlanks r) with
    | some rest => rfl
    | none =>
      rw [← filterMap_cons g 0 (item 0 r) fun rest => more close item rest.length 1 rest]
      refine Option.bind_congr fun found _ => ?_
      rw [more_filterMap]
      rfl

theorem complete_filterMap (g : α → Option β) (scan : Scan α) (b : Bytes) :
    complete (filterMap g scan) b = (complete scan b).bind g := by
  simp only [complete, filterMap, Option.bind_eq_bind]
  cases scan b with
  | none => rfl
  | some found =>
    cases hx : g found.1 <;> by_cases h : skipBlanks found.2 = [] <;> simp [h, hx]

end Scan

/-! ## Whole texts -/

theorem exists_eq_object_iff_opensObject {b : Bytes} {x : Json} (h : ofBytes? b = some x) :
    (∃ m, x = object m) ↔ OpensObject b := by
  obtain ⟨rest, hx, -⟩ := Scan.complete_eq_some_iff.mp h
  exact Scan.exists_eq_object_iff hx

theorem ofBytes?_eq_array_iff {b : Bytes} {xs : List Json} :
    ofBytes? b = some (array xs) ↔
      Scan.complete (Scan.items '[' ']' fun _ => Scan.value 126) (Scan.skipBlanks b) = some xs := by
  rw [ofBytes?, Scan.complete_eq_some_iff, Scan.complete_eq_some_iff]
  exact exists_congr fun rest => and_congr_left' Scan.value_eq_array_iff

end IdentityToken.Json
