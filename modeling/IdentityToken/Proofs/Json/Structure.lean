import IdentityToken.Json.Basic
/-!
# Values of JSON by their structure

A property of all values is proved by induction over arrays and objects. The depth of a value and
the numbers in it are described in the same way.
-/

namespace IdentityToken.Json

/-- A property holds of all values when arrays and objects inherit it from what they contain. -/
@[elab_as_elim]
theorem induction {P : Json → Prop} (null : P null) (bool : ∀ b, P (bool b))
    (number : ∀ n, P (number n)) (string : ∀ s, P (string s))
    (array : ∀ xs : List Json, (∀ x ∈ xs, P x) → P (array xs))
    (object : ∀ m : Members, (∀ x ∈ m.toList, P x.2) → P (object m)) (x : Json) : P x := by
  obtain ⟨r, hr⟩ := x
  induction hr with
  | null => exact null
  | bool b => exact bool b
  | number n => exact number n
  | string s => exact string s
  | @array items each ih =>
    let xs : List Json := items.attach.map fun y => ⟨y.1, each y.1 y.2⟩
    have hxs : Json.array xs = ⟨.array items, .array each⟩ := by
      apply Json.ext
      simp only [Json.array, xs, List.map_map, Raw.array.injEq]
      exact List.attach_map_subtype_val items
    rw [← hxs]
    apply array
    intro x hx
    obtain ⟨y, _, rfl⟩ := List.mem_map.mp hx
    exact ih y.1 y.2
  | @object members sorted each ih =>
    let m : Members := ⟨members.attach.map fun y => (y.1.1, ⟨y.1.2, each y.1 y.2⟩),
      List.pairwise_map.mpr (pairwise_attach sorted)⟩
    have hm : Json.object m = ⟨.object members, .object sorted each⟩ := object_of_members? rfl
    rw [← hm]
    apply object
    intro y hy
    obtain ⟨z, _, rfl⟩ := List.mem_map.mp hy
    exact ih z.1 z.2

/-! ## Depth -/

theorem depthItems_le_iff {xs : List Raw} {d : Nat} :
    Raw.depthItems xs ≤ d ↔ ∀ x ∈ xs, x.depth ≤ d := by
  induction xs with
  | nil => simp [Raw.depthItems]
  | cons x xs ih => rw [Raw.depthItems, Nat.max_le, ih, List.forall_mem_cons]

theorem depthMembers_le_iff {ms : List (String × Raw)} {d : Nat} :
    Raw.depthMembers ms ≤ d ↔ ∀ m ∈ ms, m.2.depth ≤ d := by
  induction ms with
  | nil => simp [Raw.depthMembers]
  | cons m ms ih =>
    obtain ⟨k, x⟩ := m
    rw [Raw.depthMembers, Nat.max_le, ih, List.forall_mem_cons]

/-- An array is one level deeper than its items. -/
theorem depth_array_le_iff {xs : List Json} {d : Nat} :
    (array xs).depth ≤ d + 1 ↔ ∀ x ∈ xs, x.depth ≤ d := by
  rw [depth, array, Raw.depth, Nat.add_le_add_iff_right, depthItems_le_iff]
  exact List.forall_mem_map

/-- An object is one level deeper than its members. -/
theorem depth_object_le_iff {m : Members} {d : Nat} :
    (object m).depth ≤ d + 1 ↔ ∀ x ∈ m.toList, x.2.depth ≤ d := by
  rw [depth, object, Raw.depth, Nat.add_le_add_iff_right, depthMembers_le_iff]
  exact List.forall_mem_map

theorem depth_array_pos (xs : List Json) : ¬(array xs).depth ≤ 0 := by
  simp [depth, array, Raw.depth]

theorem depth_object_pos (m : Members) : ¬(object m).depth ≤ 0 := by
  simp [depth, object, Raw.depth]

/-! ## Numbers -/

/-- Whether a number is an integer. -/
def Number.isInt : Number → Bool
  | .int _ _ => true
  | .float _ => false

mutual

/-- The numbers of a tree. -/
def Raw.numbers : Raw → List Number
  | .number n => [n]
  | .array items => Raw.numbersItems items
  | .object members => Raw.numbersMembers members
  | _ => []

/-- The numbers of a list of trees. -/
def Raw.numbersItems : List Raw → List Number
  | [] => []
  | x :: xs => x.numbers ++ Raw.numbersItems xs

/-- The numbers of the trees of named members. -/
def Raw.numbersMembers : List (String × Raw) → List Number
  | [] => []
  | (_, x) :: ms => x.numbers ++ Raw.numbersMembers ms

end

/-- All numbers in a value are integers. -/
def Integral (x : Json) : Prop := ∀ n ∈ x.raw.numbers, n.isInt = true

instance (x : Json) : Decidable x.Integral :=
  inferInstanceAs (Decidable (∀ n ∈ x.raw.numbers, n.isInt = true))

theorem mem_numbersItems {xs : List Raw} {n : Number} :
    n ∈ Raw.numbersItems xs ↔ ∃ x ∈ xs, n ∈ x.numbers := by
  induction xs with
  | nil => simp [Raw.numbersItems]
  | cons x xs ih => simp [Raw.numbersItems, ih]

theorem mem_numbersMembers {ms : List (String × Raw)} {n : Number} :
    n ∈ Raw.numbersMembers ms ↔ ∃ m ∈ ms, n ∈ m.2.numbers := by
  induction ms with
  | nil => simp [Raw.numbersMembers]
  | cons m ms ih =>
    obtain ⟨k, x⟩ := m
    simp [Raw.numbersMembers, ih]

theorem Integral.of_mem_array {xs : List Json} (h : (array xs).Integral) {x : Json}
    (hx : x ∈ xs) : x.Integral := by
  intro n hn
  apply h
  rw [array, Raw.numbers, mem_numbersItems]
  exact ⟨x.raw, List.mem_map_of_mem hx, hn⟩

/-- An object has integers only when all its members have. -/
theorem integral_object_iff {m : Members} :
    (object m).Integral ↔ ∀ x ∈ m.toList, x.2.Integral := by
  simp only [Integral, object, Raw.numbers, mem_numbersMembers, List.mem_map]
  constructor
  · intro h x hx n hn
    exact h n ⟨_, ⟨x, hx, rfl⟩, hn⟩
  · rintro h n ⟨_, ⟨x, hx, rfl⟩, hn⟩
    exact h x hx n hn

end IdentityToken.Json
