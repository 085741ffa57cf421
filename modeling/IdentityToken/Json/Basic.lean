import IdentityToken.Json.Number
import IdentityToken.StringMap
/-!
# JSON values

The members of an object have no order and no repeated name: a value is a tree (`Json.Raw`) whose
objects list their members by increasing name (`Json.Raw.Ordered`). `Json.object` builds an object
from a map of its members, and `Json.members?` gives that map back.
-/

namespace IdentityToken

/-- A tree of JSON with the members of objects as listed. -/
inductive Json.Raw where
  | null
  | bool (value : Bool)
  | number (value : Json.Number)
  | string (value : String)
  | array (items : List Json.Raw)
  | object (members : List (String × Json.Raw))

namespace Json

/-- Every object of the tree lists its members by increasing name. -/
inductive Raw.Ordered : Raw → Prop where
  | null : Ordered .null
  | bool (b : Bool) : Ordered (.bool b)
  | number (n : Number) : Ordered (.number n)
  | string (s : String) : Ordered (.string s)
  | array {items : List Raw} (each : ∀ x ∈ items, Ordered x) : Ordered (.array items)
  | object {members : List (String × Raw)} (sorted : members.Pairwise (fun a b => a.1 < b.1))
      (each : ∀ m ∈ members, Ordered m.2) : Ordered (.object members)

theorem Raw.Ordered.of_mem_array {items : List Raw} (h : Ordered (.array items)) {x : Raw}
    (hx : x ∈ items) : Ordered x := by
  cases h with
  | array each => exact each x hx

theorem Raw.Ordered.of_mem_object {members : List (String × Raw)} (h : Ordered (.object members))
    {m : String × Raw} (hm : m ∈ members) : Ordered m.2 := by
  cases h with
  | object _ each => exact each m hm

theorem Raw.Ordered.sorted_object {members : List (String × Raw)} (h : Ordered (.object members)) :
    members.Pairwise (fun a b => a.1 < b.1) := by
  cases h with
  | object sorted _ => exact sorted

end Json

structure Json where
  raw : Json.Raw
  ordered : raw.Ordered

abbrev Members := StringMap Json

namespace Json

@[ext] theorem ext {x y : Json} (h : x.raw = y.raw) : x = y := by
  cases x; cases y; cases h; rfl

def null : Json := ⟨.null, .null⟩

def bool (b : Bool) : Json := ⟨.bool b, .bool b⟩

def number (n : Number) : Json := ⟨.number n, .number n⟩

def string (s : String) : Json := ⟨.string s, .string s⟩

def array (items : List Json) : Json :=
  ⟨.array (items.map Json.raw), .array fun _ h =>
    let ⟨x, _, e⟩ := List.mem_map.1 h
    e ▸ x.ordered⟩

def object (m : Members) : Json :=
  ⟨.object (m.toList.map fun (k, v) => (k, v.raw)),
    .object (List.pairwise_map.2 m.sorted) fun _ h =>
      let ⟨x, _, e⟩ := List.mem_map.1 h
      e ▸ x.2.ordered⟩

instance : Inhabited Json := ⟨null⟩

def string? (x : Json) : Option String :=
  match x.raw with
  | .string s => some s
  | _ => none

def number? (x : Json) : Option Number :=
  match x.raw with
  | .number n => some n
  | _ => none

theorem pairwise_attach {α : Type} {R : α → α → Prop} {l : List α} (h : l.Pairwise R) :
    l.attach.Pairwise (fun a b => R a.1 b.1) := by
  rw [← List.attach_map_subtype_val l] at h
  exact List.pairwise_map.1 h

def members? (x : Json) : Option Members :=
  match x with
  | ⟨.object ms, h⟩ =>
    some ⟨ms.attach.map fun m => (m.1.1, ⟨m.1.2, h.of_mem_object m.2⟩),
      List.pairwise_map.2 (pairwise_attach h.sorted_object)⟩
  | _ => none

@[simp] theorem string?_string (s : String) : (string s).string? = some s := rfl

@[simp] theorem number?_number (n : Number) : (number n).number? = some n := rfl

@[simp] theorem members?_object (m : Members) : (object m).members? = some m := by
  obtain ⟨l, h⟩ := m
  simp only [object, members?, Option.some.injEq, StringMap.mk.injEq]
  rw [List.attach_map, List.map_map]
  exact List.attach_map_subtype_val l

/-- An object is determined by its members. -/
theorem object_of_members? {x : Json} {m : Members} (h : x.members? = some m) : object m = x := by
  obtain ⟨r, hr⟩ := x
  cases r with
  | object ms =>
    simp only [members?, Option.some.injEq] at h
    subst h
    apply ext
    simp only [object, List.map_map, Raw.object.injEq]
    exact List.attach_map_subtype_val ms
  | _ => simp [members?] at h

mutual

/-- How many arrays and objects stand around the innermost value. -/
def Raw.depth : Raw → Nat
  | .array items => Raw.depthItems items + 1
  | .object members => Raw.depthMembers members + 1
  | _ => 0

def Raw.depthItems : List Raw → Nat
  | [] => 0
  | x :: xs => max x.depth (Raw.depthItems xs)

def Raw.depthMembers : List (String × Raw) → Nat
  | [] => 0
  | (_, x) :: ms => max x.depth (Raw.depthMembers ms)

end

def depth (x : Json) : Nat := x.raw.depth

end Json

end IdentityToken
