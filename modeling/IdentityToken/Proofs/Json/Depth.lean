import IdentityToken.Json.Read
import IdentityToken.Proofs.Json.Structure
import IdentityToken.Proofs.StringMap
/-!
# The depth of what is read

A reader that may go down some number of levels finds no value that is deeper, so nothing that is
read from a text is deeper than `maxDepth`. This holds of every text, also of those that nothing
here has written.
-/

namespace IdentityToken.Json

namespace Scan

section lists

variable {α κ : Type} {item : Nat → Scan α} {P : α → Prop} {b rest : Bytes}

private theorem forall_mem_of_more {close : Char}
    (hitem : ∀ index b x rest, item index b = some (x, rest) → P x) {fuel index : Nat}
    {xs : List α} (h : more close item fuel index b = some (xs, rest)) : ∀ x ∈ xs, P x := by
  induction fuel generalizing index b xs with
  | zero => cases h
  | succ fuel ih =>
    unfold more at h
    split at h
    · cases h
      simp
    · simp only [Option.bind_eq_bind, Option.bind_eq_some_iff, Option.some.injEq,
        Prod.mk.injEq] at h
      obtain ⟨_, -, ⟨x, _⟩, hx, ⟨ys, _⟩, hys, rfl, rfl⟩ := h
      exact List.forall_mem_cons.mpr ⟨hitem _ _ _ _ hx, ih hys⟩

/-- What holds of each item that is found holds of the items of a list. -/
theorem forall_mem_of_items {opening close : Char}
    (hitem : ∀ index b x rest, item index b = some (x, rest) → P x) {xs : List α}
    (h : items opening close item b = some (xs, rest)) : ∀ x ∈ xs, P x := by
  simp only [items, Option.bind_eq_bind, Option.bind_eq_some_iff] at h
  obtain ⟨_, -, h⟩ := h
  split at h
  · cases h
    simp
  · simp only [Option.bind_eq_some_iff, Option.some.injEq, Prod.mk.injEq] at h
    obtain ⟨⟨x, _⟩, hx, ⟨ys, _⟩, hys, rfl, rfl⟩ := h
    exact List.forall_mem_cons.mpr ⟨hitem _ _ _ _ hx, forall_mem_of_more hitem hys⟩

theorem forall_mem_of_members {value : String → Scan α}
    (hvalue : ∀ k b x rest, value k b = some (x, rest) → P x) {ms : List (String × α)}
    (h : members value b = some (ms, rest)) : ∀ m ∈ ms, P m.2 := by
  refine forall_mem_of_items (fun _ b m rest hm => ?_) h
  simp only [member, Option.bind_eq_bind, Option.bind_eq_some_iff, Option.some.injEq,
    Prod.mk.injEq] at hm
  obtain ⟨⟨k, _⟩, -, _, -, ⟨x, _⟩, hx, rfl, -⟩ := hm
  exact hvalue _ _ _ _ hx

end lists

theorem depth_scalar {b rest : Bytes} {x : Json} (h : scalar b = some (x, rest)) :
    x.depth = 0 := by
  have hmap {α : Type} {o : Option α} {f : α → Json × Bytes} (hf : ∀ a, (f a).1.depth = 0)
      (ho : o.map f = some (x, rest)) : x.depth = 0 := by
    obtain ⟨a, -, ha⟩ := Option.map_eq_some_iff.mp ho
    simpa [ha] using hf a
  unfold scalar at h
  split at h
  · cases h
  · split at h
    · exact hmap (fun _ => rfl) h
    · split at h
      · exact hmap (fun _ => rfl) h
      · split at h
        · exact hmap (fun _ => rfl) h
        · split at h
          · exact hmap (fun _ => rfl) h
          · exact hmap (fun _ => rfl) h

/-- A value that is read within some depth is no deeper. -/
theorem depth_value_le {d : Nat} {b rest : Bytes} {x : Json}
    (h : value d b = some (x, rest)) : x.depth ≤ d := by
  induction d generalizing b x rest with
  | zero => exact Nat.le_of_eq (depth_scalar h)
  | succ d ih =>
    unfold value at h
    simp only at h
    split at h
    · cases h
    · split at h
      · obtain ⟨⟨xs, _⟩, hxs, h⟩ := Option.map_eq_some_iff.mp h
        cases h
        exact depth_array_le_iff.mpr (forall_mem_of_items (fun _ _ _ _ hx => ih hx) hxs)
      · split at h
        · obtain ⟨⟨ms, _⟩, hms, h⟩ := Option.map_eq_some_iff.mp h
          cases h
          have hdepth : ∀ m ∈ ms, m.2.depth ≤ d :=
            forall_mem_of_members (fun _ _ _ _ hx => ih hx) hms
          -- Of several members with one name the last is kept; it was read, too.
          exact depth_object_le_iff.mpr fun m hm => hdepth m (StringMap.mem_of_mem_ofList hm)
        · rw [depth_scalar h]
          exact Nat.zero_le _

end Scan

theorem depth_le_of_ofBytes? {b : Bytes} {x : Json} (h : ofBytes? b = some x) :
    x.depth ≤ maxDepth := by
  simp only [ofBytes?, Scan.complete, Option.bind_eq_bind, Option.bind_eq_some_iff] at h
  obtain ⟨⟨y, _⟩, hy, h⟩ := h
  split at h
  · cases h
    exact Scan.depth_value_le hy
  · cases h

end IdentityToken.Json
