/-!
# Outcomes of steps

Reading a token is a sequence of steps each of which may fail. The whole succeeds when every step
does, and naming the cause of a failure differently does not change that. It fails with the cause of
the first step that fails, which `FailsWith` says of the causes of some kind.
-/

namespace IdentityToken

variable {ε ε' α β : Type}

/-- Two steps succeed when the first does and then the second. -/
theorem bind_eq_ok_iff {x : Except ε α} {f : α → Except ε β} {b : β} :
    x >>= f = .ok b ↔ ∃ a, x = .ok a ∧ f a = .ok b := by
  cases x with
  | error e => simp [bind, Except.bind]
  | ok a => simp [bind, Except.bind]

theorem bind_ok {x : Except ε α} {a : α} (h : x = .ok a) (f : α → Except ε β) :
    x >>= f = f a := by
  rw [h]
  rfl

theorem bind_error {x : Except ε α} {e : ε} (h : x = .error e) (f : α → Except ε β) :
    x >>= f = .error e := by
  rw [h]
  rfl

theorem mapError_eq_ok_iff {x : Except ε α} {g : ε → ε'} {a : α} :
    x.mapError g = .ok a ↔ x = .ok a := by
  cases x with
  | error e => exact ⟨nofun, nofun⟩
  | ok b =>
    constructor
    · intro h
      exact congrArg Except.ok (Except.ok.inj h)
    · rintro ⟨⟩
      rfl

theorem mapError_ok {x : Except ε α} {a : α} (h : x = .ok a) (g : ε → ε') :
    x.mapError g = .ok a := mapError_eq_ok_iff.mpr h

theorem mapError_eq_error_iff {x : Except ε α} {g : ε → ε'} {e' : ε'} :
    x.mapError g = .error e' ↔ ∃ e, x = .error e ∧ g e = e' := by
  cases x with
  | error e =>
    constructor
    · exact fun h => ⟨e, rfl, Except.error.inj h⟩
    · rintro ⟨_, ⟨⟩, rfl⟩
      rfl
  | ok a =>
    constructor
    · intro h
      cases h
    · rintro ⟨_, h, -⟩
      cases h

theorem mapError_error {x : Except ε α} {e : ε} (h : x = .error e) (g : ε → ε') :
    x.mapError g = .error (g e) := mapError_eq_error_iff.mpr ⟨e, h, rfl⟩

theorem map_eq_ok_iff {x : Except ε α} {f : α → β} {b : β} :
    x.map f = .ok b ↔ ∃ a, x = .ok a ∧ f a = b := by
  cases x with
  | error e => simp [Except.map]
  | ok a => simp [Except.map]

theorem map_eq_error_iff {x : Except ε α} {f : α → β} {e : ε} :
    x.map f = .error e ↔ x = .error e := by
  cases x with
  | error e' => simp [Except.map]
  | ok a => simp [Except.map]

/-- What succeeds under a condition and fails otherwise succeeds exactly under it. -/
theorem exists_ok_iff {x : Except ε α} {P : Prop} [Decidable P] (hok : P → ∃ a, x = .ok a)
    (herror : ¬P → ∃ e, x = .error e) : (∃ a, x = .ok a) ↔ P := by
  refine ⟨fun ⟨a, ha⟩ => Decidable.byContradiction fun hP => ?_, hok⟩
  obtain ⟨e, he⟩ := herror hP
  cases ha.symm.trans he

theorem toOption_eq_some_iff {x : Except ε α} {a : α} : x.toOption = some a ↔ x = .ok a := by
  cases x with
  | error e => simp [Except.toOption]
  | ok b => simp [Except.toOption]

/-- A step fails exactly when it has no result. -/
theorem exists_error_iff_forall_ne {x : Except ε α} : (∃ e, x = .error e) ↔ ∀ a, x ≠ .ok a := by
  cases x <;> simp

/-! ## Causes of failures -/

/-- A step fails with a cause of which something holds. -/
def FailsWith (x : Except ε α) (P : ε → Prop) : Prop := ∃ e, x = .error e ∧ P e

theorem failsWith_error_iff {e : ε} {P : ε → Prop} :
    FailsWith (.error e : Except ε α) P ↔ P e := by
  constructor
  · rintro ⟨_, ⟨⟩, h⟩
    exact h
  · intro h
    exact ⟨e, rfl, h⟩

theorem not_failsWith_ok {a : α} {P : ε → Prop} : ¬FailsWith (.ok a : Except ε α) P := by
  rintro ⟨_, h, -⟩
  cases h

/-- Two steps fail when the first does, or when it succeeds and the second fails. -/
theorem failsWith_bind_iff {x : Except ε α} {f : α → Except ε β} {P : ε → Prop} :
    FailsWith (x >>= f) P ↔ FailsWith x P ∨ ∃ a, x = .ok a ∧ FailsWith (f a) P := by
  cases x with
  | error e => simp [bind_error rfl, failsWith_error_iff]
  | ok a => simp [bind_ok rfl, not_failsWith_ok]

theorem failsWith_mapError_iff {x : Except ε α} {g : ε → ε'} {P : ε' → Prop} :
    FailsWith (x.mapError g) P ↔ FailsWith x fun e => P (g e) := by
  cases x with
  | error e => exact failsWith_error_iff.trans (failsWith_error_iff (P := fun e => P (g e))).symm
  | ok a => exact iff_of_false not_failsWith_ok not_failsWith_ok

theorem failsWith_const_iff {x : Except ε α} {p : Prop} :
    (FailsWith x fun _ => p) ↔ (∃ e, x = .error e) ∧ p := by
  simp [FailsWith]

end IdentityToken
