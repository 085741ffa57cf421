import IdentityToken.Json.Read
import IdentityToken.Proofs.Json.Lists
import IdentityToken.Proofs.Json.Structure
import IdentityToken.Proofs.StringMap
/-!
# Values of JSON are read back

A value whose numbers are integers is read back from its text in any regular layout, if it is not
deeper than the reader allows, and is refused if it is. In particular its text determines it.
-/

namespace IdentityToken.Json

open Text

namespace Scan

/-- Octets that start a value that is neither an array nor an object. -/
def StartsScalar (b : Bytes) : Prop :=
  ∃ o rest, b = o :: rest ∧ isBlank o = false ∧ ∀ c ∈ ['[', ']', '{', '}'], o ≠ ascii c

theorem forall_mem_of_all {α : Type} {p : α → Prop} [DecidablePred p] {l : List α}
    (h : l.all (fun c => decide (p c)) = true) : ∀ c ∈ l, p c := by
  simpa using h

theorem startsScalar_ascii {c : Char} (hc : c ∈ ['n', 't', 'f', '"']) (rest : Bytes) :
    StartsScalar (ascii c :: rest) := by
  simp only [List.mem_cons, List.not_mem_nil, or_false] at hc
  refine ⟨ascii c, rest, rfl, ?_, ?_⟩
  · rcases hc with rfl | rfl | rfl | rfl <;> rfl
  · rcases hc with rfl | rfl | rfl | rfl <;> exact forall_mem_of_all (by decide)

theorem StartsScalar.starts {b : Bytes} (h : StartsScalar b) : Starts b := by
  obtain ⟨o, rest, ho, hblank, hmark⟩ := h
  exact ⟨o, rest, ho, hblank, hmark _ (by simp), hmark _ (by simp)⟩

private theorem value_of_startsScalar {b : Bytes} (h : StartsScalar (skipBlanks b)) (d : Nat) :
    value d b = scalar (skipBlanks b) := by
  obtain ⟨o, tail, ho, hblank, hmark⟩ := h
  cases d with
  | zero => rfl
  | succ d =>
    have hsquare : o ≠ ascii '[' := hmark _ (by simp)
    have hcurly : o ≠ ascii '{' := hmark _ (by simp)
    simp only [value, ho, hsquare, hcurly, if_false]

theorem value_array {b rest : Bytes} (h : skipBlanks b = ascii '[' :: rest) (d : Nat) :
    value (d + 1) b = (items '[' ']' (fun _ => value d) (ascii '[' :: rest)).map
      fun (xs, rest) => (array xs, rest) := by
  simp only [value, h, if_true]

theorem value_object {b rest : Bytes} (h : skipBlanks b = ascii '{' :: rest) (d : Nat) :
    value (d + 1) b = (members (fun _ => value d) (ascii '{' :: rest)).map
      fun (ms, rest) => (object (.ofList ms), rest) := by
  have hne : ascii '{' ≠ ascii '[' := by decide
  simp only [value, h, hne, if_true, if_false]

theorem scalar_mark {c : Char} (h : c = '[' ∨ c = '{') (rest : Bytes) :
    scalar (ascii c :: rest) = none := by
  rcases h with rfl | rfl <;> rfl

theorem word_of_ne {c : Char} {o : UInt8} (h : o ≠ ascii c) (cs : List Char) (rest : Bytes) :
    word (c :: cs) (o :: rest) = none := by
  rw [word, eat_eq_none h]
  rfl

theorem string_of_ne {o : UInt8} (h : o ≠ ascii '"') (rest : Bytes) :
    string (o :: rest) = none := by
  rw [string, eat_eq_none h]
  rfl

theorem isDigit_ne {o : UInt8} (h : isDigit o = true ∨ o = ascii '-') :
    isBlank o = false ∧ ∀ c ∈ ['n', 't', 'f', '"', '[', ']', '{', '}'], o ≠ ascii c := by
  rcases h with h | rfl
  · refine ⟨?_, ?_⟩
    · cases hb : isBlank o with
      | false => rfl
      | true =>
        simp only [isBlank, Bool.or_eq_true, beq_iff_eq] at hb
        rcases hb with ((rfl | rfl) | rfl) | rfl <;> revert h <;> decide
    · have hmark : ∀ c ∈ ['n', 't', 'f', '"', '[', ']', '{', '}'], isDigit (ascii c) ≠ true :=
        forall_mem_of_all (by decide)
      rintro c hc rfl
      exact hmark c hc h
  · exact ⟨rfl, forall_mem_of_all (by decide)⟩

private theorem scalar_int {n : Int} (hn : -0x8000000000000000 ≤ n ∧ n < 0x10000000000000000)
    {rest : Bytes} (h : EndsNumber rest) :
    scalar (utf8List (Number.render (.int n hn)) ++ rest)
      = some (Json.number (.int n hn), rest) := by
  have hread := number_int hn h
  obtain ⟨o, b, ho, hdigit⟩ := utf8List_render_int hn
  obtain ⟨_, hmark⟩ := isDigit_ne hdigit
  rw [ho, List.cons_append] at hread ⊢
  simp only [scalar, hmark _ (show 'n' ∈ _ by simp), hmark _ (show 't' ∈ _ by simp),
    hmark _ (show 'f' ∈ _ by simp), hmark _ (show '"' ∈ _ by simp), if_false, hread]
  rfl

private theorem scalar_quote (b : Bytes) :
    scalar (ascii '"' :: b)
      = (string (ascii '"' :: b)).map fun (s, rest) => (Json.string s, rest) :=
  rfl

private theorem scalar_string (s : String) (rest : Bytes) :
    scalar (utf8List (quoted s) ++ rest) = some (Json.string s, rest) := by
  obtain ⟨b, hb⟩ : ∃ b, utf8List (quoted s) ++ rest = ascii '"' :: b := ⟨_, rfl⟩
  rw [hb, scalar_quote, ← hb, string_quoted]
  rfl

/-- What is no array and no object is read on every level. -/
theorem reads_scalar {x : Option Json} {written : Bytes} (hstart : StartsScalar written)
    (h : ∀ rest, EndsNumber rest → scalar (written ++ rest) = x.map fun x => (x, rest)) (d : Nat) :
    Reads (value d) written x := by
  intro gap rest hgap hrest
  obtain ⟨o, b, rfl, hblank, hmark⟩ := hstart
  have hskip : skipBlanks (gap ++ (o :: b ++ rest)) = o :: b ++ rest := by
    rw [skipBlanks_append hgap, List.cons_append, skipBlanks_cons hblank]
  have hscalar : StartsScalar (skipBlanks (gap ++ (o :: b ++ rest))) := by
    rw [hskip]
    exact ⟨o, b ++ rest, rfl, hblank, hmark⟩
  rw [value_of_startsScalar hscalar, hskip, h rest hrest]

private theorem reads_of_scalar {x : Json} {d : Nat} (hd : x.depth ≤ d) {written : Bytes}
    (hstart : StartsScalar written)
    (h : ∀ rest, EndsNumber rest → scalar (written ++ rest) = some (x, rest)) :
    Reads (value d) written (if x.depth ≤ d then some x else none) := by
  rw [if_pos hd]
  exact reads_scalar (x := some x) hstart h d

private theorem startsScalar_int {n : Int}
    (hn : -0x8000000000000000 ≤ n ∧ n < 0x10000000000000000) :
    StartsScalar (utf8List (Number.render (.int n hn))) := by
  obtain ⟨o, b, ho, hdigit⟩ := utf8List_render_int hn
  obtain ⟨hblank, hmark⟩ := isDigit_ne hdigit
  exact ⟨o, b, ho, hblank, fun c hc => hmark c (List.mem_append_right ['n', 't', 'f', '"'] hc)⟩

/-- A value with integers starts neither with a blank nor with a closing mark. -/
theorem starts_render {x : Json} (hx : x.Integral) (l : Layout) (level : Nat) :
    Starts (utf8List (x.raw.render l level)) := by
  have hstart {c : Char} (cs : List Char) (hc : String.utf8EncodeChar c = [ascii c])
      (hblank : isBlank (ascii c) = false) (hsquare : ascii c ≠ ascii ']')
      (hcurly : ascii c ≠ ascii '}') : Starts (utf8List (c :: cs)) := by
    rw [utf8List_cons, hc]
    exact ⟨ascii c, utf8List cs, rfl, hblank, hsquare, hcurly⟩
  obtain ⟨r, hr⟩ := x
  cases r with
  | null => exact hstart _ rfl (by decide) (by decide) (by decide)
  | bool b => cases b <;> exact hstart _ rfl (by decide) (by decide) (by decide)
  | number n =>
    cases n with
    | int n hn => exact (startsScalar_int hn).starts
    | float n => exact absurd (hx (.float n) (by simp [Raw.numbers])) (by simp [Number.isInt])
  | string s => exact hstart _ rfl (by decide) (by decide) (by decide)
  | array items => cases items <;> exact hstart _ rfl (by decide) (by decide) (by decide)
  | object members => cases members <;> exact hstart _ rfl (by decide) (by decide) (by decide)

private theorem mapM_ite {α : Type} (p : α → Prop) [DecidablePred p] (xs : List α) :
    (xs.mapM fun x => if p x then some x else none) = if ∀ x ∈ xs, p x then some xs else none := by
  induction xs with
  | nil => simp
  | cons x xs ih =>
    rw [List.mapM_cons, ih]
    by_cases hx : p x
    · by_cases hxs : ∀ y ∈ xs, p y
      · simp [hx, if_pos hxs]
      · simp [hx, if_neg hxs]
    · simp [hx]

private theorem reads_array {l : Layout} (hl : l.Regular) {xs : List Json}
    (hx : (Json.array xs).Integral) (level : Nat)
    (ih : ∀ x ∈ xs, ∀ d, Reads (value d) (utf8List (x.raw.render l (level + 1)))
      (if x.depth ≤ d then some x else none)) (d : Nat) :
    Reads (value d) (utf8List ((Json.array xs).raw.render l level))
      (if (Json.array xs).depth ≤ d then some (Json.array xs) else none) := by
  intro gap rest hgap _
  obtain ⟨b, hb⟩ : ∃ b, utf8List ((Json.array xs).raw.render l level) = ascii '[' :: b := by
    cases xs <;> exact ⟨_, rfl⟩
  have hskip : skipBlanks (gap ++ (utf8List ((Json.array xs).raw.render l level) ++ rest))
      = ascii '[' :: (b ++ rest) := by
    rw [skipBlanks_append hgap, hb, List.cons_append, skipBlanks_cons (by decide)]
  cases d with
  | zero =>
    rw [if_neg (depth_array_pos xs)]
    exact (congrArg scalar hskip).trans (scalar_mark (.inl rfl) _)
  | succ d =>
    have hitems : items '[' ']' (fun _ => value d)
          (utf8List ((Json.array xs).raw.render l level) ++ rest)
        = (xs.mapM fun x => if x.depth ≤ d then some x else none).map fun ys => (ys, rest) :=
      items_array Json.raw hl (fun x h => starts_render (hx.of_mem_array h) l (level + 1))
        (fun x h _ => ih x h d) rest
    rw [value_array hskip, ← List.cons_append, ← hb, hitems, mapM_ite]
    simp only [depth_array_le_iff]
    split <;> rfl

private theorem reads_object {l : Layout} (hl : l.Regular) {m : Members} (level : Nat)
    (ih : ∀ x ∈ m.toList, ∀ d, Reads (value d) (utf8List (x.2.raw.render l (level + 1)))
      (if x.2.depth ≤ d then some x.2 else none)) (d : Nat) :
    Reads (value d) (utf8List ((Json.object m).raw.render l level))
      (if (Json.object m).depth ≤ d then some (Json.object m) else none) := by
  intro gap rest hgap _
  obtain ⟨b, hb⟩ : ∃ b, utf8List ((Json.object m).raw.render l level) = ascii '{' :: b := by
    obtain ⟨ms, hms⟩ := m
    cases ms <;> exact ⟨_, rfl⟩
  have hskip : skipBlanks (gap ++ (utf8List ((Json.object m).raw.render l level) ++ rest))
      = ascii '{' :: (b ++ rest) := by
    rw [skipBlanks_append hgap, hb, List.cons_append, skipBlanks_cons (by decide)]
  cases d with
  | zero =>
    rw [if_neg (depth_object_pos m)]
    exact (congrArg scalar hskip).trans (scalar_mark (.inr rfl) _)
  | succ d =>
    have hvalue : (fun x : String × Json =>
          (if x.2.depth ≤ d then some x.2 else none).map fun y => (x.1, y))
        = fun x => if x.2.depth ≤ d then some x else none := by
      funext x
      split <;> rfl
    have hmembers : members (fun _ => value d)
          (utf8List ((Json.object m).raw.render l level) ++ rest)
        = (m.toList.mapM fun x => (if x.2.depth ≤ d then some x.2 else none).map
            fun y => (x.1, y)).map fun found => (found, rest) :=
      members_object Json.raw hl (fun x h => ih x h d) rest
    rw [value_object hskip, ← List.cons_append, ← hb, hmembers, hvalue, mapM_ite]
    simp only [depth_object_le_iff]
    split
    · simp
    · rfl

/-- A value is read back unless it is too deep, and is refused if it is. -/
theorem reads_value {l : Layout} (hl : l.Regular) {x : Json} (hx : x.Integral) (d level : Nat) :
    Reads (value d) (utf8List (x.raw.render l level)) (if x.depth ≤ d then some x else none) := by
  -- The depth that is left and the level of the layout change with each array and object.
  induction x using Json.induction generalizing d level with
  | null =>
    exact reads_of_scalar (Nat.zero_le d) (startsScalar_ascii (c := 'n') (by simp) _) fun _ _ => rfl
  | bool b =>
    cases b with
    | false =>
      exact reads_of_scalar (Nat.zero_le d) (startsScalar_ascii (c := 'f') (by simp) _)
        fun _ _ => rfl
    | true =>
      exact reads_of_scalar (Nat.zero_le d) (startsScalar_ascii (c := 't') (by simp) _)
        fun _ _ => rfl
  | number n =>
    cases n with
    | int n hn =>
      exact reads_of_scalar (Nat.zero_le d) (startsScalar_int hn) fun _ h => scalar_int hn h
    | float n =>
      exact absurd (hx (.float n) (by simp [Json.number, Raw.numbers])) (by simp [Number.isInt])
  | string s =>
    exact reads_of_scalar (Nat.zero_le d) (startsScalar_ascii (c := '"') (by simp) _)
      fun rest _ => scalar_string s rest
  | array xs ih =>
    exact reads_array hl hx level (fun x h d => ih x h (hx.of_mem_array h) d (level + 1)) d
  | object m ih =>
    have hm := integral_object_iff.mp hx
    exact reads_object hl level (fun x h d => ih x h (hm x h) d (level + 1)) d

end Scan

/-- A text is read as a whole exactly when the value is not too deep. -/
theorem ofBytes?_render {l : Layout} (hl : l.Regular) {x : Json} (hx : x.Integral) :
    ofBytes? (utf8 (x.render l)) = if x.depth ≤ maxDepth then some x else none := by
  have hread := Scan.reads_value hl hx maxDepth 0 [] [] blanks_nil Scan.endsNumber_nil
  rw [List.nil_append, List.append_nil] at hread
  rw [ofBytes?, Json.render, utf8_ofList, Scan.complete, hread]
  split <;> rfl

/-- A text in a layout is that of one value only, however deep. -/
theorem render_injective {l : Layout} (hl : l.Regular) {x y : Json} (hx : x.Integral)
    (hy : y.Integral) (h : x.render l = y.render l) : x = y := by
  -- The reader is given a depth that suffices for both.
  have hread {z : Json} (hz : z.Integral) (hdepth : z.depth ≤ max x.depth y.depth) :
      Scan.value (max x.depth y.depth) (utf8 (z.render l)) = some (z, []) := by
    have := Scan.reads_value hl hz (max x.depth y.depth) 0 [] [] blanks_nil Scan.endsNumber_nil
    rwa [List.nil_append, List.append_nil, if_pos hdepth, ← utf8_ofList] at this
  have hreadx := hread hx (Nat.le_max_left ..)
  rw [h, hread hy (Nat.le_max_right ..)] at hreadx
  exact (congrArg Prod.fst (Option.some.inj hreadx)).symm

end IdentityToken.Json
