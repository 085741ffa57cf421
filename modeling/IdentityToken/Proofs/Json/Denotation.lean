import IdentityToken.Proofs.Json.Passing
/-!
# What a text of JSON denotes

A term denotes a value if each of its numbers is in range. Of several members with one name the last
counts. The reader finds this value in every text of the term, if the term is not too deep.
-/

namespace IdentityToken.Json

namespace Term

mutual

/-- How many arrays and objects stand around the innermost part of a term. -/
def depth : Term → Nat
  | .array items => depthItems items + 1
  | .object members => depthMembers members + 1
  | _ => 0

/-- The greatest depth of a list of terms. -/
def depthItems : List Term → Nat
  | [] => 0
  | t :: ts => max t.depth (depthItems ts)

/-- The greatest depth of the terms of named members. -/
def depthMembers : List (String × Term) → Nat
  | [] => 0
  | (_, t) :: ms => max t.depth (depthMembers ms)

end

mutual

/-- The value that a term denotes. It denotes none if a number in it is beyond all finite
numbers. -/
def value? : Term → Option Json
  | .null => some Json.null
  | .bool b => some (Json.bool b)
  | .number n => n.literal.number?.map Json.number
  | .string s => some (Json.string s)
  | .array items => (itemValues? items).map Json.array
  | .object members => (memberValues? members).map fun ms => Json.object (.ofList ms)

/-- The values that the items of an array denote. -/
def itemValues? : List Term → Option (List Json)
  | [] => some []
  | t :: ts => t.value?.bind fun x => (itemValues? ts).map (x :: ·)

/-- The values that the members of an object denote, with their names. -/
def memberValues? : List (String × Term) → Option (List (String × Json))
  | [] => some []
  | (name, t) :: ms => t.value?.bind fun x => (memberValues? ms).map ((name, x) :: ·)

end

theorem depthItems_le_iff {ts : List Term} {d : Nat} :
    depthItems ts ≤ d ↔ ∀ t ∈ ts, t.depth ≤ d := by
  induction ts with
  | nil => simp [depthItems]
  | cons t ts ih => rw [depthItems, Nat.max_le, ih, List.forall_mem_cons]

theorem depthMembers_le_iff {ms : List (String × Term)} {d : Nat} :
    depthMembers ms ≤ d ↔ ∀ m ∈ ms, m.2.depth ≤ d := by
  induction ms with
  | nil => simp [depthMembers]
  | cons m ms ih =>
    obtain ⟨name, t⟩ := m
    rw [depthMembers, Nat.max_le, ih, List.forall_mem_cons]

theorem depth_array_le_iff {ts : List Term} {d : Nat} :
    (Term.array ts).depth ≤ d ↔ ∃ d', d = d' + 1 ∧ ∀ t ∈ ts, t.depth ≤ d' := by
  cases d with
  | zero => simp [depth]
  | succ d => simp [depth, depthItems_le_iff]

theorem depth_object_le_iff {ms : List (String × Term)} {d : Nat} :
    (Term.object ms).depth ≤ d ↔ ∃ d', d = d' + 1 ∧ ∀ m ∈ ms, m.2.depth ≤ d' := by
  cases d with
  | zero => simp [depth]
  | succ d => simp [depth, depthMembers_le_iff]

theorem value?_array (ts : List Term) :
    (Term.array ts).value? = (ts.mapM value?).map Json.array := by
  have hitems : itemValues? ts = ts.mapM value? := by
    induction ts with
    | nil => rfl
    | cons t ts ih => rw [itemValues?, ih, Scan.mapM_cons_eq]
  rw [value?, hitems]

theorem value?_object (ms : List (String × Term)) :
    (Term.object ms).value?
      = (ms.mapM fun m : String × Term => m.2.value?.map fun x => (m.1, x)).map
        fun ms => Json.object (.ofList ms) := by
  have hmembers : memberValues? ms = ms.mapM fun m : String × Term =>
      m.2.value?.map fun x => (m.1, x) := by
    induction ms with
    | nil => rfl
    | cons m ms ih =>
      obtain ⟨name, t⟩ := m
      rw [memberValues?, ih, Scan.mapM_cons_eq]
      cases t.value? <;> rfl
  rw [value?, hmembers]

end Term

namespace Scan

variable {b rest : Bytes}

private theorem scalar_octets (n : Numeral) (h : EndsNumber rest) :
    scalar (n.octets ++ rest)
      = (n.literal.number?.map Json.number).map fun x => (x, rest) := by
  have hl := literal_octets n h
  obtain ⟨o, tail, ho, hdigit⟩ := exists_cons_octets n
  obtain ⟨-, hmark⟩ := isDigit_ne hdigit
  rw [ho, List.cons_append] at hl ⊢
  simp only [scalar, number, hmark _ (show 'n' ∈ _ by simp), hmark _ (show 't' ∈ _ by simp),
    hmark _ (show 'f' ∈ _ by simp), hmark _ (show '"' ∈ _ by simp), if_false, hl,
    Option.bind_eq_bind, Option.bind_some]
  cases n.literal.number? <;> rfl

private theorem scalar_quotation {s : String} (h : Spelled s.toList b) (rest : Bytes) :
    scalar (quotation b ++ rest) = some (Json.string s, rest) := by
  change (string (quotation b ++ rest)).map _ = _
  rw [string_quotation h]
  rfl

/-- The value of a term is read from each way to write it, on each level that is not below it. -/
theorem reads_written {t : Term} (h : Written t b) {d : Nat} (hd : t.depth ≤ d) :
    Reads (value d) b t.value? := by
  induction h generalizing d with
  | null => exact reads_scalar (startsScalar_ascii (c := 'n') (by simp) _) (fun _ _ => rfl) d
  | false => exact reads_scalar (startsScalar_ascii (c := 'f') (by simp) _) (fun _ _ => rfl) d
  | true => exact reads_scalar (startsScalar_ascii (c := 't') (by simp) _) (fun _ _ => rfl) d
  | number n => exact reads_scalar (startsScalar_octets n) (fun _ h => scalar_octets n h) d
  | string hs =>
    exact reads_scalar (startsScalar_quotation _) (fun rest _ => scalar_quotation hs rest) d
  | @array xs b each h ih =>
    intro gap rest hgap _
    obtain ⟨d, rfl, hdepth⟩ := Term.depth_array_le_iff.mp hd
    obtain ⟨tail, htail, hskip⟩ := skipBlanks_of_listed (by decide) hgap h rest
    have hitems : items '[' ']' (fun _ => value d) (b ++ rest)
        = (xs.mapM fun x : Term × Bytes => x.1.value?).map fun ys => (ys, rest) :=
      items_listed (.inl rfl) h (fun x hx => starts_of_written (each x hx))
        (fun x hx _ => ih x hx (hdepth _ (List.mem_map_of_mem hx))) rest
    have hvalue : ((xs.map Prod.fst).mapM Term.value?)
        = xs.mapM fun x : Term × Bytes => x.1.value? := List.mapM_map
    rw [value_array hskip, ← List.cons_append, ← htail, hitems, Term.value?_array, hvalue]
    cases xs.mapM fun x : Term × Bytes => x.1.value? <;> rfl
  | @object entries b each h ih =>
    intro gap rest hgap _
    obtain ⟨d, rfl, hdepth⟩ := Term.depth_object_le_iff.mp hd
    obtain ⟨tail, htail, hskip⟩ := skipBlanks_of_listed (by decide) hgap h rest
    have hmember (e : Entry) (he : e ∈ entries) : Reads (member string fun _ => value d) e.octets
        (e.value.value?.map fun x => (e.name, x)) :=
      reads_member (string_quotation e.spelled) (startsScalar_quotation _).starts e.blanks_before
        e.blanks_after (ih e he (hdepth _ (List.mem_map_of_mem he)))
    have hmembers : members (fun _ => value d) (b ++ rest)
        = (entries.mapM fun e : Entry => e.value.value?.map fun x => (e.name, x)).map
          fun ms => (ms, rest) :=
      items_listed (.inr rfl) h (fun e _ => Entry.starts_octets e) (fun e he _ => hmember e he) rest
    have hvalue : ((entries.map Entry.member).mapM fun m => m.2.value?.map fun x => (m.1, x))
        = entries.mapM fun e : Entry => e.value.value?.map fun x => (e.name, x) := List.mapM_map
    rw [value_object hskip, ← List.cons_append, ← htail, hmembers, Term.value?_object, hvalue]
    cases entries.mapM fun e : Entry => e.value.value?.map fun x => (e.name, x) <;> rfl

end Scan

open Scan in
/-- The value of a text is read if the text is not too deep. -/
theorem ofBytes?_document {t : Term} {b : Bytes} (h : Document t b) (hd : t.depth ≤ maxDepth) :
    ofBytes? b = t.value? := by
  cases h with
  | @mk before b after hbefore hafter h =>
    have hends : EndsNumber after :=
      List.append_nil after ▸ endsNumber_append hafter endsNumber_nil
    rw [ofBytes?, complete, reads_written h hd before after hbefore hends]
    cases t.value? with
    | none => rfl
    | some x => simp [skipBlanks_eq_nil hafter]

end IdentityToken.Json
