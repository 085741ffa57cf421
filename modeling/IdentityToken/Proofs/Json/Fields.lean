import IdentityToken.Json.Fields
import IdentityToken.Proofs.Json.Passing
/-!
# Records of JSON are read back

A record that is written as an object of its own fields is read back field by field. In whatever way
an object is written, the members whose names matter are found in it.
-/

namespace IdentityToken.Json.Scan

open Text

variable {α β : Type}

/-- How a member of an object is read when only some names matter. -/
def known (names : List String) (field : String → Scan α) (name : String) : Scan (Option α) :=
  fun b =>
    if name ∈ names then (field name b).map fun (x, rest) => (some x, rest)
    else (anyValue b).map fun (_, rest) => (none, rest)

/-- A member whose name does not matter is passed over. -/
theorem reads_known {names : List String} {field : String → Scan α} {name : String}
    {written : Bytes} {value : Option α}
    (hread : name ∈ names → Reads (field name) written value)
    (hpass : name ∉ names → Reads anyValue written (some ())) :
    Reads (known names field name) written
      (if name ∈ names then value.map some else some none) := by
  intro gap rest hgap hrest
  by_cases hname : name ∈ names
  · rw [known, if_pos hname, if_pos hname, hread hname gap rest hgap hrest]
    cases value <;> rfl
  · rw [known, if_neg hname, if_neg hname, hpass hname gap rest hgap hrest]
    rfl

private theorem filterMap_mapM (names : List String) (value : String × β → Option α)
    (ms : List (String × β)) :
    (ms.mapM fun m => (if m.1 ∈ names then (value m).map some else some none).map
        fun x => (m.1, x)).map (List.filterMap fun (name, x) => x.map fun y => (name, y))
      = (ms.filter (·.1 ∈ names)).mapM fun m => (value m).map fun x => (m.1, x) := by
  induction ms with
  | nil => rfl
  | cons m ms ih =>
    by_cases hm : m.1 ∈ names
    · rw [List.filter_cons_of_pos (by simpa using hm), List.mapM_cons, List.mapM_cons, ← ih,
        if_pos hm]
      cases value m with
      | none => rfl
      | some x =>
        cases ms.mapM fun m => (if m.1 ∈ names then (value m).map some else some none).map
          fun x => (m.1, x) <;> rfl
    · rw [List.filter_cons_of_neg (by simpa using hm), List.mapM_cons, ← ih, if_neg hm]
      cases ms.mapM fun m => (if m.1 ∈ names then (value m).map some else some none).map
        fun x => (m.1, x) <;> rfl

/-- The fields of an object are its members whose names matter. -/
theorem fields_of_members {names : List String} {field : String → Scan α}
    {value : String × β → Option α} {ms : List (String × β)} {b tail rest : Bytes}
    (hb : skipBlanks b = ascii '{' :: tail)
    (h : members (known names field) (ascii '{' :: tail)
      = (ms.mapM fun m => (if m.1 ∈ names then (value m).map some else some none).map
          fun x => (m.1, x)).map fun found => (found, rest)) :
    fields names field b
      = ((ms.filter (·.1 ∈ names)).mapM fun m => (value m).map fun x => (m.1, x)).map
          fun found => (found, rest) := by
  have harray : eat '[' (ascii '{' :: tail) = none := eat_eq_none (by decide)
  have hfields : fields names field b
      = (members (known names field) (ascii '{' :: tail)).map fun r =>
        (r.1.filterMap fun (name, x) => x.map fun y => (name, y), r.2) := by
    simp only [fields, hb, harray, Option.isSome_none, Bool.false_eq_true, if_false]
    change (members (known names field) (ascii '{' :: tail)).bind _ = _
    cases members (known names field) (ascii '{' :: tail) <;> rfl
  rw [hfields, h, ← filterMap_mapM names value ms, Option.map_map, Option.map_map]
  rfl

/-- A record is read back from an object of its fields. -/
theorem fields_object (raw : β → Raw) {l : Layout} (hl : l.Regular) {level : Nat}
    {names : List String} {field : String → Scan α} {value : String × β → Option α}
    {ms : List (String × β)}
    (h : ∀ m ∈ ms, m.1 ∈ names ∧
      Reads (field m.1) (utf8List ((raw m.2).render l (level + 1))) (value m)) (rest : Bytes) :
    fields names field
        (utf8List ((Raw.object (ms.map fun (k, x) => (k, raw x))).render l level) ++ rest)
      = (ms.mapM fun m => (value m).map fun x => (m.1, x)).map fun found => (found, rest) := by
  have hmembers : members (known names field)
        (utf8List ((Raw.object (ms.map fun (k, x) => (k, raw x))).render l level) ++ rest)
      = (ms.mapM fun m => (if m.1 ∈ names then (value m).map some else some none).map
          fun x => (m.1, x)).map fun found => (found, rest) :=
    members_object raw hl
      (fun m hm => reads_known (fun _ => (h m hm).2) fun hn => absurd (h m hm).1 hn) rest
  obtain ⟨b, hb⟩ : ∃ b, utf8List ((Raw.object (ms.map fun (k, x) => (k, raw x))).render l level)
      ++ rest = ascii '{' :: b := by
    cases ms <;> exact ⟨_, rfl⟩
  have hall : ms.filter (·.1 ∈ names) = ms :=
    List.filter_eq_self.mpr fun m hm => decide_eq_true (h m hm).1
  rw [hb] at hmembers ⊢
  rw [fields_of_members (skipBlanks_cons (by decide) b) hmembers, hall]

private theorem reads_member_known {names : List String} {field : String → Scan α}
    {read : String → Term → Option α}
    (hread : ∀ name ∈ names, ∀ t b, Written t b → Reads (field name) b (read name t)) {e : Entry}
    (h : Written e.value e.text) :
    Reads (member string (known names field)) e.octets
      ((if e.name ∈ names then (read e.name e.value).map some else some none).map
        fun x => (e.name, x)) :=
  reads_member (string_quotation e.spelled) (startsScalar_quotation _).starts e.blanks_before
    e.blanks_after
    (reads_known (fun hname => hread _ hname _ _ h) fun _ => reads_anyValue h)

/-- The fields of an object are found in each way to write it. -/
theorem complete_fields_document {names : List String} {field : String → Scan α}
    {read : String → Term → Option α}
    (hread : ∀ name ∈ names, ∀ t b, Written t b → Reads (field name) b (read name t))
    {ms : List (String × Term)} {b : Bytes} (hb : Document (.object ms) b) :
    complete (fields names field) b
      = (ms.filter (·.1 ∈ names)).mapM fun m => (read m.1 m.2).map fun x => (m.1, x) := by
  obtain @⟨before, _, after, hbefore, hafter, h⟩ := hb
  cases h with
  | @object entries b each h =>
    obtain ⟨tail, rfl, hskip⟩ := skipBlanks_of_listed (by decide) hbefore h after
    have hmembers : members (known names field) (ascii '{' :: (tail ++ after))
        = ((entries.map Entry.member).mapM fun m =>
            (if m.1 ∈ names then (read m.1 m.2).map some else some none).map
              fun x => (m.1, x)).map fun found => (found, after) := by
      rw [List.mapM_map]
      exact items_listed (.inr rfl) h (fun e _ => Entry.starts_octets e)
        (fun e he _ => reads_member_known hread (each e he)) after
    have hblank : skipBlanks after = [] := skipBlanks_eq_nil hafter
    rw [complete, fields_of_members hskip hmembers]
    cases (List.filter (fun m => m.1 ∈ names) (entries.map Entry.member)).mapM
      (fun m => (read m.1 m.2).map fun x => (m.1, x)) with
    | none => rfl
    | some found => exact if_pos hblank

end IdentityToken.Json.Scan
