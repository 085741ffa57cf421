import IdentityToken.Proofs.Json.Integers
/-!
# Arrays and objects of JSON are read back

A layout puts only blanks between the marks of an array or object. If each item is read back from
how it is written, then so is the whole list, and if some item is refused the whole list is.
-/

namespace IdentityToken.Json

open Text

/-- Octets that are all blanks. -/
def Blanks (b : Bytes) : Prop := ∀ o ∈ b, Scan.isBlank o = true

theorem blanks_nil : Blanks [] := by simp [Blanks]

theorem Blanks.cons {o : UInt8} {b : Bytes} (ho : Scan.isBlank o = true) (hb : Blanks b) :
    Blanks (o :: b) := List.forall_mem_cons.mpr ⟨ho, hb⟩

/-- A layout that puts only blanks where blanks may stand. -/
structure Layout.Regular (l : Layout) : Prop where
  line : ∀ level, Blanks (utf8List (l.line level))
  colon : ∃ gap, l.colon = ':' :: gap ∧ Blanks (utf8List gap)

theorem Layout.regular_compact : Layout.compact.Regular where
  line _ := blanks_nil
  colon := ⟨[], rfl, blanks_nil⟩

private theorem blanks_replicate (n : Nat) : Blanks (utf8List (List.replicate n ' ')) := by
  induction n with
  | zero => exact blanks_nil
  | succ n ih => exact ih.cons rfl

theorem Layout.regular_indented : Layout.indented.Regular where
  line _ := (blanks_replicate _).cons rfl
  colon := ⟨[' '], rfl, blanks_replicate 1⟩

namespace Scan

theorem skipBlanks_append {gap : Bytes} (h : Blanks gap) (b : Bytes) :
    skipBlanks (gap ++ b) = skipBlanks b :=
  List.dropWhile_append_of_pos h

theorem skipBlanks_eq_nil {b : Bytes} (h : Blanks b) : skipBlanks b = [] := by
  rw [← List.append_nil b, skipBlanks_append h]
  rfl

theorem skipBlanks_cons {o : UInt8} (h : isBlank o = false) (b : Bytes) :
    skipBlanks (o :: b) = o :: b := by
  simp [skipBlanks, h]

/-- Octets that start neither with a blank nor with a mark that closes a list. -/
def Starts (b : Bytes) : Prop :=
  ∃ o rest, b = o :: rest ∧ isBlank o = false ∧ o ≠ ascii ']' ∧ o ≠ ascii '}'

/-- A scanner finds `value` in what is written, whatever blanks stand before it and whatever follows
that cannot continue a number. -/
def Reads {α : Type} (scan : Scan α) (written : Bytes) (value : Option α) : Prop :=
  ∀ gap rest, Blanks gap → EndsNumber rest →
    scan (gap ++ (written ++ rest)) = value.map fun x => (x, rest)

/-- The marks that close a list. -/
def Closes (close : Char) : Prop := close = ']' ∨ close = '}'

theorem Closes.octet {close : Char} (h : Closes close) :
    isBlank (ascii close) = false ∧ EndsNumber (ascii close :: []) ∧ ascii ',' ≠ ascii close := by
  rcases h with rfl | rfl <;>
    exact ⟨by decide, endsNumber_cons (by decide) (by decide), by decide⟩

theorem EndsNumber.cons {o : UInt8} (h : EndsNumber [o]) (rest : Bytes) :
    EndsNumber (o :: rest) := h

private theorem endsNumber_of_isBlank {o : UInt8} (h : isBlank o = true) : EndsNumber [o] := by
  simp only [isBlank, Bool.or_eq_true, beq_iff_eq] at h
  rcases h with ((rfl | rfl) | rfl) | rfl <;> exact endsNumber_cons (by decide) (by decide)

theorem endsNumber_append {gap b : Bytes} (h : Blanks gap) (hb : EndsNumber b) :
    EndsNumber (gap ++ b) := by
  cases gap with
  | nil => exact hb
  | cons o gap => exact (endsNumber_of_isBlank (h o (by simp))).cons _

/-- The parts of a list after the first as they are written: each stands after a comma, with blanks
on both sides of it. -/
inductive Continued : List Bytes → Bytes → Prop where
  | nil : Continued [] []
  | cons {gap gap' part b : Bytes} {parts : List Bytes} (hgap : Blanks gap) (hgap' : Blanks gap')
      (h : Continued parts b) :
      Continued (part :: parts) (gap ++ ascii ',' :: (gap' ++ (part ++ b)))

/-- A list as it is written: its parts between two marks, with commas between them and blanks
wherever blanks may stand. -/
inductive Listed (opening close : Char) : List Bytes → Bytes → Prop where
  | nil {gap : Bytes} (hgap : Blanks gap) :
      Listed opening close [] (ascii opening :: (gap ++ [ascii close]))
  | cons {gap tail part b : Bytes} {parts : List Bytes} (hgap : Blanks gap) (htail : Blanks tail)
      (h : Continued parts b) :
      Listed opening close (part :: parts)
        (ascii opening :: (gap ++ (part ++ (b ++ (tail ++ [ascii close])))))

section lists

variable {α β : Type} {close : Char} {item : Nat → Scan α} {written : β → Bytes}
  {value : β → Option α} {gap tail b : Bytes}

private theorem endsNumber_of_continued (hclose : Closes close) (htail : Blanks tail)
    {parts : List Bytes} (h : Continued parts b) (rest : Bytes) :
    EndsNumber (b ++ (tail ++ ascii close :: rest)) := by
  cases h with
  | nil =>
    rw [List.nil_append]
    exact endsNumber_append htail (hclose.octet.2.1.cons rest)
  | cons hgap _ _ =>
    rw [List.append_assoc]
    exact endsNumber_append hgap (EndsNumber.cons (endsNumber_cons (by decide) (by decide)) _)

private theorem length_le_of_continued {parts : List Bytes} (h : Continued parts b) :
    parts.length ≤ b.length := by
  induction h with
  | nil => simp
  | cons _ _ _ ih =>
    simp only [List.length_append, List.length_cons]
    omega

theorem mapM_cons_eq (x : β) (xs : List β) :
    (x :: xs).mapM value = (value x).bind fun y => (xs.mapM value).map (y :: ·) := by
  simp only [List.mapM_cons, Option.bind_eq_bind, Option.pure_def]
  cases value x <;> cases xs.mapM value <;> rfl

/-- One step of a list: a comma, an item and what `more` finds after it. -/
private theorem more_comma (hclose : Closes close) (hgap : Blanks gap) {r rest : Bytes}
    {fuel index : Nat} {y : Option α} {ys : Option (List α)}
    (hitem : item index b = y.map fun x => (x, r))
    (hmore : more close item fuel (index + 1) r = ys.map fun xs => (xs, rest)) :
    more close item (fuel + 1) index (gap ++ ascii ',' :: b)
      = (y.bind fun x => ys.map (x :: ·)).map fun xs => (xs, rest) := by
  have hskip : skipBlanks (gap ++ ascii ',' :: b) = ascii ',' :: b :=
    (skipBlanks_append hgap _).trans (skipBlanks_cons (by decide) b)
  simp only [more, hskip, eat_eq_none hclose.octet.2.2, eat_ascii, Option.bind_eq_bind,
    Option.bind_some, hitem]
  cases y with
  | none => rfl
  | some x =>
    simp only [Option.map_some, Option.bind_some, hmore]
    cases ys <;> rfl

private theorem more_close (hclose : Closes close) (htail : Blanks tail) (fuel index : Nat)
    (rest : Bytes) :
    more close item (fuel + 1) index (tail ++ ascii close :: rest) = some ([], rest) := by
  have hskip : skipBlanks (tail ++ ascii close :: rest) = ascii close :: rest := by
    rw [skipBlanks_append htail, skipBlanks_cons hclose.octet.1]
  simp only [more, hskip, eat_ascii]

private theorem more_continued (hclose : Closes close) (htail : Blanks tail) {xs : List β}
    (h : ∀ x ∈ xs, ∀ index, Reads (item index) (written x) (value x))
    (hb : Continued (xs.map written) b) {fuel : Nat} (hfuel : xs.length < fuel) (index : Nat)
    (rest : Bytes) :
    more close item fuel index (b ++ (tail ++ ascii close :: rest))
      = (xs.mapM value).map fun ys => (ys, rest) := by
  induction xs generalizing fuel index b with
  | nil =>
    cases hb
    cases fuel with
    | zero => simp at hfuel
    | succ fuel => exact more_close hclose htail fuel index rest
  | cons x xs ih =>
    cases fuel with
    | zero => simp at hfuel
    | succ fuel =>
      rw [List.map_cons] at hb
      cases hb with
      | cons hgap hgap' hmore =>
        have hx := h x (by simp) index _ _ hgap' (endsNumber_of_continued hclose htail hmore rest)
        have hxs := ih (fun y hy => h y (List.mem_cons_of_mem _ hy)) hmore (by simpa using hfuel)
          (index + 1)
        simp only [List.append_assoc, List.cons_append]
        rw [more_comma hclose hgap hx hxs, mapM_cons_eq]

/-- A list is read back item by item, and is refused when one of its items is. -/
theorem items_listed {opening : Char} (hclose : Closes close) {xs : List β}
    (hb : Listed opening close (xs.map written) b) (hstart : ∀ x ∈ xs, Starts (written x))
    (h : ∀ x ∈ xs, ∀ index, Reads (item index) (written x) (value x)) (rest : Bytes) :
    items opening close item (b ++ rest) = (xs.mapM value).map fun ys => (ys, rest) := by
  cases xs with
  | nil =>
    cases hb with
    | nil hgap =>
      simp only [items, List.cons_append, List.append_assoc, List.nil_append, eat_ascii,
        Option.bind_eq_bind, Option.bind_some, skipBlanks_append hgap,
        skipBlanks_cons hclose.octet.1]
      rfl
  | cons x xs =>
    rw [List.map_cons] at hb
    cases hb with
    | @cons gap tail _ b _ hgap htail hmore =>
      obtain ⟨o, text, ho, hblank, hsquare, hcurly⟩ := hstart x (by simp)
      have hfirst := h x (by simp) 0 _ _ hgap (endsNumber_of_continued hclose htail hmore rest)
      have hfuel : xs.length < (b ++ (tail ++ ascii close :: rest)).length := by
        have := length_le_of_continued hmore
        simp only [List.length_map] at this
        simp only [List.length_append, List.length_cons]
        omega
      have hxs := more_continued hclose htail (fun y hy => h y (List.mem_cons_of_mem _ hy)) hmore
        hfuel 1 rest
      -- The first item is no closing mark.
      have hnone (rest : Bytes) : eat close (skipBlanks (gap ++ (written x ++ rest))) = none := by
        rw [skipBlanks_append hgap, ho, List.cons_append, skipBlanks_cons hblank]
        rcases hclose with rfl | rfl
        · exact eat_eq_none hsquare
        · exact eat_eq_none hcurly
      simp only [items, List.cons_append, List.append_assoc, List.nil_append, eat_ascii,
        Option.bind_eq_bind, Option.bind_some, hnone, hfirst, mapM_cons_eq]
      cases value x with
      | none => rfl
      | some y =>
        simp only [Option.map_some, Option.bind_some, hxs]
        cases xs.mapM value <;> rfl

/-- A member of an object is read back: its name, a colon with blanks on both sides of it, and its
value. -/
theorem reads_member {κ : Type} {name : Scan κ} {k : κ} {field : κ → Scan α} {x : Option α}
    {spelled text gap' : Bytes} (hname : ∀ rest, name (spelled ++ rest) = some (k, rest))
    (hstart : Starts spelled) (hgap : Blanks gap) (hgap' : Blanks gap')
    (h : Reads (field k) text x) :
    Reads (member name field) (spelled ++ (gap ++ ascii ':' :: (gap' ++ text)))
      (x.map fun x => (k, x)) := by
  intro front rest hfront hrest
  obtain ⟨o, tail, ho, hblank, -⟩ := hstart
  have hspelled (b : Bytes) : skipBlanks (spelled ++ b) = spelled ++ b := by
    rw [ho]
    exact skipBlanks_cons hblank _
  have hcolon (b : Bytes) : skipBlanks (ascii ':' :: b) = ascii ':' :: b :=
    skipBlanks_cons (by decide) b
  have hvalue := h gap' rest hgap' hrest
  simp only [member, List.append_assoc, List.cons_append, skipBlanks_append hfront, hspelled,
    hname, skipBlanks_append hgap, hcolon, eat_ascii, hvalue, Option.bind_eq_bind, Option.bind_some]
  cases x <;> rfl

end lists

/-! ## Lists in a layout -/

variable {α β : Type} {l : Layout} (raw : β → Raw)

private theorem continued_renderItems (hl : l.Regular) (level : Nat) (xs : List β) :
    Continued (xs.map fun x => utf8List ((raw x).render l level))
      (utf8List (Raw.renderItems l level (xs.map raw))) := by
  induction xs with
  | nil => exact .nil
  | cons x xs ih =>
    have htext : utf8List (Raw.renderItems l level ((x :: xs).map raw))
        = [] ++ ascii ',' :: (utf8List (l.line level) ++ (utf8List ((raw x).render l level)
          ++ utf8List (Raw.renderItems l level (xs.map raw)))) := by
      rw [List.map_cons, Raw.renderItems]
      simp only [List.cons_append, List.append_assoc, utf8List_cons, utf8List_append]
      rfl
    rw [htext]
    exact .cons blanks_nil (hl.line level) ih

private theorem listed_array (hl : l.Regular) (level : Nat) (xs : List β) :
    Listed '[' ']' (xs.map fun x => utf8List ((raw x).render l (level + 1)))
      (utf8List ((Raw.array (xs.map raw)).render l level)) := by
  cases xs with
  | nil => exact .nil blanks_nil
  | cons x xs =>
    have htext : utf8List ((Raw.array ((x :: xs).map raw)).render l level)
        = ascii '[' :: (utf8List (l.line (level + 1)) ++ (utf8List ((raw x).render l (level + 1))
          ++ (utf8List (Raw.renderItems l (level + 1) (xs.map raw))
            ++ (utf8List (l.line level) ++ [ascii ']'])))) := by
      rw [List.map_cons, Raw.render]
      simp only [List.cons_append, List.append_assoc, utf8List_cons, utf8List_append]
      rfl
    rw [htext]
    exact .cons (hl.line (level + 1)) (hl.line level) (continued_renderItems raw hl (level + 1) xs)

/-- An array is read back when its items are, and is refused when one of them is. -/
theorem items_array (hl : l.Regular) {level : Nat} {item : Nat → Scan α} {value : β → Option α}
    {xs : List β} (hstart : ∀ x ∈ xs, Starts (utf8List ((raw x).render l (level + 1))))
    (h : ∀ x ∈ xs, ∀ index,
      Reads (item index) (utf8List ((raw x).render l (level + 1))) (value x)) (rest : Bytes) :
    items '[' ']' item (utf8List ((Raw.array (xs.map raw)).render l level) ++ rest)
      = (xs.mapM value).map fun ys => (ys, rest) :=
  items_listed (.inl rfl) (listed_array raw hl level xs) hstart h rest

/-- One member of an object as it is written. -/
def writtenMember {β : Type} (l : Layout) (level : Nat) (raw : β → Raw) (m : String × β) : Bytes :=
  utf8List (quoted m.1) ++ (utf8List l.colon ++ utf8List ((raw m.2).render l level))

private theorem continued_renderMembers (hl : l.Regular) (level : Nat) (ms : List (String × β)) :
    Continued (ms.map (writtenMember l level raw))
      (utf8List (Raw.renderMembers l level (ms.map fun (k, x) => (k, raw x)))) := by
  induction ms with
  | nil => exact .nil
  | cons m ms ih =>
    have htext : utf8List (Raw.renderMembers l level ((m :: ms).map fun (k, x) => (k, raw x)))
        = [] ++ ascii ',' :: (utf8List (l.line level) ++ (writtenMember l level raw m
          ++ utf8List (Raw.renderMembers l level (ms.map fun (k, x) => (k, raw x))))) := by
      rw [List.map_cons, Raw.renderMembers]
      simp only [List.cons_append, List.append_assoc, utf8List_cons, utf8List_append,
        writtenMember]
      rfl
    rw [htext]
    exact .cons blanks_nil (hl.line level) ih

private theorem listed_object (hl : l.Regular) (level : Nat) (ms : List (String × β)) :
    Listed '{' '}' (ms.map (writtenMember l (level + 1) raw))
      (utf8List ((Raw.object (ms.map fun (k, x) => (k, raw x))).render l level)) := by
  cases ms with
  | nil => exact .nil blanks_nil
  | cons m ms =>
    have htext : utf8List ((Raw.object ((m :: ms).map fun (k, x) => (k, raw x))).render l level)
        = ascii '{' :: (utf8List (l.line (level + 1)) ++ (writtenMember l (level + 1) raw m
          ++ (utf8List (Raw.renderMembers l (level + 1) (ms.map fun (k, x) => (k, raw x)))
            ++ (utf8List (l.line level) ++ [ascii '}'])))) := by
      rw [List.map_cons, Raw.render]
      simp only [List.cons_append, List.append_assoc, utf8List_cons, utf8List_append,
        writtenMember]
      rfl
    rw [htext]
    exact .cons (hl.line (level + 1)) (hl.line level)
      (continued_renderMembers raw hl (level + 1) ms)

private theorem starts_quoted (s : String) : Starts (utf8List (quoted s)) := by
  rw [quoted, List.cons_append, utf8List_cons]
  exact ⟨ascii '"', _, rfl, by decide, by decide, by decide⟩

theorem Starts.append {b : Bytes} (h : Starts b) (c : Bytes) : Starts (b ++ c) := by
  obtain ⟨o, tail, rfl, hblank, hmark⟩ := h
  exact ⟨o, tail ++ c, rfl, hblank, hmark⟩

/-- An object is read back when its members are, and is refused when one of them is. -/
theorem members_object (hl : l.Regular) {level : Nat} {field : String → Scan α}
    {value : String × β → Option α} {ms : List (String × β)}
    (h : ∀ m ∈ ms, Reads (field m.1) (utf8List ((raw m.2).render l (level + 1))) (value m))
    (rest : Bytes) :
    members field (utf8List ((Raw.object (ms.map fun (k, x) => (k, raw x))).render l level) ++ rest)
      = (ms.mapM fun m => (value m).map fun x => (m.1, x)).map fun found => (found, rest) := by
  obtain ⟨blank, hcolon, hblank⟩ := hl.colon
  have hmember (m : String × β) (hm : m ∈ ms) :
      Reads (member string field) (writtenMember l (level + 1) raw m)
        ((value m).map fun x => (m.1, x)) := by
    have hwritten : writtenMember l (level + 1) raw m = utf8List (quoted m.1) ++ ([] ++ ascii ':' ::
        (utf8List blank ++ utf8List ((raw m.2).render l (level + 1)))) := by
      rw [writtenMember, hcolon]
      rfl
    rw [hwritten]
    exact reads_member (string_quoted m.1) (starts_quoted m.1) blanks_nil hblank (h m hm)
  exact items_listed (.inr rfl) (listed_object raw hl level ms)
    (fun m _ => (starts_quoted m.1).append _) (fun m hm _ => hmember m hm) rest

end Scan

end IdentityToken.Json
