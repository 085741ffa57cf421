import IdentityToken.Proofs.Command.Kinds
import IdentityToken.Proofs.Edits
import IdentityToken.Proofs.Json.Exactness
/-!
# Attributes on the command line

Each text for an attribute gives a key and a value, whatever the record is that they are set on. Of
several texts with one key the last counts, and what no text gives is as in the profile. So texts
with different keys can stand in any order. A key is taken without the white space around it before
it is checked, so that no text sets an attribute that is reserved.
-/

namespace IdentityToken.Command.IdentityOptions

open Text

variable {r r' : Identity} {text key : String} {texts texts' : List String} {value : Json}

/-- What a text for an attribute gives: the key before the first mark and the value after it. A text
that denotes no value in JSON stands for itself. -/
inductive Gives : String → String → Json → Prop where
  | json {before after : String} {value : Json} (hbefore : '=' ∉ before.toList)
      (h : Json.Denotes after value) : Gives (before ++ "=" ++ after) (trim before) value
  | text {before after : String} (hbefore : '=' ∉ before.toList)
      (h : ∀ value, ¬Json.Denotes after value) :
      Gives (before ++ "=" ++ after) (trim before) (.string after)

/-! ## One attribute -/

theorem readAttribute_append {before : String} (h : '=' ∉ before.toList) (after : String) :
    readAttribute (before ++ "=" ++ after)
      = .ok (trim before, (Json.ofString? after).getD (.string after)) := by
  have hsplit : splitFirst? '=' (before ++ "=" ++ after) = some (before, after) :=
    splitFirst?_append h after
  rw [readAttribute, hsplit]

theorem readAttribute_of_no_mark (h : '=' ∉ text.toList) :
    readAttribute text = .error (.attributeWithoutValue text) := by
  have hsplit : splitFirst? '=' text = none := by
    have hrest : text.toList.dropWhile (· != '=') = [] := by
      rw [dropWhile_eq_nil_iff]
      rintro c hc
      rw [bne_iff_ne]
      rintro rfl
      exact h hc
    rw [splitFirst?, hrest]
  rw [readAttribute, hsplit]

theorem Gives.mark (h : Gives text key value) : '=' ∈ text.toList := by
  cases h <;> simp

theorem exists_gives (h : '=' ∈ text.toList) : ∃ key value, Gives text key value := by
  obtain ⟨before, after, hbefore, htext⟩ := exists_eq_append_mark h
  obtain rfl : text = before ++ "=" ++ after := htext
  cases hvalue : Json.ofString? after with
  | some value => exact ⟨_, value, .json hbefore (Json.ofString?_eq_some_iff.mp hvalue)⟩
  | none => exact ⟨_, _, .text hbefore (Json.ofString?_eq_none_iff.mp hvalue)⟩

private theorem Gives.readAttribute_eq (h : Gives text key value) :
    readAttribute text = .ok (key, value) := by
  cases h with
  | json hbefore h =>
    rw [readAttribute_append hbefore, Json.ofString?_eq_some_iff.mpr h]
    rfl
  | text hbefore h =>
    rw [readAttribute_append hbefore, Json.ofString?_eq_none_iff.mpr h]
    rfl

/-- A text gives at most one attribute. -/
theorem Gives.unique {key' : String} {value' : Json} (h : Gives text key value)
    (h' : Gives text key' value') : key = key' ∧ value = value' :=
  Prod.mk.inj (Except.ok.inj (h.readAttribute_eq.symm.trans h'.readAttribute_eq))

theorem readAttribute_eq_ok_iff : readAttribute text = .ok (key, value) ↔ Gives text key value := by
  refine ⟨fun h => ?_, Gives.readAttribute_eq⟩
  by_cases hmark : '=' ∈ text.toList
  · obtain ⟨key', value', hgives⟩ := exists_gives hmark
    obtain ⟨rfl, rfl⟩ := Prod.mk.inj (Except.ok.inj (hgives.readAttribute_eq.symm.trans h))
    exact hgives
  · rw [readAttribute_of_no_mark hmark] at h
    cases h

theorem setAttribute_eq_ok_iff : setAttribute r text = .ok r' ↔
    ∃ key value, Gives text key value ∧ r.set key value = .ok r' := by
  simp only [setAttribute, bind_eq_ok_iff, Prod.exists, readAttribute_eq_ok_iff, mapError_eq_ok_iff]

/-- A text can be set as an attribute, of any record. -/
def Settable (text : String) : Prop := ∃ key value, Gives text key value ∧ ¬RefusedKey key

theorem exists_setAttribute_iff : (∃ r', setAttribute r text = .ok r') ↔ Settable text := by
  simp only [setAttribute_eq_ok_iff]
  constructor
  · rintro ⟨r', key, value, hgives, hset⟩
    exact ⟨key, value, hgives, not_refusedKey_iff.mpr (Identity.set_eq_ok_iff.mp hset).1⟩
  · rintro ⟨key, value, hgives, hkey⟩
    obtain ⟨r', hset⟩ := Identity.exists_set_of_allowedKey (not_refusedKey_iff.mp hkey) r value
    exact ⟨r', key, value, hgives, hset⟩

theorem not_settable_iff : ¬Settable text ↔
    '=' ∉ text.toList ∨ ∃ key value, Gives text key value ∧ RefusedKey key := by
  by_cases hmark : '=' ∈ text.toList
  · obtain ⟨key, value, hgives⟩ := exists_gives hmark
    constructor
    · intro h
      refine .inr ⟨key, value, hgives, Classical.byContradiction fun hkey => ?_⟩
      exact h ⟨key, value, hgives, hkey⟩
    · rintro (h | ⟨key', value', hgives', hrefused⟩) ⟨key'', value'', hgives'', hkey⟩
      · exact h hmark
      · exact hkey ((hgives'.unique hgives'').1 ▸ hrefused)
  · refine iff_of_true ?_ (.inl hmark)
    rintro ⟨key, value, hgives, -⟩
    exact hmark hgives.mark

/-! ## Several attributes -/

theorem exists_foldlM_iff : (∃ r', texts.foldlM setAttribute r = .ok r') ↔
    ∀ text ∈ texts, Settable text := by
  induction texts generalizing r with
  | nil => exact iff_of_true ⟨r, rfl⟩ (by simp)
  | cons text texts ih =>
    simp only [List.foldlM_cons, bind_eq_ok_iff, List.forall_mem_cons]
    constructor
    · rintro ⟨r', s, hs, hrest⟩
      exact ⟨exists_setAttribute_iff.mp ⟨s, hs⟩, ih.mp ⟨r', hrest⟩⟩
    · rintro ⟨htext, htexts⟩
      obtain ⟨s, hs⟩ := exists_setAttribute_iff.mpr htext
      obtain ⟨r', hrest⟩ := ih.mpr htexts
      exact ⟨r', s, hs, hrest⟩

/-- Some text gives the key. -/
def Names (texts : List String) (key : String) : Prop :=
  ∃ text ∈ texts, ∃ value, Gives text key value

/-- The last text that gives the key gives it this value. -/
def LastGives (texts : List String) (key : String) (value : Json) : Prop :=
  ∃ before text after, texts = before ++ text :: after ∧ Gives text key value ∧ ¬Names after key

theorem lastGives_cons_iff : LastGives (text :: texts) key value ↔
    LastGives texts key value ∨ Gives text key value ∧ ¬Names texts key := by
  constructor
  · rintro ⟨_ | ⟨first, before⟩, last, after, heq, hgives, hafter⟩
    · obtain ⟨rfl, rfl⟩ := List.cons.inj heq
      exact .inr ⟨hgives, hafter⟩
    · obtain ⟨-, rfl⟩ := List.cons.inj heq
      exact .inl ⟨before, last, after, rfl, hgives, hafter⟩
  · rintro (⟨before, last, after, rfl, hgives, hafter⟩ | ⟨hgives, hrest⟩)
    · exact ⟨text :: before, last, after, rfl, hgives, hafter⟩
    · exact ⟨[], text, texts, rfl, hgives, hrest⟩

theorem names_cons_iff : Names (text :: texts) key ↔
    (∃ value, Gives text key value) ∨ Names texts key := by
  simp [Names]

/-- What a record has after attributes were set: what the last text with the key gives, or what was
there before. -/
theorem get?_of_foldlM (h : texts.foldlM setAttribute r = .ok r') (k : String) (x : Json) :
    r'.get? k = some x ↔ LastGives texts k x ∨ ¬Names texts k ∧ r.get? k = some x := by
  -- What the first text sets is part of the record that the others are set on.
  induction texts generalizing r with
  | nil =>
    cases h
    simp [LastGives, Names]
  | cons text texts ih =>
    rw [List.foldlM_cons] at h
    obtain ⟨s, hs, hrest⟩ := bind_eq_ok_iff.mp h
    obtain ⟨key, value, hgives, hset⟩ := setAttribute_eq_ok_iff.mp hs
    rw [ih hrest, Identity.get?_of_set_eq_ok hset, lastGives_cons_iff, names_cons_iff, or_assoc]
    refine or_congr_right ?_
    by_cases hk : k = key
    · subst hk
      have hvalue : Gives text k x ↔ value = x :=
        ⟨fun h => (hgives.unique h).2, fun h => h ▸ hgives⟩
      have hnamed : ∃ value, Gives text k value := ⟨value, hgives⟩
      simp only [if_true, Option.some.injEq, hvalue, hnamed, true_or, not_true, false_and, or_false]
      exact and_comm
    · have hother {y : Json} : ¬Gives text k y := fun h => hk (h.unique hgives).1
      simp [hk, hother]

/-! ## Any order -/

/-- Two texts do not give the same key. -/
def Apart (text text' : String) : Prop :=
  ∀ key value value', Gives text key value → ¬Gives text' key value'

theorem Apart.symm {text' : String} (h : Apart text text') : Apart text' text :=
  fun key value value' hgives' hgives => h key value' value hgives hgives'

theorem lastGives_iff_of_apart (h : texts.Pairwise Apart) :
    LastGives texts key value ↔ ∃ text ∈ texts, Gives text key value := by
  constructor
  · rintro ⟨before, text, after, rfl, hgives, -⟩
    exact ⟨text, by simp, hgives⟩
  · rintro ⟨text, hmem, hgives⟩
    obtain ⟨before, after, rfl⟩ := List.append_of_mem hmem
    have hafter := (List.pairwise_cons.mp (List.pairwise_append.mp h).2.1).1
    refine ⟨before, text, after, rfl, hgives, ?_⟩
    rintro ⟨text', hmem', value', hgives'⟩
    exact hafter text' hmem' key value value' hgives hgives'

/-- Texts with different keys can be set in any order. -/
theorem foldlM_eq_of_perm (hperm : texts.Perm texts') (hapart : texts.Pairwise Apart)
    (h : texts.foldlM setAttribute r = .ok r') : texts'.foldlM setAttribute r = .ok r' := by
  have hapart' := hperm.pairwise hapart Apart.symm
  obtain ⟨s, hs⟩ := (exists_foldlM_iff (r := r)).mpr fun text hmem =>
    exists_foldlM_iff.mp ⟨r', h⟩ text (hperm.mem_iff.mpr hmem)
  have hlast (k : String) (x : Json) : LastGives texts' k x ↔ LastGives texts k x := by
    simp only [lastGives_iff_of_apart hapart, lastGives_iff_of_apart hapart', hperm.mem_iff]
  have hnames (k : String) : Names texts' k ↔ Names texts k := by
    simp only [Names, hperm.mem_iff]
  have hget (k : String) : s.get? k = r'.get? k := Option.ext fun x => by
    rw [get?_of_foldlM hs, get?_of_foldlM h, hlast, hnames]
  rw [hs, Identity.ext_get? ((typedId_of_foldlM hs).trans (typedId_of_foldlM h).symm) hget]

variable {base : IdentityBase} {files : FileSystem}

theorem identity_eq_ok_iff : identity ⟨base, texts⟩ files = .ok r' ↔
    ∃ r, base.identity files = .ok r ∧ texts.foldlM setAttribute r = .ok r' := bind_eq_ok_iff

theorem exists_identity_iff : (∃ r', identity ⟨base, texts⟩ files = .ok r') ↔
    (∃ r, base.identity files = .ok r) ∧ ∀ text ∈ texts, Settable text := by
  simp only [identity_eq_ok_iff]
  constructor
  · rintro ⟨r', r, hr, hfold⟩
    exact ⟨⟨r, hr⟩, exists_foldlM_iff.mp ⟨r', hfold⟩⟩
  · rintro ⟨⟨r, hr⟩, htexts⟩
    obtain ⟨r', hfold⟩ := exists_foldlM_iff.mpr htexts
    exact ⟨r', r, hr, hfold⟩

/-- The identity from the command line fails exactly if its base fails or a text has no mark or a
key that is refused. Else it has the typed id of its base and under each key what the last text with
this key gives, or what the base has if there is none. A text gives the key before its first mark
and one value. Texts with different keys can stand in any order, and nothing is set under a reserved
key. -/
theorem identity_of_attributes :
    (∀ text, '=' ∈ text.toList → ∃ key value, Gives text key value ∧
      ∀ key' value', Gives text key' value' → key' = key ∧ value' = value) ∧
    ∀ base files texts,
      ((∃ e, identity ⟨base, texts⟩ files = .error e) ↔ (∃ e, base.identity files = .error e) ∨
        ∃ text ∈ texts, '=' ∉ text.toList ∨
          ∃ key value, Gives text key value ∧ (trim key = "" ∨ key ∈ ["sub", "iat", "iss"])) ∧
      ∀ r, identity ⟨base, texts⟩ files = .ok r →
        (∀ r', base.identity files = .ok r' → r.typedId = r'.typedId ∧
          ∀ k x, r.get? k = some x ↔
            (∃ before text after, texts = before ++ text :: after ∧ Gives text k x ∧
              ¬∃ text' ∈ after, ∃ x', Gives text' k x') ∨
            (¬∃ text ∈ texts, ∃ x', Gives text k x') ∧ r'.get? k = some x) ∧
        (∀ texts', texts.Perm texts' →
          texts.Pairwise (fun a b => ∀ k x y, Gives a k x → ¬Gives b k y) →
          identity ⟨base, texts'⟩ files = .ok r) ∧
        ∀ k ∈ ["sub", "iat", "iss"], r.get? k = none ∧ ¬∃ text ∈ texts, ∃ x, Gives text k x := by
  refine ⟨?_, ?_⟩
  · intro text hmark
    obtain ⟨key, value, hgives⟩ := exists_gives hmark
    exact ⟨key, value, hgives, fun key' value' h => h.unique hgives⟩
  · intro base files texts
    refine ⟨?_, ?_⟩
    · simp only [exists_error_iff_forall_ne, ← not_exists, exists_identity_iff,
        Classical.not_and_iff_not_or_not, Classical.not_forall, exists_prop, not_settable_iff]
      rfl
    · intro r h
      obtain ⟨r₀, hbase, hfold⟩ := identity_eq_ok_iff.mp h
      refine ⟨?_, ?_, ?_⟩
      · intro r' hr'
        obtain rfl : r₀ = r' := Except.ok.inj (hbase.symm.trans hr')
        exact ⟨typedId_of_foldlM hfold, get?_of_foldlM hfold⟩
      · intro texts' hperm hapart
        exact identity_eq_ok_iff.mpr ⟨r₀, hbase, foldlM_eq_of_perm hperm hapart hfold⟩
      · intro k hk
        have hrefused : RefusedKey k := .inr hk
        refine ⟨StringMap.get?_eq_none_of_forall_ne ?_, ?_⟩
        · rintro m hm rfl
          exact not_refusedKey_iff.mpr (r.allowed m hm) hrefused
        · rintro ⟨text, hmem, x, hgives⟩
          obtain ⟨key, value, hgives', hkey⟩ := exists_foldlM_iff.mp ⟨r, hfold⟩ text hmem
          exact hkey ((hgives.unique hgives').1 ▸ hrefused)

private theorem gives_append (before after : String) (hbefore : '=' ∉ before.toList)
    (hkey : trim before = key) (hvalue : (Json.ofString? after).getD (.string after) = value) :
    Gives (before ++ "=" ++ after) key value := by
  rw [← readAttribute_eq_ok_iff, readAttribute_append hbefore, hkey, hvalue]

/-- Of two texts with one key the last counts, also where there is white space around the key. A
value may have a mark of its own, and what is no JSON is a text. -/
theorem identity_of_attributes_ada :
    (∃ r, identity ⟨.subject none "ada", [" role=admin", "n=\"1\"", "role =a=b"]⟩ keyring.files
        = .ok r ∧ r.typedId = "ada" ∧ r.get? "role" = some (.string "a=b") ∧
      r.get? "n" = some (.string "1") ∧ r.get? "sub" = none) ∧
    (∃ r, identity ⟨.subject none "ada", ["n=\"1\"", "role =a=b"]⟩ keyring.files = .ok r ∧
      identity ⟨.subject none "ada", ["role =a=b", "n=\"1\""]⟩ keyring.files = .ok r) ∧
    ∃ e, identity ⟨.subject none "ada", ["role =a=b", "sub\t=mallory"]⟩ keyring.files
      = .error e := by
  have hplain {s : String} (h : (Json.ofString? s).isNone = true) :
      (Json.ofString? s).getD (.string s) = .string s := by
    rw [Option.isNone_iff_eq_none.mp h]
    rfl
  have hquoted : (Json.ofString? "\"1\"").getD (.string "\"1\"") = .string "1" := by
    obtain ⟨x, hx, hstring⟩ := Option.bind_eq_some_iff.mp
      (show (Json.ofString? "\"1\"").bind Json.string? = some "1" by decide +kernel)
    rw [hx, Json.string?_eq_some_iff.mp hstring]
    rfl
  have hadmin : Gives " role=admin" "role" (.string "admin") :=
    gives_append " role" "admin" (by decide) (by decide) (hplain (by decide +kernel))
  have hn : Gives "n=\"1\"" "n" (.string "1") :=
    gives_append "n" "\"1\"" (by decide) (by decide) hquoted
  have hrole : Gives "role =a=b" "role" (.string "a=b") :=
    gives_append "role " "a=b" (by decide) (by decide) (hplain (by decide +kernel))
  have hsub : Gives "sub\t=mallory" "sub" (.string "mallory") :=
    gives_append "sub\t" "mallory" (by decide) (by decide) (hplain (by decide +kernel))
  have hkey : ¬RefusedKey "role" ∧ ¬RefusedKey "n" :=
    ⟨not_refusedKey_iff.mpr (by decide), not_refusedKey_iff.mpr (by decide)⟩
  have hlast : ∀ text ∈ ["n=\"1\"", "role =a=b"], Settable text :=
    List.forall_mem_cons.mpr
      ⟨⟨_, _, hn, hkey.2⟩, List.forall_mem_singleton.mpr ⟨_, _, hrole, hkey.1⟩⟩
  have hbase : ∃ r, IdentityBase.identity keyring.files (.subject none "ada") = .ok r ∧
      r.typedId = "ada" := ⟨_, rfl, rfl⟩
  obtain ⟨base, hbase, hada⟩ := hbase
  obtain ⟨-, hidentity⟩ := identity_of_attributes
  refine ⟨?_, ?_, ?_⟩
  · obtain ⟨r, hr⟩ := exists_identity_iff.mpr
      ⟨⟨base, hbase⟩, List.forall_mem_cons.mpr ⟨⟨_, _, hadmin, hkey.1⟩, hlast⟩⟩
    obtain ⟨hvalues, -, hreserved⟩ := (hidentity _ _ _).2 r hr
    obtain ⟨htypedId, hget⟩ := hvalues base hbase
    refine ⟨r, hr, htypedId.trans hada, ?_, ?_, (hreserved "sub" (by simp)).1⟩
    · exact (hget _ _).mpr (.inl ⟨[_, _], _, [], rfl, hrole, by simp⟩)
    · refine (hget _ _).mpr (.inl ⟨[_], _, [_], rfl, hn, ?_⟩)
      rintro ⟨text, hmem, x, hx⟩
      rw [List.mem_singleton.mp hmem] at hx
      exact absurd (hx.unique hrole).1 (by decide)
  · obtain ⟨r, hr⟩ := exists_identity_iff.mpr ⟨⟨base, hbase⟩, hlast⟩
    obtain ⟨-, hperm, -⟩ := (hidentity _ _ _).2 r hr
    refine ⟨r, hr, hperm _ (List.Perm.swap _ _ _) ?_⟩
    simp only [List.pairwise_cons, List.mem_singleton, List.not_mem_nil, forall_eq]
    refine ⟨fun k x y hx hy => ?_, by simp⟩
    exact absurd ((hx.unique hn).1.symm.trans (hy.unique hrole).1) (by decide)
  · exact (hidentity _ _ _).1.mpr (.inr ⟨_, List.mem_cons_of_mem _ List.mem_cons_self,
      .inr ⟨_, _, hsub, .inr (by decide)⟩⟩)

end IdentityToken.Command.IdentityOptions
