/-!
# Blank text

White space is the Unicode property `White_Space`. `trim` takes it off both ends of a text, and a
text is `Blank` when nothing is left (`trim_eq_empty_iff`).
-/

namespace IdentityToken.Text

/-- The ranges of code points with the property `White_Space`, first and last included. -/
def whiteSpace : List (Nat × Nat) :=
  [(0x09, 0x0D), (0x20, 0x20), (0x85, 0x85), (0xA0, 0xA0), (0x1680, 0x1680), (0x2000, 0x200A),
    (0x2028, 0x2029), (0x202F, 0x202F), (0x205F, 0x205F), (0x3000, 0x3000)]

def isSpace (c : Char) : Bool :=
  whiteSpace.any fun (low, high) => low ≤ c.toNat && c.toNat ≤ high

def trimList (l : List Char) : List Char :=
  ((l.dropWhile isSpace).reverse.dropWhile isSpace).reverse

def trim (s : String) : String := String.ofList (trimList s.toList)

def Blank (s : String) : Prop := ∀ c ∈ s.toList, isSpace c = true

instance (s : String) : Decidable (Blank s) :=
  List.decidableBAll (fun c => isSpace c = true) s.toList

theorem dropWhile_eq_nil_iff {p : Char → Bool} {l : List Char} :
    l.dropWhile p = [] ↔ ∀ c ∈ l, p c = true := by
  induction l with
  | nil => simp
  | cons c l ih => by_cases h : p c = true <;> simp [h, ih]

theorem dropWhile_dropWhile (p : Char → Bool) (l : List Char) :
    (l.dropWhile p).dropWhile p = l.dropWhile p := by
  induction l with
  | nil => rfl
  | cons c l ih => by_cases h : p c = true <;> simp [h, ih]

theorem trimList_eq_nil_iff {l : List Char} : trimList l = [] ↔ ∀ c ∈ l, isSpace c = true := by
  rw [trimList, List.reverse_eq_nil_iff, dropWhile_eq_nil_iff]
  simp only [List.mem_reverse]
  rw [← dropWhile_eq_nil_iff, dropWhile_dropWhile, dropWhile_eq_nil_iff]

/-- Exactly the blank texts are trimmed to nothing. -/
theorem trim_eq_empty_iff {s : String} : trim s = "" ↔ Blank s := by
  rw [trim, ← String.toList_inj, String.toList_ofList]
  exact trimList_eq_nil_iff

theorem trimList_append {l m r : List Char} (hl : ∀ c ∈ l, isSpace c = true)
    (hm : ∀ c ∈ m, isSpace c = false) (hr : ∀ c ∈ r, isSpace c = true) :
    trimList (l ++ m ++ r) = m := by
  have hkeep {n : List Char} (hn : ∀ c ∈ n, isSpace c = false) : n.dropWhile isSpace = n := by
    cases n with
    | nil => rfl
    | cons c n => simp [hn c (by simp)]
  cases m with
  | nil =>
    rw [trimList_eq_nil_iff, List.append_nil]
    intro c hc
    exact (List.mem_append.mp hc).elim (hl c) (hr c)
  | cons c m =>
    have hc : isSpace c = false := hm c (by simp)
    have hreverse : ∀ d ∈ (c :: m).reverse, isSpace d = false := fun d hd =>
      hm d (List.mem_reverse.mp hd)
    rw [trimList, List.append_assoc, List.dropWhile_append_of_pos hl, List.cons_append,
      List.dropWhile_cons_of_neg (by simp [hc]), ← List.cons_append, List.reverse_append,
      List.dropWhile_append_of_pos (by simpa using hr), hkeep hreverse, List.reverse_reverse]

/-- White space around a text without white space is dropped. -/
theorem trim_append {before s after : String} (hbefore : Blank before)
    (hs : ∀ c ∈ s.toList, isSpace c = false) (hafter : Blank after) :
    trim (before ++ s ++ after) = s := by
  rw [trim, String.toList_append, String.toList_append, trimList_append hbefore hs hafter,
    String.ofList_toList]

example : trim "\u3000 a b\n" = "a b" := by decide

end IdentityToken.Text
