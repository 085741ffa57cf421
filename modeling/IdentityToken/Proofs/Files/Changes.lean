import IdentityToken.Proofs.Files
import IdentityToken.Proofs.Text.Segments
/-!
# What changes in a tree

Writing a file changes what one place holds, and creating directories only fills places that held
nothing. `Keeps` says so of a whole sequence of such steps. Directories and links stay what they
are, so a path that led to a place still leads to it afterwards.
-/

namespace IdentityToken

theorem Access.store_cases (access : Access) (content : Bytes) :
    access.store content = (content, .ok ()) ∨
    ∃ n e, access.room = some (n, e) ∧ n < content.length ∧
      access.store content = (content.take n, .error e) := by
  unfold Access.store
  split
  · exact .inl rfl
  · next n e hroom =>
    split
    · next hlt => exact .inr ⟨n, e, hroom, hlt, rfl⟩
    · exact .inl rfl

namespace FileSystem

open Text

variable {fs fs' fs'' : FileSystem} {changed changed' : Place → Prop} {place other : Place}
  {path directory name : String} {entry : Entry} {content : Bytes} {access : Access} {last : Bool}
  {l : List String}

/-! ## One place -/

theorem exists_entry?_root (fs : FileSystem) :
    ∃ access, fs.entry? [] = some (.directory access) := by
  unfold entry?
  cases fs.entries.lookup [] with
  | none => exact ⟨_, rfl⟩
  | some entry => cases entry <;> exact ⟨_, rfl⟩

/-- A place holds nothing or a file, so a file can be put there. -/
def Free (fs : FileSystem) (place : Place) : Prop :=
  ∀ entry, fs.entry? place = some entry → ∃ content access, entry = .file content access

theorem Free.ne_nil (h : fs.Free place) : place ≠ [] := by
  rintro rfl
  obtain ⟨access, hroot⟩ := exists_entry?_root fs
  obtain ⟨_, _, hfile⟩ := h _ hroot
  cases hfile

theorem Free.link?_eq_none (h : fs.Free place) : fs.link? place = none := by
  unfold link?
  split
  · next hlink =>
    obtain ⟨_, _, hfile⟩ := h _ hlink
    cases hfile
  · rfl

theorem free_of_missing (h : fs.entry? place = none) : fs.Free place := fun _ hentry => by
  cases h.symm.trans hentry

theorem free_of_file (h : fs.entry? place = some (.file content access)) : fs.Free place :=
  fun _ hentry => ⟨content, access, Option.some.inj (hentry.symm.trans h)⟩

theorem entry?_put_self (h : place ≠ []) : entry? (fs.put place entry) place = some entry := by
  cases place with
  | nil => exact absurd rfl h
  | cons first rest => simp [put, entry?]

theorem entry?_put_of_ne (h : other ≠ place) :
    entry? (fs.put place entry) other = fs.entry? other := by
  cases other with
  | nil => simp [put, List.lookup_cons, beq_false_of_ne h, entry?]
  | cons first rest => simp [put, List.lookup_cons, beq_false_of_ne h, entry?]

/-- Places that are not among some hold what they held. All directories and links are still there,
and no link is new. -/
structure Keeps (fs : FileSystem) (changed : Place → Prop) (fs' : FileSystem) : Prop where
  here : fs'.here = fs.here
  directory : ∀ place access, fs.entry? place = some (.directory access) →
    fs'.entry? place = some (.directory access)
  link : ∀ place, fs'.link? place = fs.link? place
  entry : ∀ place, ¬changed place → fs'.entry? place = fs.entry? place

namespace Keeps

theorem refl (fs : FileSystem) : fs.Keeps (fun _ => False) fs where
  here := rfl
  directory _ _ := id
  link _ := rfl
  entry _ _ := rfl

theorem trans (h : fs.Keeps changed fs') (h' : fs'.Keeps changed' fs'') :
    fs.Keeps (fun place => changed place ∨ changed' place) fs'' where
  here := h'.here.trans h.here
  directory place access hplace := h'.directory place access (h.directory place access hplace)
  link place := (h'.link place).trans (h.link place)
  entry place hplace :=
    (h'.entry place fun hchanged => hplace (.inr hchanged)).trans
      (h.entry place fun hchanged => hplace (.inl hchanged))

theorem mono (h : fs.Keeps changed fs') (hchanged : ∀ place, changed place → changed' place) :
    fs.Keeps changed' fs' :=
  { h with entry := fun place hplace => h.entry place fun h' => hplace (hchanged place h') }

theorem put (hfree : fs.Free place) (hentry : ∀ start names, entry ≠ .link start names) :
    fs.Keeps (fun other => other = place) (fs.put place entry) where
  here := rfl
  directory other access hother := by
    have hne : other ≠ place := by
      rintro rfl
      obtain ⟨_, _, hfile⟩ := hfree _ hother
      cases hfile
    rwa [entry?_put_of_ne hne]
  link other := by
    by_cases hplace : other = place
    · subst hplace
      rw [hfree.link?_eq_none, link?, entry?_put_self hfree.ne_nil]
      split
      · next start names hlink => exact absurd (Option.some.inj hlink) (hentry start names)
      · rfl
    · simp only [link?, entry?_put_of_ne hplace]
  entry other hother := entry?_put_of_ne hother

end Keeps

/-! ## Paths -/

private theorem Keeps.advance (h : fs.Keeps changed fs') {reached : Place × List String}
    (hadvance : fs.advance place l = .ok reached) : fs'.advance place l = .ok reached := by
  obtain ⟨reached, rest⟩ := reached
  induction l generalizing place with
  | nil => exact hadvance
  | cons name l ih =>
    obtain ⟨next, hnext, hend⟩ := advance_cons_eq_ok_iff.mp hadvance
    obtain ⟨access, hdirectory, hentering, hplace⟩ := step_eq_ok_iff.mp hnext
    refine advance_cons_eq_ok_iff.mpr ⟨next, step_eq_ok_iff.mpr
      ⟨access, h.directory _ _ hdirectory, hentering, hplace⟩, ?_⟩
    rw [h.link]
    split at hend
    · next hlink => rw [if_pos hlink, hend]
    · next hlink => rw [if_neg hlink, ih hend]

private theorem Keeps.leads (h : fs.Keeps changed fs') {links : Nat}
    (hleads : fs.Leads last links place l other) : fs'.Leads last links place l other := by
  induction hleads with
  | stop hadvance hlink => exact .stop (h.advance hadvance) ((h.link _).trans hlink)
  | held hlast hadvance hlink => exact .held hlast (h.advance hadvance) ((h.link _).trans hlink)
  | onward hadvance hlink hmore _ ih =>
    exact .onward (h.advance hadvance) ((h.link _).trans hlink) hmore ih

/-- A path that leads to a place still does. -/
theorem Keeps.locate (h : fs.Keeps changed fs') (hplace : fs.locate path last = .ok place) :
    fs'.locate path last = .ok place := by
  obtain ⟨hnul, hne, hlt, hleads⟩ := locate_eq_ok_iff.mp hplace
  exact locate_eq_ok_iff.mpr ⟨hnul, hne, hlt, h.here ▸ h.leads hleads⟩

theorem lookup_eq_ok_file_iff : fs.lookup path = .ok (.file content access) ↔
    ∃ place, fs.locate path = .ok place ∧ wantsDirectory path = false ∧
      fs.entry? place = some (.file content access) := by
  simp only [lookup, bind_eq_ok_iff]
  refine exists_congr fun place => and_congr_right fun _ => ?_
  split
  · next h => cases hwants : wantsDirectory path <;> simp [h]
  · next h => simp [h]
  · next hdirectory hfile =>
    exact ⟨nofun, fun ⟨_, h⟩ => absurd h (hdirectory _ _)⟩

/-- A file that may not have changed is found as before. -/
theorem Keeps.lookup (h : fs.Keeps changed fs') (hplace : fs.locate path = .ok place)
    (hkept : ¬changed place) (hfile : fs.lookup path = .ok (.file content access)) :
    fs'.lookup path = .ok (.file content access) := by
  obtain ⟨place', hplace', hwants, hentry⟩ := lookup_eq_ok_file_iff.mp hfile
  obtain rfl : place = place' := Except.ok.inj (hplace.symm.trans hplace')
  exact lookup_eq_ok_file_iff.mpr
    ⟨place, h.locate hplace, hwants, (h.entry place hkept).trans hentry⟩

/-- A path leads to a file with these octets. -/
def Contains (fs : FileSystem) (path : String) (content : Bytes) : Prop :=
  ∃ access, fs.lookup path = .ok (.file content access)

theorem Contains.of_keeps (h : fs.Contains path content) (hkeeps : fs.Keeps changed fs')
    (hplace : fs.locate path = .ok place) (hkept : ¬changed place) : fs'.Contains path content :=
  h.imp fun _ hfile => hkeeps.lookup hplace hkept hfile

/-! ## Links at the end of a path -/

/-- A way that ends at something else than a link is the same whether or not a link at the end is
followed. -/
theorem Leads.follow {links : Nat} (h : fs.Leads false links place l other)
    (hnone : fs.link? other = none) : fs.Leads true links place l other := by
  induction h with
  | stop hadvance hlink => exact .stop hadvance hlink
  | held _ _ hlink => cases hnone.symm.trans hlink
  | onward hadvance hlink _ _ ih => exact .onward hadvance hlink (fun _ => rfl) (ih hnone)

/-- If links are followed to a place, then there is one at the end of the way or this is the
place. -/
theorem Leads.exists_hold {links : Nat} (h : fs.Leads true links place l other) :
    ∃ own, fs.Leads false links place l own ∧ (fs.link? own = none → own = other) := by
  induction h with
  | stop hadvance hlink => exact ⟨_, .stop hadvance hlink, fun _ => rfl⟩
  | held hlast => cases hlast
  | @onward links place reached start other l rest ahead hadvance hlink _ _ ih =>
    by_cases hrest : rest = []
    · subst hrest
      exact ⟨reached, .held rfl hadvance hlink, fun hnone => by cases hnone.symm.trans hlink⟩
    · obtain ⟨own, hown, hsame⟩ := ih
      exact ⟨own, .onward hadvance hlink (fun hnil => absurd hnil hrest) hown, hsame⟩

/-- A link stands at the end of a path. -/
def EndsInLink (fs : FileSystem) (path : String) : Prop :=
  ∃ place, fs.locate path false = .ok place ∧ (fs.link? place).isSome

theorem locate_of_link?_eq_none (h : fs.locate path false = .ok place)
    (hlink : fs.link? place = none) : fs.locate path = .ok place := by
  obtain ⟨hnul, hne, hlt, hleads⟩ := locate_eq_ok_iff.mp h
  exact locate_eq_ok_iff.mpr ⟨hnul, hne, hlt, hleads.follow hlink⟩

theorem locate_false_or_endsInLink (h : fs.locate path = .ok place) :
    fs.locate path false = .ok place ∨ fs.EndsInLink path := by
  obtain ⟨hnul, hne, hlt, hleads⟩ := locate_eq_ok_iff.mp h
  obtain ⟨own, hown, hsame⟩ := hleads.exists_hold
  have hlocate : fs.locate path false = .ok own := locate_eq_ok_iff.mpr ⟨hnul, hne, hlt, hown⟩
  cases hlink : fs.link? own with
  | none => exact .inl (hsame hlink ▸ hlocate)
  | some link => exact .inr ⟨own, hlocate, by rw [hlink]; rfl⟩

/-! ## Writing -/

theorem openFile_eq_ok (h : fs.openFile path = .ok (place, access)) :
    fs.locate path = .ok place ∧ wantsDirectory path = false ∧ fs.Free place := by
  obtain ⟨place', hplace, hopen⟩ := bind_eq_ok_iff.mp h
  split at hopen
  · cases hopen
  · next hwants =>
    have hwants' : wantsDirectory path = false := by simpa using hwants
    split at hopen
    · next hfile =>
      obtain ⟨_, -, hsame⟩ := map_eq_ok_iff.mp hopen
      cases hsame
      exact ⟨hplace, hwants', free_of_file hfile⟩
    · cases hopen
    · next hmissing _ =>
      obtain ⟨_, -, hsame⟩ := map_eq_ok_iff.mp hopen
      cases hsame
      exact ⟨hplace, hwants', free_of_missing hmissing⟩
    · cases hopen

/-- What becomes of octets that are to be written to a file: the file cannot be opened, or it holds
all of them, or the write breaks off and it holds the first of them. -/
inductive Written (fs : FileSystem) (path : String) (content : Bytes) :
    FileSystem → Except FileError Unit → Prop where
  | closed {e : FileError} (hopen : fs.openFile path = .error e) :
      Written fs path content fs (.error e)
  | whole {after : FileSystem} {place : Place} {access : Access}
      (hplace : after.locate path = .ok place)
      (hkeeps : fs.Keeps (fun other => other = place) after)
      (hfile : after.lookup path = .ok (.file content access)) :
      Written fs path content after (.ok ())
  | part {after : FileSystem} {place : Place} {access : Access} {n : Nat} {e : FileError}
      (hplace : after.locate path = .ok place)
      (hkeeps : fs.Keeps (fun other => other = place) after)
      (hroom : access.room = some (n, e)) (hlt : n < content.length)
      (hfile : after.lookup path = .ok (.file (content.take n) access)) :
      Written fs path content after (.error e)

theorem written_of_write {after : FileSystem} {result : Except FileError Unit}
    (h : fs.write path content = (after, result)) : Written fs path content after result := by
  cases hopen : fs.openFile path with
  | error e =>
    rw [write, hopen] at h
    cases h
    exact .closed hopen
  | ok opened =>
    obtain ⟨place, access⟩ := opened
    obtain ⟨hplace, hwants, hfree⟩ := openFile_eq_ok hopen
    have hkeeps (stored : Bytes) :
        fs.Keeps (fun other => other = place) (fs.put place (.file stored access)) :=
      .put hfree (by simp)
    have hfile (stored : Bytes) : lookup (fs.put place (.file stored access)) path
        = .ok (.file stored access) :=
      lookup_eq_ok_file_iff.mpr ⟨place, (hkeeps stored).locate hplace, hwants,
        entry?_put_self hfree.ne_nil⟩
    rw [write, hopen] at h
    rcases access.store_cases content with hstore | ⟨n, e, hroom, hlt, hstore⟩
    · simp only [hstore] at h
      cases h
      exact .whole ((hkeeps content).locate hplace) (hkeeps content) (hfile content)
    · simp only [hstore] at h
      cases h
      exact .part ((hkeeps _).locate hplace) (hkeeps _) hroom hlt (hfile _)

/-! ## Creating directories -/

/-- A path leads from another one by taking away last names. -/
inductive Above : String → String → Prop where
  | self (path : String) : Above path path
  | parent {path above top : String} (hparent : parent? path = some above) (h : Above top above) :
      Above top path

/-- A directory that was missing, and that a path or one above it leads to afterwards. -/
structure Made (fs : FileSystem) (path : String) (fs' : FileSystem) (place : Place) : Prop where
  missing : fs.entry? place = none
  directory : ∃ access, fs'.entry? place = some (.directory access)
  located : ∃ top, Above top path ∧ fs'.locate top = .ok place

theorem Made.mono (h : Made fs path fs' place) (hkeeps : fs'.Keeps changed fs'')
    {below : String} (hbelow : ∀ top, Above top path → Above top below) :
    Made fs below fs'' place := by
  obtain ⟨hmissing, ⟨access, hdirectory⟩, top, habove, hlocate⟩ := h
  exact ⟨hmissing, ⟨access, hkeeps.directory _ _ hdirectory⟩, top, hbelow top habove,
    hkeeps.locate hlocate⟩

/-- What was made after a change that only made directories was missing before. -/
theorem Made.of_keeps (h : Made fs' path fs'' place) (hkeeps : fs.Keeps (Made fs name fs') fs') :
    Made fs path fs'' place := by
  obtain ⟨hmissing, hdirectory, hlocated⟩ := h
  refine ⟨?_, hdirectory, hlocated⟩
  rw [← hkeeps.entry place fun ⟨_, ⟨access, hdirectory⟩, _⟩ => ?_, hmissing]
  cases hmissing.symm.trans hdirectory

theorem createDirectory_eq_ok (h : fs.createDirectory path = .ok fs') :
    fs.Keeps (Made fs path fs') fs' := by
  obtain ⟨place, hplace, hcreate⟩ := bind_eq_ok_iff.mp h
  split at hcreate
  · cases hcreate
  · next above hmissing _ =>
    obtain ⟨_, -, rfl⟩ := map_eq_ok_iff.mp hcreate
    have hfree := free_of_missing hmissing
    have hkeeps : fs.Keeps (fun other => other = place)
        (fs.put place (.directory { room := above.room })) := .put hfree (by simp)
    have hlocate := locate_of_link?_eq_none hplace (link?_eq_none hmissing)
    refine hkeeps.mono ?_
    rintro _ rfl
    exact ⟨hmissing, ⟨_, entry?_put_self hfree.ne_nil⟩, path, .self path, hkeeps.locate hlocate⟩
  · cases hcreate

theorem keeps_ensureDirectory (fs : FileSystem) (path : String) :
    fs.Keeps (Made fs path (fs.ensureDirectory path).1) (fs.ensureDirectory path).1 := by
  unfold ensureDirectory
  split
  · next hcreate => exact createDirectory_eq_ok hcreate
  · exact (Keeps.refl fs).mono fun _ => False.elim

theorem keeps_createDirectoriesWithin (bound : Nat) (fs : FileSystem) (path : String) :
    fs.Keeps (Made fs path (createDirectoriesWithin bound fs path).1)
      (createDirectoriesWithin bound fs path).1 := by
  induction bound generalizing path with
  | zero => exact keeps_ensureDirectory fs path
  | succ bound ih =>
    unfold createDirectoriesWithin
    split
    · exact (Keeps.refl fs).mono fun _ => False.elim
    · split
      · next parent _ hparent =>
        have hfirst := ih parent
        have habove (top : String) : Above top parent → Above top path := .parent hparent
        split
        · next made hcreate =>
          rw [hcreate] at hfirst
          have hsecond := keeps_ensureDirectory made path
          refine (hfirst.trans hsecond).mono ?_
          rintro place (hmade | hmade)
          · exact hmade.mono hsecond habove
          · exact hmade.of_keeps hfirst
        · exact hfirst.mono fun place hmade => hmade.mono (.refl _) habove
      · exact keeps_ensureDirectory fs path

/-- Directories are created where nothing was, at the path or above it, and nothing else changes. -/
theorem keeps_createDirectories (fs : FileSystem) (path : String) :
    fs.Keeps (Made fs path (fs.createDirectories path).1) (fs.createDirectories path).1 :=
  keeps_createDirectoriesWithin _ fs path

theorem Keeps.after_made (hmade : fs.Keeps (Made fs path fs') fs')
    (h : fs'.Keeps changed fs'') :
    fs.Keeps (fun place => Made fs path fs'' place ∨ changed place) fs'' :=
  (hmade.trans h).mono fun _ => Or.imp_left fun hplace => hplace.mono h fun _ => id

/-! ## Files of a directory -/

/-- A text is the name of a place of its own in each directory. -/
structure OwnName (name : String) : Prop where
  noSlash : '/' ∉ name.toList
  nonempty : name ≠ ""
  notHere : name ≠ "."
  notAbove : name ≠ ".."
  length_le : (utf8 name).length ≤ maxName

theorem names_append_slash {last : String} (h : '/' ∉ last.toList) (path : String) :
    names (path ++ "/" ++ last) = names path ++ [last].filter (· ≠ "") := by
  have hsplit : split '/' (path ++ "/" ++ last) = split '/' path ++ [last] :=
    split_append_mark h path
  rw [names, hsplit, List.filter_append]
  rfl

theorem names_child (h : OwnName name) (directory : String) :
    names (child directory name) = names directory ++ [name] := by
  have hlast : [name].filter (· ≠ "") = [name] :=
    List.filter_cons_of_pos (by simpa using h.nonempty)
  unfold child
  split
  · next hends =>
    rcases hends with rfl | hslash
    · have hsplit : split '/' name = [name] :=
        split_eq_cons_iff.mpr ⟨by simpa using h.noSlash, by simp [join, joinTail]⟩
      rw [String.empty_append, names, hsplit, hlast]
      rfl
    · obtain ⟨front, rfl⟩ : ∃ front, directory = front ++ "/" := by
        obtain ⟨l, hl⟩ := List.getLast?_eq_some_iff.mp (beq_iff_eq.mp hslash)
        exact ⟨.ofList l, by simp [← String.toList_inj, hl]⟩
      have hfront : names (front ++ "/" ++ "") = names front ++ [] :=
        names_append_slash (by simp) front
      rw [String.append_empty, List.append_nil] at hfront
      rw [names_append_slash h.noSlash, hlast, hfront]
  · rw [names_append_slash h.noSlash, hlast]

theorem head?_child_iff (h : OwnName name) :
    (child directory name).toList.head? = some '/' ↔ directory.toList.head? = some '/' := by
  unfold child
  by_cases hempty : directory = ""
  · have hname : name.toList.head? ≠ some '/' := fun e => h.noSlash (List.mem_of_head? e)
    simp [hempty, hname]
  · obtain ⟨c, l, hl⟩ := List.exists_cons_of_ne_nil
      (show directory.toList ≠ [] by simpa using hempty)
    split <;> simp [hl]

private theorem advance_concat {rest : List String}
    (h : fs.advance place (l ++ [name]) = .ok (other, rest)) :
    (∃ left, rest = left ++ [name] ∧ fs.advance place l = .ok (other, left) ∧
      (fs.link? other).isSome) ∨
    rest = [] ∧ ∃ above, fs.advance place l = .ok (above, []) ∧ fs.link? above = none ∧
      fs.step above name = .ok other := by
  induction l generalizing place with
  | nil =>
    obtain ⟨next, hnext, hend⟩ := advance_cons_eq_ok_iff.mp h
    obtain ⟨access, hdirectory, -⟩ := step_eq_ok_iff.mp hnext
    have hstop : next = other ∧ [] = rest := by
      split at hend
      · simpa using hend
      · simpa [advance] using hend
    obtain ⟨rfl, rfl⟩ := hstop
    exact .inr ⟨rfl, place, rfl, link?_of_directory hdirectory, hnext⟩
  | cons first l ih =>
    obtain ⟨next, hnext, hend⟩ := advance_cons_eq_ok_iff.mp h
    split at hend
    · next hlink =>
      obtain ⟨rfl, rfl⟩ : next = other ∧ l ++ [name] = rest := by simpa using hend
      exact .inl ⟨l, rfl, advance_cons_eq_ok_iff.mpr ⟨next, hnext, if_pos hlink⟩, hlink⟩
    · next hlink =>
      have hcons {end_ : Place} {left : List String}
          (h : fs.advance next l = .ok (end_, left)) :
          fs.advance place (first :: l) = .ok (end_, left) :=
        advance_cons_eq_ok_iff.mpr ⟨next, hnext, by rw [if_neg hlink, h]⟩
      rcases ih hend with ⟨left, hrest, hadvance, hsome⟩ | ⟨hrest, above, hadvance, hnone, hstep⟩
      · exact .inl ⟨left, hrest, hcons hadvance, hsome⟩
      · exact .inr ⟨hrest, above, hcons hadvance, hnone, hstep⟩

/-- A way ends in the directory that the way without the last name leads to. -/
theorem Leads.exists_above {links : Nat}
    (h : fs.Leads false links place (l ++ [name]) other) :
    ∃ above, fs.Leads true links place l above ∧ fs.step above name = .ok other := by
  generalize hl : l ++ [name] = names at h
  induction h generalizing l with
  | stop hadvance hlink =>
    subst hl
    rcases advance_concat hadvance with ⟨_, _, _, hsome⟩ | ⟨_, above, hadvance', hnone, hstep⟩
    · rw [hlink] at hsome
      cases hsome
    · exact ⟨above, .stop hadvance' hnone, hstep⟩
  | held _ hadvance hlink =>
    subst hl
    rcases advance_concat hadvance with ⟨left, hrest, _, _⟩ | ⟨_, above, hadvance', hnone, hstep⟩
    · simp at hrest
    · exact ⟨above, .stop hadvance' hnone, hstep⟩
  | onward hadvance hlink hmore _ ih =>
    subst hl
    rcases advance_concat hadvance with ⟨left, rfl, hadvance', _⟩ | ⟨rfl, _⟩
    · obtain ⟨above, habove, hstep⟩ := ih (List.append_assoc _ _ _)
      exact ⟨above, .onward hadvance' hlink (fun _ => rfl) habove, hstep⟩
    · cases hmore rfl

theorem OwnName.eq_of_step (h : OwnName name) (hstep : fs.step place name = .ok other) :
    other = place ++ [name] := by
  have hlong : ¬maxName < (utf8 name).length := Nat.not_lt.mpr h.length_le
  obtain ⟨-, -, -, hplace⟩ := step_eq_ok_iff.mp hstep
  rw [if_neg h.notHere, if_neg h.notAbove, if_neg hlong] at hplace
  exact (Except.ok.inj hplace).symm

/-- Two names have one place in a directory only through a link. -/
theorem endsInLink_of_locate_child {name' : String} (h : OwnName name) (h' : OwnName name')
    (hne : name ≠ name') (hplace : fs.locate (child directory name) = .ok place)
    (hplace' : fs.locate (child directory name') = .ok place) :
    fs.EndsInLink (child directory name) ∨ fs.EndsInLink (child directory name') := by
  rcases locate_false_or_endsInLink hplace with hown | hlink
  · rcases locate_false_or_endsInLink hplace' with hown' | hlink'
    · -- The way to the directory is the same for both, so the names would be, too.
      obtain ⟨-, -, -, hleads⟩ := locate_eq_ok_iff.mp hown
      obtain ⟨-, -, -, hleads'⟩ := locate_eq_ok_iff.mp hown'
      rw [names_child h] at hleads
      rw [names_child h'] at hleads'
      simp only [head?_child_iff h] at hleads
      simp only [head?_child_iff h'] at hleads'
      obtain ⟨above, habove, hstep⟩ := hleads.exists_above
      obtain ⟨above', habove', hstep'⟩ := hleads'.exists_above
      obtain rfl : above = above' := habove.unique habove'
      have hsame := (h.eq_of_step hstep).symm.trans (h'.eq_of_step hstep')
      exact absurd (List.cons.inj (List.append_inj_right' hsame rfl)).1 hne
    · exact .inr hlink'
  · exact .inl hlink

end FileSystem

end IdentityToken
