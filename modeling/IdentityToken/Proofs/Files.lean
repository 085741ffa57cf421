import IdentityToken.Files
import IdentityToken.Proofs.Outcome
/-!
# Paths and what they lead to

A path is followed name by name, each name stands in a directory that lets itself be entered, and
links on the way are followed. So nothing exists under a path whose first name leads to nothing. A
text is read of a path exactly if it leads to a file that lets itself be read and whose octets are
UTF-8.
-/

namespace IdentityToken.FileSystem

open Text

variable {fs : FileSystem} {path name : String} {place other : Place} {last : Bool}
  {l : List String}

/-- The first name of a path that starts with another character than a slash starts with it. -/
theorem exists_names_eq_cons {c : Char} (hc : c ≠ '/') (l : List Char) :
    ∃ name rest, names (String.ofList (c :: l)) = String.ofList (c :: name) :: rest := by
  have hsplit : split '/' (String.ofList (c :: l)) = String.ofList (c :: (splitList '/' l).1)
      :: (splitList '/' l).2.map String.ofList := by
    simp [split, splitList, hc]
  exact ⟨_, _, by rw [names, hsplit, List.filter_cons_of_pos (by simp)]⟩

/-! ## Ways -/

theorem step_eq_ok_iff : fs.step place name = .ok other ↔
    ∃ access, fs.entry? place = some (.directory access) ∧ access.entering = .ok () ∧
      (if name = "." then .ok place
        else if name = ".." then .ok place.dropLast
        else if maxName < (utf8 name).length then .error .nameTooLong
        else .ok (place ++ [name]) : Except FileError Place) = .ok other := by
  unfold step
  cases hentry : fs.entry? place with
  | none => simp
  | some entry =>
    cases entry with
    | file content access => simp
    | link start l => simp
    | directory access =>
      cases hentering : access.entering with
      | error e => simp [hentering, bind, Except.bind]
      | ok _ => simp [hentering, bind, Except.bind]

theorem link?_eq_none (h : fs.entry? place = none) : fs.link? place = none := by
  simp only [link?, h]

theorem link?_of_directory {access : Access} (h : fs.entry? place = some (.directory access)) :
    fs.link? place = none := by
  simp only [link?, h]

theorem advance_cons_eq_ok_iff {rest left : List String} :
    fs.advance place (name :: rest) = .ok (other, left) ↔
      ∃ next, fs.step place name = .ok next ∧
        (if (fs.link? next).isSome then .ok (next, rest) else fs.advance next rest)
          = .ok (other, left) :=
  bind_eq_ok_iff

/-- From a place where nothing is no name leads on. -/
theorem advance_of_missing {rest left : List String} (hmissing : fs.entry? place = none)
    (h : fs.advance place rest = .ok (other, left)) : other = place ∧ left = [] := by
  cases rest with
  | nil =>
    cases h
    exact ⟨rfl, rfl⟩
  | cons name rest =>
    obtain ⟨next, hnext, -⟩ := advance_cons_eq_ok_iff.mp h
    obtain ⟨access, hdirectory, -⟩ := step_eq_ok_iff.mp hnext
    cases hmissing.symm.trans hdirectory

theorem walkWith_eq_ok_iff {onward : Place → List String → Except FileError Place} :
    fs.walkWith last onward place l = .ok other ↔
      ∃ reached rest, fs.advance place l = .ok (reached, rest) ∧
        (fs.link? reached = none ∧ reached = other ∨
          ∃ start ahead, fs.link? reached = some (start, ahead) ∧
            (rest = [] ∧ last = false ∧ reached = other ∨
              (rest = [] → last = true) ∧ onward start (ahead ++ rest) = .ok other)) := by
  rw [walkWith, bind_eq_ok_iff, Prod.exists]
  refine exists_congr fun reached => exists_congr fun rest => and_congr_right fun _ => ?_
  cases hlink : fs.link? reached with
  | none => simp [hlink]
  | some link =>
    obtain ⟨start, ahead⟩ := link
    have hmore : (rest = [] → last = true) ↔ ¬(rest = [] ∧ last = false) := by simp
    simp only [hlink, hmore, reduceCtorEq, false_and, false_or]
    split
    · next h => simp [h]
    · next h =>
      constructor
      · exact fun honward => ⟨start, ahead, rfl, .inr ⟨h, honward⟩⟩
      · rintro ⟨_, _, hlink, ⟨hnil, hlast, -⟩ | ⟨-, honward⟩⟩
        · exact absurd ⟨hnil, hlast⟩ h
        · cases hlink
          exact honward

/-- Names lead from a place to another over at most so many links: to something that is no link, to
a link at the end that is left as it is, or on from a link. -/
inductive Leads (fs : FileSystem) (last : Bool) : Nat → Place → List String → Place → Prop where
  | stop {links : Nat} {place reached : Place} {l rest : List String}
      (hadvance : fs.advance place l = .ok (reached, rest)) (hlink : fs.link? reached = none) :
      Leads fs last links place l reached
  | held {links : Nat} {place reached : Place} {l : List String} {link : Place × List String}
      (hlast : last = false) (hadvance : fs.advance place l = .ok (reached, []))
      (hlink : fs.link? reached = some link) : Leads fs last links place l reached
  | onward {links : Nat} {place reached start other : Place} {l rest ahead : List String}
      (hadvance : fs.advance place l = .ok (reached, rest))
      (hlink : fs.link? reached = some (start, ahead)) (hmore : rest = [] → last = true)
      (h : Leads fs last links start (ahead ++ rest) other) :
      Leads fs last (links + 1) place l other

theorem walk_eq_ok_iff {links : Nat} :
    fs.walk last links place l = .ok other ↔ fs.Leads last links place l other := by
  constructor
  · intro h
    induction links generalizing place l with
    | zero =>
      obtain ⟨reached, rest, hadvance, hend⟩ := walkWith_eq_ok_iff.mp h
      rcases hend with ⟨hlink, rfl⟩ | ⟨start, ahead, hlink, ⟨rfl, hlast, rfl⟩ | ⟨-, herror⟩⟩
      · exact .stop hadvance hlink
      · exact .held hlast hadvance hlink
      · cases herror
    | succ links ih =>
      obtain ⟨reached, rest, hadvance, hend⟩ := walkWith_eq_ok_iff.mp h
      rcases hend with ⟨hlink, rfl⟩ | ⟨start, ahead, hlink, ⟨rfl, hlast, rfl⟩ | ⟨hmore, hrest⟩⟩
      · exact .stop hadvance hlink
      · exact .held hlast hadvance hlink
      · exact .onward hadvance hlink hmore (ih hrest)
  · intro h
    induction h with
    | @stop links _ _ _ _ hadvance hlink =>
      cases links <;> exact walkWith_eq_ok_iff.mpr ⟨_, _, hadvance, .inl ⟨hlink, rfl⟩⟩
    | @held links _ _ _ _ hlast hadvance hlink =>
      cases links <;> exact walkWith_eq_ok_iff.mpr
        ⟨_, _, hadvance, .inr ⟨_, _, hlink, .inl ⟨rfl, hlast, rfl⟩⟩⟩
    | onward hadvance hlink hmore _ ih =>
      exact walkWith_eq_ok_iff.mpr ⟨_, _, hadvance, .inr ⟨_, _, hlink, .inr ⟨hmore, ih⟩⟩⟩

theorem Leads.unique {links : Nat} {other' : Place} (h : fs.Leads last links place l other)
    (h' : fs.Leads last links place l other') : other = other' :=
  Except.ok.inj ((walk_eq_ok_iff.mpr h).symm.trans (walk_eq_ok_iff.mpr h'))

theorem locate_eq_ok_iff : fs.locate path last = .ok place ↔
    '\x00' ∉ path.toList ∧ path ≠ "" ∧ (utf8 path).length < maxPath ∧
      fs.Leads last maxLinks (if path.toList.head? = some '/' then [] else fs.here) (names path)
        place := by
  rw [← walk_eq_ok_iff]
  unfold locate
  split
  · next h => exact ⟨nofun, fun ⟨hnul, _⟩ => absurd h hnul⟩
  · next hnul =>
    split
    · next h => exact ⟨nofun, fun ⟨_, hne, _⟩ => absurd h hne⟩
    · next hne =>
      split
      · next h => exact ⟨nofun, fun ⟨_, _, hlt, _⟩ => absurd h (Nat.not_le.mpr hlt)⟩
      · next hlt => exact ⟨fun h => ⟨hnul, hne, Nat.not_le.mp hlt, h⟩, fun h => h.2.2.2⟩

/-- A relative path leads nowhere if its first name does not. -/
theorem exists?_eq_false {rest : List String}
    (hrelative : path.toList.head? ≠ some '/') (hnames : names path = name :: rest)
    (hname : name ≠ "." ∧ name ≠ "..") (hmissing : fs.entry? (fs.here ++ [name]) = none) :
    fs.exists? path = false := by
  have hreached {reached : Place} {left : List String}
      (hadvance : fs.advance fs.here (name :: rest) = .ok (reached, left)) :
      reached = fs.here ++ [name] := by
    obtain ⟨first, hfirst, hrest⟩ := advance_cons_eq_ok_iff.mp hadvance
    obtain ⟨access, -, -, hplace⟩ := step_eq_ok_iff.mp hfirst
    simp only [hname.1, hname.2, if_false] at hplace
    split at hplace
    · cases hplace
    · obtain rfl := Except.ok.inj hplace
      rw [link?_eq_none hmissing] at hrest
      exact (advance_of_missing hmissing hrest).1
  have hnowhere {place : Place} (h : fs.locate path = .ok place) : fs.entry? place = none := by
    obtain ⟨-, -, -, hleads⟩ := locate_eq_ok_iff.mp h
    rw [if_neg hrelative, hnames] at hleads
    cases hleads with
    | stop hadvance => rw [hreached hadvance, hmissing]
    | held hlast => cases hlast
    | onward hadvance hlink =>
      rw [hreached hadvance, link?_eq_none hmissing] at hlink
      cases hlink
  cases h : fs.lookup path with
  | error e => simp [exists?, h, Except.isOk, Except.toBool]
  | ok entry =>
    obtain ⟨place, hplace, hentry⟩ := bind_eq_ok_iff.mp h
    rw [hnowhere hplace] at hentry
    cases hentry

/-! ## Texts of files -/

theorem exists?_eq_true_iff : fs.exists? path = true ↔ ∃ entry, fs.lookup path = .ok entry := by
  rw [exists?]
  cases fs.lookup path with
  | error e => simp [Except.isOk, Except.toBool]
  | ok entry => simp [Except.isOk, Except.toBool]

theorem exists?_eq_false_iff : fs.exists? path = false ↔ ∃ e, fs.lookup path = .error e := by
  rw [exists?]
  cases fs.lookup path with
  | error e => simp [Except.isOk, Except.toBool]
  | ok entry => simp [Except.isOk, Except.toBool]

theorem lookup_ne_link {start : Place} {l : List String} :
    fs.lookup path ≠ .ok (.link start l) := by
  intro h
  obtain ⟨place, -, hentry⟩ := bind_eq_ok_iff.mp h
  split at hentry
  · split at hentry <;> cases hentry
  · cases hentry
  · cases hentry

/-- A path leads to a file with a text, which lets itself be read. -/
def Offers (fs : FileSystem) (path text : String) : Prop :=
  ∃ access, fs.lookup path = .ok (.file (utf8 text) access) ∧ access.reading = .ok ()

theorem Offers.exists?_eq_true {text : String} (h : fs.Offers path text) :
    fs.exists? path = true := by
  obtain ⟨access, hlookup, -⟩ := h
  exact exists?_eq_true_iff.mpr ⟨_, hlookup⟩

/-- Why what a path leads to cannot be read as a text. -/
inductive Unreadable : Entry → FileError → Prop where
  | file {content : Bytes} {access : Access} {cause : FileError}
      (h : access.reading = .error cause) : Unreadable (.file content access) cause
  | octets {content : Bytes} {access : Access} (h : access.reading = .ok ())
      (hcontent : ∀ text, content ≠ utf8 text) : Unreadable (.file content access) .notUtf8
  | directory {access : Access} {cause : FileError} (h : access.reading = .error cause) :
      Unreadable (.directory access) cause
  | noFile {access : Access} (h : access.reading = .ok ()) :
      Unreadable (.directory access) .isDirectory

/-- What exists offers a text, or it cannot be read. -/
theorem offers_or_unreadable {entry : Entry} (h : fs.lookup path = .ok entry) :
    (∃ text, fs.Offers path text) ∨ ∃ cause, Unreadable entry cause := by
  cases entry with
  | link start l => exact absurd h lookup_ne_link
  | directory access =>
    cases hreading : access.reading with
    | error cause => exact .inr ⟨cause, .directory hreading⟩
    | ok _ => exact .inr ⟨_, .noFile hreading⟩
  | file content access =>
    cases hreading : access.reading with
    | error cause => exact .inr ⟨cause, .file hreading⟩
    | ok _ =>
      by_cases htext : ∃ text, content = utf8 text
      · obtain ⟨text, rfl⟩ := htext
        exact .inl ⟨text, access, h, hreading⟩
      · exact .inr ⟨_, .octets hreading fun text hcontent => htext ⟨text, hcontent⟩⟩

theorem readText_eq_ok_iff {text : String} : fs.readText path = .ok text ↔ fs.Offers path text := by
  simp only [readText, readBytes, bind_eq_ok_iff]
  constructor
  · rintro ⟨content, ⟨entry, hentry, hcontent⟩, htext⟩
    split at hcontent
    · next access =>
      obtain ⟨_, hreading, rfl⟩ := map_eq_ok_iff.mp hcontent
      split at htext
      · next hs =>
        obtain rfl := Except.ok.inj htext
        exact ⟨access, by rw [hentry, ofUtf8?_eq_some_iff.mp hs], hreading⟩
      · cases htext
    · obtain ⟨_, -, hdirectory⟩ := bind_eq_ok_iff.mp hcontent
      cases hdirectory
    · cases hcontent
  · rintro ⟨access, hentry, hreading⟩
    exact ⟨utf8 text, ⟨_, hentry, map_eq_ok_iff.mpr ⟨(), hreading, rfl⟩⟩, by rw [ofUtf8?_utf8]⟩

theorem readText_of_unreadable {entry : Entry} {cause : FileError}
    (h : fs.lookup path = .ok entry) (hcause : Unreadable entry cause) :
    fs.readText path = .error cause := by
  have hbytes : fs.readBytes path = _ := bind_ok h _
  cases hcause with
  | file hreading =>
    rw [readText, bind_error (hbytes.trans (map_eq_error_iff.mpr hreading))]
  | @octets content access hreading hcontent =>
    have hnone : ofUtf8? content = none := by
      cases htext : ofUtf8? content with
      | none => rfl
      | some text => exact absurd (ofUtf8?_eq_some_iff.mp htext) (hcontent text)
    rw [readText, bind_ok (hbytes.trans (map_eq_ok_iff.mpr ⟨(), hreading, rfl⟩)), hnone]
  | directory hreading => rw [readText, bind_error (hbytes.trans (bind_error hreading _))]
  | noFile hreading => rw [readText, bind_error (hbytes.trans (bind_ok hreading _))]

end IdentityToken.FileSystem
