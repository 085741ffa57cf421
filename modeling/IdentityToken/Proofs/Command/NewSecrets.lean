import IdentityToken.Command.Run
import IdentityToken.Proofs.Command.Minting
import IdentityToken.Proofs.Files.Changes
import IdentityToken.Proofs.Secret
/-!
# New secrets in a directory

Two secrets are written into a directory one after the other. When the first file cannot be opened
no file changes. When the second cannot be opened the first secret has taken the place of what stood
in its file, and a write that breaks off leaves a part of a secret. So making secrets is not all or
nothing.
-/

namespace IdentityToken

open Text FileSystem

namespace Command

variable {files made first after : FileSystem} {directory : String} {signing encryption : Secret}
  {written : Except FileError Unit}

theorem ownName_signingFile : OwnName signingFile := by
  constructor <;> decide

theorem ownName_encryptionFile : OwnName encryptionFile := by
  constructor <;> decide

/-- What becomes of two secrets that are to be written into a directory, in which there are two
paths to write to. Each case says what these lead to afterwards, and that all other places hold what
they held but for directories that were missing. -/
inductive Stored (files : FileSystem) (directory : String) (signing encryption : Secret) :
    FileSystem → Except FileError Unit → Prop where
  | both {after : FileSystem} {p q : Place}
      (hp : after.locate (child directory signingFile) = .ok p)
      (hq : after.locate (child directory encryptionFile) = .ok q)
      (hkeeps : files.Keeps
        (fun place => Made files directory after place ∨ place = p ∨ place = q) after)
      (hsigning : p ≠ q → after.Contains (child directory signingFile) signing.bytes)
      (hencryption : after.Contains (child directory encryptionFile) encryption.bytes) :
      Stored files directory signing encryption after (.ok ())
  | neither {after : FileSystem} {e : FileError}
      (hkeeps : files.Keeps (Made files directory after) after) :
      Stored files directory signing encryption after (.error e)
  | signingPart {after : FileSystem} {p : Place} {n : Nat} {e : FileError}
      (hp : after.locate (child directory signingFile) = .ok p)
      (hkeeps : files.Keeps (fun place => Made files directory after place ∨ place = p) after)
      (hn : n < signing.bytes.length)
      (hsigning : after.Contains (child directory signingFile) (signing.bytes.take n)) :
      Stored files directory signing encryption after (.error e)
  | signingOnly {after : FileSystem} {p : Place} {e : FileError}
      (hp : after.locate (child directory signingFile) = .ok p)
      (hkeeps : files.Keeps (fun place => Made files directory after place ∨ place = p) after)
      (hsigning : after.Contains (child directory signingFile) signing.bytes)
      (hclosed : after.openFile (child directory encryptionFile) = .error e) :
      Stored files directory signing encryption after (.error e)
  | encryptionPart {after : FileSystem} {p q : Place} {n : Nat} {e : FileError}
      (hp : after.locate (child directory signingFile) = .ok p)
      (hq : after.locate (child directory encryptionFile) = .ok q)
      (hkeeps : files.Keeps
        (fun place => Made files directory after place ∨ place = p ∨ place = q) after)
      (hsigning : p ≠ q → after.Contains (child directory signingFile) signing.bytes)
      (hn : n < encryption.bytes.length)
      (hencryption :
        after.Contains (child directory encryptionFile) (encryption.bytes.take n)) :
      Stored files directory signing encryption after (.error e)

/-- The second secret is written when the directory is there and the first secret in its file. -/
private theorem stored_of_first {p : Place} (hmade : files.Keeps (Made files directory made) made)
    (hp : first.locate (child directory signingFile) = .ok p)
    (hfirst : made.Keeps (fun place => place = p) first)
    (hsigning : first.Contains (child directory signingFile) signing.bytes)
    (hwrite : writeText first (child directory encryptionFile) encryption.text = (after, written)) :
    Stored files directory signing encryption after written := by
  cases written_of_write hwrite with
  | closed hclosed => exact .signingOnly hp (hmade.after_made hfirst) hsigning hclosed
  | whole hq hsecond hencryption =>
    exact .both (hsecond.locate hp) hq (hmade.after_made (hfirst.trans hsecond))
      (fun hne => hsigning.of_keeps hsecond hp hne) ⟨_, hencryption⟩
  | part hq hsecond hroom hn hencryption =>
    exact .encryptionPart (hsecond.locate hp) hq (hmade.after_made (hfirst.trans hsecond))
      (fun hne => hsigning.of_keeps hsecond hp hne) hn ⟨_, hencryption⟩

theorem stored_of_writeSecrets
    (h : writeSecrets files directory signing encryption = (after, written)) :
    Stored files directory signing encryption after written := by
  have hmade := keeps_createDirectories files directory
  obtain ⟨made, created, hcreate⟩ :
      ∃ made created, files.createDirectories directory = (made, created) := ⟨_, _, rfl⟩
  rw [hcreate] at hmade
  rw [writeSecrets, hcreate] at h
  rcases created with e | ⟨⟩
  · cases h
    exact .neither hmade
  obtain ⟨first, signed, hwrite⟩ :
      ∃ first signed, writeText made (child directory signingFile) signing.text = (first, signed) :=
    ⟨_, _, rfl⟩
  simp only [hwrite] at h
  cases written_of_write hwrite with
  | closed hclosed =>
    cases h
    exact .neither hmade
  | whole hp hfirst hsigning => exact stored_of_first hmade hp hfirst ⟨_, hsigning⟩ h
  | part hp hfirst hroom hn hsigning =>
    cases h
    exact .signingPart hp (hmade.after_made hfirst) hn ⟨_, hsigning⟩

/-- Making secrets for a directory gives one secret of 64 and one of 32 letters and digits, which
are stored there in one of the ways of `Stored`, and succeeds exactly if it is the first of them. A
file that holds such a secret and lets itself be read is loaded as the secret. The two paths lead to
one file only through a link. -/
theorem runSecrets_into_directory (files : FileSystem) (fresh : Fresh) (directory : String) :
    ∃ signing encryption : Secret, signing = .ofDraws fresh.signing.toList ∧
      encryption = .ofDraws fresh.encryption.toList ∧
      (signing.text.toList.length = 64 ∧ ∀ c ∈ signing.text.toList, c.isAlphanum = true) ∧
      (encryption.text.toList.length = 32 ∧ ∀ c ∈ encryption.text.toList, c.isAlphanum = true) ∧
      ∀ o, runSecrets files fresh (some directory) = o →
        (∃ written, Stored files directory signing encryption o.files written ∧
          o.result = (written.mapError .file).map fun _ => savedSecrets directory) ∧
        (∀ secret, secret = signing ∨ secret = encryption → ∀ path access,
          o.files.lookup path = .ok (.file secret.bytes access) → access.reading = .ok () →
          Secret.load o.files path = .ok secret) ∧
        ∀ p, o.files.locate (child directory "signing.key") = .ok p →
          o.files.locate (child directory "encryption.key") = .ok p →
          o.files.EndsInLink (child directory "signing.key") ∨
            o.files.EndsInLink (child directory "encryption.key") := by
  refine ⟨_, _, rfl, rfl, ⟨?_, fun c => Secret.isAlphanum_of_mem_ofDraws⟩,
    ⟨?_, fun c => Secret.isAlphanum_of_mem_ofDraws⟩, ?_⟩
  · rw [Secret.length_toList_ofDraws, Vector.length_toList]
    rfl
  · rw [Secret.length_toList_ofDraws, Vector.length_toList]
    rfl
  · rintro o rfl
    refine ⟨⟨_, stored_of_writeSecrets rfl, rfl⟩, ?_, fun p => ?_⟩
    · rintro secret (rfl | rfl) path access hlookup hreading
      · exact Secret.load_ofDraws ⟨access, hlookup, hreading⟩
      · exact Secret.load_ofDraws ⟨access, hlookup, hreading⟩
    · exact endsInLink_of_locate_child ownName_signingFile ownName_encryptionFile (by decide)

/-- Directories with an old signing secret. The place of the other secret is taken by a directory,
by a file that must not be written, or by a link to the first; or there is little room. -/
private def shelf : FileSystem where
  entries := [(["d"], .directory), (["d", "signing.key"], .file (utf8 "old signing secret")),
    (["d", "encryption.key"], .directory),
    (["e"], .directory), (["e", "signing.key"], .file (utf8 "old signing secret")),
    (["e", "encryption.key"], .file [] { writing := .error .permissionDenied }),
    (["f"], .directory), (["f", "signing.key"], .file (utf8 "old signing secret")),
    (["f", "encryption.key"], .link ["f"] [".", "signing.key"]),
    (["g"], .directory),
    (["g", "signing.key"], .file (utf8 "old signing secret") { room := some (10, .noSpace) })]
  here := []

/-- New secrets can be saved beside others, and nowhere under a file. -/
theorem runSecrets_into_directory_shelf :
    (∃ p q, p ≠ q ∧ shelf.Keeps
      (fun place => Made shelf "d/new" (runSecrets shelf moment (some "d/new")).files place ∨
        place = p ∨ place = q) (runSecrets shelf moment (some "d/new")).files ∧
      Secret.load (runSecrets shelf moment (some "d/new")).files "d/new/signing.key"
        = .ok (.ofDraws moment.signing.toList) ∧
      Secret.load (runSecrets shelf moment (some "d/new")).files "d/new/encryption.key"
        = .ok (.ofDraws moment.encryption.toList)) ∧
    shelf.Keeps
      (Made shelf "d/signing.key/new" (runSecrets shelf moment (some "d/signing.key/new")).files)
      (runSecrets shelf moment (some "d/signing.key/new")).files := by
  refine ⟨?_, ?_⟩
  · obtain ⟨_, _, rfl, rfl, -, -, hsaved⟩ := runSecrets_into_directory shelf moment "d/new"
    have hresult : (runSecrets shelf moment (some "d/new")).result
        = .ok (savedSecrets "d/new") := by decide +kernel
    have hp : (runSecrets shelf moment (some "d/new")).files.locate "d/new/signing.key"
        = .ok ["d", "new", "signing.key"] := by decide +kernel
    have hq : (runSecrets shelf moment (some "d/new")).files.locate "d/new/encryption.key"
        = .ok ["d", "new", "encryption.key"] := by decide +kernel
    have hsigning : (runSecrets shelf moment (some "d/new")).files.readText "d/new/signing.key"
        = .ok (Secret.ofDraws moment.signing.toList).text := by decide +kernel
    have hencryption :
        (runSecrets shelf moment (some "d/new")).files.readText "d/new/encryption.key"
          = .ok (Secret.ofDraws moment.encryption.toList).text := by decide +kernel
    generalize ho : runSecrets shelf moment (some "d/new") = o
      at hresult hp hq hsigning hencryption ⊢
    obtain ⟨⟨written, hstored, hwritten⟩, hload, -⟩ := hsaved o ho
    obtain ⟨access, hlookup, hreading⟩ := readText_eq_ok_iff.mp hsigning
    obtain ⟨access', hlookup', hreading'⟩ := readText_eq_ok_iff.mp hencryption
    refine ⟨["d", "new", "signing.key"], ["d", "new", "encryption.key"], by decide, ?_,
      hload _ (.inl rfl) _ access hlookup hreading,
      hload _ (.inr rfl) _ access' hlookup' hreading'⟩
    obtain ⟨after, events, result⟩ := o
    cases hstored with
    | both hp' hq' hkeeps _ _ =>
      cases hp.symm.trans hp'
      cases hq.symm.trans hq'
      exact hkeeps
    | neither | signingPart | signingOnly | encryptionPart =>
      cases hresult.symm.trans hwritten
  · obtain ⟨_, _, -, -, -, -, hsaved⟩ := runSecrets_into_directory shelf moment "d/signing.key/new"
    have hnowhere : (runSecrets shelf moment (some "d/signing.key/new")).files.locate
        (child "d/signing.key/new" signingFile) = .error .notDirectory := by decide +kernel
    generalize ho : runSecrets shelf moment (some "d/signing.key/new") = o at hnowhere ⊢
    obtain ⟨⟨written, hstored, -⟩, -⟩ := hsaved o ho
    obtain ⟨after, events, result⟩ := o
    cases hstored with
    | neither hkeeps => exact hkeeps
    | both hp | signingPart hp | signingOnly hp | encryptionPart hp =>
      cases hnowhere.symm.trans hp

/-- Making secrets can fail and lose the signing secret that was there, whole or but for a part of
the new one. It can also succeed without saving the signing secret. -/
theorem runSecrets_loses_signing_secret :
    Secret.load shelf "d/signing.key" = .ok ⟨"old signing secret"⟩ ∧
    (runSecrets shelf moment (some "d")).result = .error (.file .isDirectory) ∧
    Secret.load (runSecrets shelf moment (some "d")).files "d/signing.key"
      = .ok (.ofDraws moment.signing.toList) ∧
    Secret.ofDraws moment.signing.toList ≠ ⟨"old signing secret"⟩ ∧
    (runSecrets shelf moment (some "e")).result = .error (.file .permissionDenied) ∧
    Secret.load (runSecrets shelf moment (some "e")).files "e/signing.key"
      = .ok (.ofDraws moment.signing.toList) ∧
    (runSecrets shelf moment (some "f")).result = .ok (savedSecrets "f") ∧
    Secret.load (runSecrets shelf moment (some "f")).files "f/signing.key"
      = .ok (.ofDraws moment.encryption.toList) ∧
    (runSecrets shelf moment (some "g")).result = .error (.file .noSpace) ∧
    (runSecrets shelf moment (some "g")).files.readText "g/signing.key" = .ok "9999999999" := by
  decide +kernel

end Command

end IdentityToken
