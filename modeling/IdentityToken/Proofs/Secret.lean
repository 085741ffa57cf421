import IdentityToken.Proofs.Files
import IdentityToken.Proofs.Text.Octets
import IdentityToken.Secret
import Mathlib.Data.List.Basic
/-!
# New secrets

A new secret is a text of drawn letters and digits. Different draws give different secrets, each
letter is one octet, and since none is white space a new secret is loaded from a file as it is.
-/

namespace IdentityToken.Secret

open Text FileSystem

variable {files : FileSystem} {path : String} {draws draws' : List (Fin 62)} {c : Char}

theorem ofDraws_injective (h : ofDraws draws = ofDraws draws') : draws = draws' := by
  have hletters : ∀ i j : Fin 62, letters[i] = letters[j] → i = j := by decide +kernel
  have hmap := String.ofList_injective (congrArg text h)
  exact List.map_injective_iff.mpr hletters hmap

theorem mem_ofDraws (h : c ∈ (ofDraws draws).text.toList) : ∃ i, letters.get i = c := by
  rw [ofDraws, String.toList_ofList] at h
  obtain ⟨i, -, hi⟩ := List.mem_map.mp h
  exact ⟨i, hi⟩

theorem isAlphanum_of_mem_ofDraws (h : c ∈ (ofDraws draws).text.toList) : c.isAlphanum = true := by
  have hletters : ∀ i, (letters.get i).isAlphanum = true := by decide
  obtain ⟨i, rfl⟩ := mem_ofDraws h
  exact hletters i

theorem isSpace_of_mem_ofDraws (h : c ∈ (ofDraws draws).text.toList) : isSpace c = false := by
  have hletters : ∀ i, isSpace (letters.get i) = false := by decide
  obtain ⟨i, rfl⟩ := mem_ofDraws h
  exact hletters i

theorem length_toList_ofDraws (draws : List (Fin 62)) :
    (ofDraws draws).text.toList.length = draws.length := by
  simp [ofDraws]

theorem length_bytes_ofDraws (draws : List (Fin 62)) :
    (ofDraws draws).bytes.length = draws.length := by
  have hletters : ∀ i : Fin 62, (letters[i]).toNat < 0x80 := by decide
  simp only [bytes, ofDraws, utf8_ofList]
  induction draws with
  | nil => rfl
  | cons i draws ih =>
    rw [List.map_cons, utf8List_cons, utf8EncodeChar_of_lt (hletters i), List.length_append, ih]
    simp [Nat.add_comm]

theorem isBlank_ofDraws (h : draws ≠ []) : (ofDraws draws).isBlank = false := by
  obtain ⟨i, rest, rfl⟩ := List.exists_cons_of_ne_nil h
  rw [isBlank, decide_eq_false_iff_not]
  intro hblank
  have hfirst : letters.get i ∈ (ofDraws (i :: rest)).text.toList := by
    rw [ofDraws, String.toList_ofList]
    exact List.mem_cons_self
  exact Bool.false_ne_true ((isSpace_of_mem_ofDraws hfirst).symm.trans (hblank _ hfirst))

theorem trimmed_ofDraws (draws : List (Fin 62)) : trimmed (ofDraws draws).text = ofDraws draws := by
  have htrim : trim ("" ++ (ofDraws draws).text ++ "") = (ofDraws draws).text :=
    trim_append (by decide) (fun _ => isSpace_of_mem_ofDraws) (by decide)
  rw [String.empty_append, String.append_empty] at htrim
  rw [trimmed, htrim]

theorem load_of_offers {text : String} (h : files.Offers path text) :
    load files path = .ok (trimmed text) := by
  rw [load, readText_eq_ok_iff.mpr h]

/-- A new secret in a file is loaded as it is. -/
theorem load_ofDraws (h : files.Offers path (ofDraws draws).text) :
    load files path = .ok (ofDraws draws) := by
  rw [load_of_offers h, trimmed_ofDraws]

end IdentityToken.Secret
