import IdentityToken.Proofs.Token.Grammar
/-!
# The forms of tokens

Every text is a signed, an unsecured or an encrypted token, or it is refused, and its segments and
its header decide which. A token that was read says everything about the text: it gives the text
back, its header is what the first segment says, and what it signs is the text before the last dot.
-/

namespace IdentityToken.Token

open Text

/-- The segments of a text have no dot in them, and the text is them with dots between. -/
def Segmented (text : String) (segments : List String) : Prop :=
  Separated '.' segments ∧ text = join '.' segments

theorem segmented_iff {text first : String} {rest : List String} :
    Segmented text (first :: rest) ↔ split '.' text = first :: rest :=
  split_eq_cons_iff.symm

/-- A text of three segments, the first of which is a header. -/
def Threefold (text : String) (d : Header) : Prop :=
  ∃ header payload signature, Segmented text [header, payload, signature] ∧
    Header.decode header = .ok d

/-- A text of five segments, the first of which is a header and the second of which is empty. -/
def Fivefold (text : String) (d : Header) : Prop :=
  ∃ header iv ciphertext tag, Segmented text [header, "", iv, ciphertext, tag] ∧
    Header.decode header = .ok d

/-! ## Which form a text has -/

theorem exists_signed_iff (text : String) :
    (∃ t, parse text = .ok (.signed t)) ↔ ∃ d, Threefold text d ∧ d.alg = Header.hs256 := by
  constructor
  · rintro ⟨t, h⟩
    obtain ⟨hsplit, hd, halg⟩ := parse_eq_signed_iff.mp h
    exact ⟨t.header, ⟨_, _, _, segmented_iff.mpr hsplit, hd⟩, halg⟩
  · rintro ⟨d, ⟨header, payload, signature, hsegments, hd⟩, halg⟩
    have hsplit := segmented_iff.mp hsegments
    exact ⟨⟨d, header, payload, signature⟩, parse_eq_signed_iff.mpr ⟨hsplit, hd, halg⟩⟩

theorem exists_unsecured_iff (text : String) :
    (∃ t, parse text = .ok (.unsecured t)) ↔ ∃ d, Threefold text d ∧ d.alg = Header.unsecured := by
  constructor
  · rintro ⟨t, h⟩
    obtain ⟨header, signature, hsplit, hd, halg⟩ := parse_eq_unsecured_iff.mp h
    exact ⟨t.header, ⟨header, _, signature, segmented_iff.mpr hsplit, hd⟩, halg⟩
  · rintro ⟨d, ⟨header, payload, signature, hsegments, hd⟩, halg⟩
    have hsplit := segmented_iff.mp hsegments
    exact ⟨⟨d, payload⟩, parse_eq_unsecured_iff.mpr ⟨header, signature, hsplit, hd, halg⟩⟩

theorem exists_encrypted_iff (text : String) :
    (∃ t, parse text = .ok (.encrypted t)) ↔
      ∃ d, Fivefold text d ∧ d.alg = Header.direct ∧ d.enc = some Header.a256gcm := by
  constructor
  · rintro ⟨t, h⟩
    obtain ⟨hsplit, hd, halg, henc⟩ := parse_eq_encrypted_iff.mp h
    exact ⟨t.header, ⟨_, _, _, _, segmented_iff.mpr hsplit, hd⟩, halg, henc⟩
  · rintro ⟨d, ⟨header, iv, ciphertext, tag, hsegments, hd⟩, halg, henc⟩
    have hsplit := segmented_iff.mp hsegments
    exact ⟨⟨d, header, iv, ciphertext, tag⟩,
      parse_eq_encrypted_iff.mpr ⟨hsplit, hd, halg, henc⟩⟩

theorem exists_error_iff (text : String) :
    (∃ e, parse text = .error e) ↔ (¬∃ t, parse text = .ok (.signed t)) ∧
      (¬∃ t, parse text = .ok (.unsecured t)) ∧ ¬∃ t, parse text = .ok (.encrypted t) := by
  cases parse text with
  | error e => simp
  | ok token => cases token <;> simp

/-! ## What a token keeps of its text -/

variable {text : String}

theorem decode_header_of_parse {token : Token} (h : parse text = .ok token) :
    ∃ first rest, Segmented text (first :: rest) ∧ Header.decode first = .ok token.header := by
  cases token with
  | signed t =>
    obtain ⟨hsplit, hd, -⟩ := parse_eq_signed_iff.mp h
    exact ⟨_, _, segmented_iff.mpr hsplit, hd⟩
  | encrypted t =>
    obtain ⟨hsplit, hd, -⟩ := parse_eq_encrypted_iff.mp h
    exact ⟨_, _, segmented_iff.mpr hsplit, hd⟩
  | unsecured t =>
    obtain ⟨header, _, hsplit, hd, -⟩ := parse_eq_unsecured_iff.mp h
    exact ⟨_, _, segmented_iff.mpr hsplit, hd⟩

theorem serialize_of_parse_signed {t : SignedToken} (h : parse text = .ok (.signed t)) :
    t.serialize = text :=
  (segmented_iff.mpr (parse_eq_signed_iff.mp h).1).2.symm

theorem serialize_of_parse_encrypted {t : EncryptedToken} (h : parse text = .ok (.encrypted t)) :
    t.serialize = text :=
  (segmented_iff.mpr (parse_eq_encrypted_iff.mp h).1).2.symm

/-- The dot before the signature is the last one, and what stands before it is signed. -/
theorem signingInput_of_parse {t : SignedToken} (h : parse text = .ok (.signed t)) :
    '.' ∉ t.signatureSegment.toList ∧ text = t.signingInput ++ "." ++ t.signatureSegment := by
  have hseparated := (segmented_iff.mpr (parse_eq_signed_iff.mp h).1).1
  refine ⟨hseparated _ (by simp), ?_⟩
  rw [← serialize_of_parse_signed h]
  exact join_append_last '.' t.headerSegment t.signatureSegment [t.payloadSegment]

/-- A text is of exactly one form or it is refused, and nothing of it is lost in reading. -/
theorem parse_classifies (text : String) :
    ((∃ t, parse text = .ok (.signed t)) ↔ ∃ d, Threefold text d ∧ d.alg = "HS256") ∧
    ((∃ t, parse text = .ok (.unsecured t)) ↔ ∃ d, Threefold text d ∧ d.alg = "none") ∧
    ((∃ t, parse text = .ok (.encrypted t)) ↔
      ∃ d, Fivefold text d ∧ d.alg = "dir" ∧ d.enc = some "A256GCM") ∧
    ((∃ e, parse text = .error e) ↔
      (¬∃ d, Threefold text d ∧ d.alg = "HS256") ∧ (¬∃ d, Threefold text d ∧ d.alg = "none") ∧
        ¬∃ d, Fivefold text d ∧ d.alg = "dir" ∧ d.enc = some "A256GCM") ∧
    (∀ token, parse text = .ok token →
      ∃ first rest, Segmented text (first :: rest) ∧ Header.decode first = .ok token.header) ∧
    (∀ t, parse text = .ok (.signed t) → t.serialize = text ∧
      ∃ last, '.' ∉ last.toList ∧ text = t.signingInput ++ "." ++ last) ∧
    ∀ t, parse text = .ok (.encrypted t) → t.serialize = text := by
  have hsigned := exists_signed_iff text
  have hunsecured := exists_unsecured_iff text
  have hencrypted := exists_encrypted_iff text
  have herror := exists_error_iff text
  rw [hsigned, hunsecured, hencrypted] at herror
  refine ⟨hsigned, hunsecured, hencrypted, herror, fun _ => decode_header_of_parse, ?_,
    fun _ => serialize_of_parse_encrypted⟩
  intro t h
  obtain ⟨hdot, htext⟩ := signingInput_of_parse h
  exact ⟨serialize_of_parse_signed h, _, hdot, htext⟩

end IdentityToken.Token
