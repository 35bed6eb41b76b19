import Mathlib.Data.List.TakeDrop
import Mathlib.Data.List.TakeWhile
import Mathlib.Tactic.SplitIfs
import PlotLexer.Token

/-!
Reading quoted text back. The escapes can be told from one another and from all that stands for
itself, whatever follows them, so decoding undoes encoding. No kind has a space in its name, so the
text of a token tells its kind and its literal.
-/
namespace PlotLexer

namespace Text.Quoted
variable {m : Mark} {c letter : Char}

/-- No short escape looks like the beginning of a code point escape. -/
theorem ofShortEscape?_of_shortEscape? (h : shortEscape? m c = some letter) :
    ofShortEscape? m letter = some c ∧ letter ≠ 'u' := by
  unfold shortEscape? at h
  split_ifs at h <;> cases h <;> subst_vars <;> cases m <;> decide

/-- What has no short escape neither begins an escape nor ends the text. -/
theorem ne_of_shortEscape?_eq_none (h : shortEscape? m c = none) : c ≠ '\\' ∧ c ≠ m.char := by
  constructor
  · rintro rfl
    cases m <;> cases h
  · rintro rfl
    cases m <;> cases h

theorem hexValue?_digitChar {d : Nat} (h : d < 16) :
    hexValue? d.digitChar = some d ∧ d.digitChar ≠ '\x7d' := by
  revert d
  decide

theorem ofCode?_toNat (c : Char) : ofCode? c.toNat = some c :=
  dif_pos c.valid

theorem decodeBody_digitChar {d : Nat} (h : d < 16) (code : Nat) (rest : List Char) :
    decodeBody m (some code) (d.digitChar :: rest) = decodeBody m (some (16 * code + d)) rest := by
  obtain ⟨value, inner⟩ := hexValue?_digitChar h
  rw [decodeBody, value]
  · rfl
  · exact inner

/-- The digits of a number are read from the first to the last. -/
theorem decodeBody_toDigits (n : Nat) (rest : List Char) :
    decodeBody m (some 0) (Nat.toDigits 16 n ++ rest) = decodeBody m (some n) rest := by
  induction n using Nat.strong_induction_on generalizing rest with
  | h n ih =>
      rw [Nat.toDigits_eq_if (by decide)]
      split
      · next small =>
          rw [List.singleton_append, decodeBody_digitChar small, Nat.mul_zero, Nat.zero_add]
      · next large =>
          have last : n % 16 < 16 := Nat.mod_lt n (by decide)
          rw [List.append_assoc, List.singleton_append, ih (n / 16) (by omega),
            decodeBody_digitChar last, Nat.div_add_mod]

theorem decodeBody_codeEscape (c : Char) (rest : List Char) :
    decodeBody m none (codeEscape c ++ rest) = (decodeBody m none rest).map (c :: ·) := by
  have digits : decodeBody m none (codeEscape c ++ rest) =
      decodeBody m (some 0) (Nat.toDigits 16 c.toNat ++ '\x7d' :: rest) := by
    rw [codeEscape, List.append_assoc, List.append_assoc]
    exact decodeBody.eq_4 m _
  rw [digits, decodeBody_toDigits, decodeBody, ofCode?_toNat]
  cases decodeBody m none rest <;> rfl

theorem decodeBody_shortEscape (h : shortEscape? m c = some letter) (rest : List Char) :
    decodeBody m none ('\\' :: letter :: rest) = (decodeBody m none rest).map (c :: ·) := by
  obtain ⟨meant, other⟩ := ofShortEscape?_of_shortEscape? h
  rw [decodeBody, meant]
  · cases decodeBody m none rest <;> rfl
  · intro _ code _
    exact other code

theorem decodeBody_plain (h : shortEscape? m c = none) (rest : List Char) :
    decodeBody m none (c :: rest) = (decodeBody m none rest).map (c :: ·) := by
  obtain ⟨no_escape, no_mark⟩ := ne_of_shortEscape?_eq_none h
  rw [decodeBody]
  · exact if_neg no_mark
  · intro _ escape _
    exact no_escape escape
  · intro _ _ escape _
    exact no_escape escape

/-- One character is read back from however it was written, and reading goes on behind it. -/
theorem decodeBody_escape (m : Mark) (c : Char) (rest : List Char) :
    decodeBody m none (escape m c ++ rest) = (decodeBody m none rest).map (c :: ·) := by
  unfold escape
  split
  · next short => exact decodeBody_shortEscape short rest
  · next plain =>
      split
      · exact decodeBody_codeEscape c rest
      · exact decodeBody_plain plain rest

theorem decodeBody_flatMap_escape (m : Mark) (cs : List Char) :
    decodeBody m none (cs.flatMap (escape m) ++ [m.char]) = some cs := by
  induction cs with
  | nil => cases m <;> rfl
  | cons c cs ih =>
      rw [List.flatMap_cons, List.append_assoc, decodeBody_escape, ih, Option.map_some]

theorem decode_encode (m : Mark) (cs : List Char) : decode m (encode m cs) = some cs := by
  rw [encode, decode, if_pos rfl]
  exact decodeBody_flatMap_escape m cs

end Text.Quoted

namespace Token

theorem Kind.ofName_name (kind : Kind) : Kind.ofName kind.name = .ok kind := by
  cases kind with
  | symbol s => cases s <;> decide
  | _ => decide

theorem Kind.ne_space_of_mem_name (kind : Kind) : ∀ c ∈ kind.name.toList, c != ' ' := by
  apply List.all_eq_true.mp
  cases kind with
  | symbol s => cases s <;> decide
  | _ => decide

theorem span_text (t : Token) : t.text.toList.span (· != ' ') =
    (t.kind.name.toList, ' ' :: Text.Quoted.encode .double t.literal.toList) := by
  have shape : t.text.toList =
      t.kind.name.toList ++ ' ' :: Text.Quoted.encode .double t.literal.toList := by
    simp [text]
  have spaceless := t.kind.ne_space_of_mem_name
  rw [shape, List.span_eq_takeWhile_dropWhile, List.takeWhile_append_of_pos spaceless,
    List.dropWhile_append_of_pos spaceless]
  simp

theorem ofText?_text (t : Token) : ofText? t.text = some t := by
  simp only [ofText?, span_text, List.tail_cons, Text.Quoted.decode_encode, String.ofList_toList,
    Kind.ofName_name]

/-- The text of a token says no less than the token: whatever the kinds and the literals, equal
texts are of equal tokens, and reading a text gives the token back that it was written for. -/
theorem text_lossless (kind kind' : Kind) (literal literal' : String) :
    (text ⟨kind, literal⟩ = text ⟨kind', literal'⟩ ↔ kind = kind' ∧ literal = literal') ∧
    ofText? (text ⟨kind, literal⟩) = some ⟨kind, literal⟩ := by
  refine ⟨?_, ofText?_text _⟩
  constructor
  · intro same
    have read := (ofText?_text ⟨kind, literal⟩).symm.trans (congrArg ofText? same)
    rw [ofText?_text] at read
    cases read
    exact ⟨rfl, rfl⟩
  · rintro ⟨rfl, rfl⟩
    rfl

example : ofText? (text ⟨.illegal, "\\u\"\n\u0301é"⟩) = some ⟨.illegal, "\\u\"\n\u0301é"⟩ := by
  decide +kernel

end Token
end PlotLexer
