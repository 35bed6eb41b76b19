import PlotLexer.Proofs.Scanning

/-!
The tokens of a plot, said in two ways without a lexer: by longest match on its characters, and
as the one list of well-formed tokens that can be laid out to give the plot.
-/
namespace PlotLexer

namespace Grammar
variable {gap lead behind : List Char} {t : Token}

theorem tokens_blank (h : ∀ c ∈ gap, isBlank c) : tokens gap = [.endOfInput] := by
  rw [tokens]
  split
  · rfl
  · next left =>
      rw [List.dropWhile_eq_nil_iff.mpr h] at left
      cases left

theorem tokens_token (h : ∀ c ∈ lead, isBlank c) (ht : WellFormed t)
    (apart : Apart t.literal.toList behind) :
    tokens (lead ++ (t.literal.toList ++ behind)) = t :: tokens behind := by
  obtain ⟨c, cs, split⟩ := List.exists_cons_of_ne_nil
    (List.append_ne_nil_of_left_ne_nil ht.literal_ne_nil behind)
  have hc : isBlank c = false := forall_head ht.literal_ne_nil ht.isBlank_of_mem split
  have left : (lead ++ (t.literal.toList ++ behind)).dropWhile isBlank = c :: cs := by
    rw [List.dropWhile_append_of_pos h, split,
      List.dropWhile_cons_of_neg (Bool.eq_false_iff.mp hc)]
  rw [tokens]
  split
  · next nothing => cases nothing.symm.trans left
  · next c' cs' left' =>
      cases left'.symm.trans left
      simp only [munch_of_wellFormed ht split apart, String.ofList_toList]
      rw [← split, List.drop_left]

theorem tokens_of_proper {y : Layout} (h : y.Proper) :
    tokens y.text = y.tokens ++ [.endOfInput] := by
  induction y using Layout.induction with
  | blank gap =>
      rw [Layout.text_blank]
      exact tokens_blank (Layout.proper_blank_iff.mp h)
  | cons lead t tail ih =>
      obtain ⟨lead_blank, ht, apart, htail⟩ := Layout.proper_cons_iff.mp h
      rw [Layout.text_cons, tokens_token lead_blank ht apart, ih htail, Layout.tokens_cons,
        List.cons_append]

end Grammar
open Grammar

/-- The layout of a plot fixes everything that draining a fresh lexer gives. -/
theorem exists_layout (input : String) : ∃ y : Layout, y.Proper ∧ y.text = input.toList ∧
    (Lexer.ofString input).drain =
      (y.tokens, ⟨⟨[], .behind y.text⟩, (y.diagnostics .start).toArray⟩) := by
  obtain ⟨y, proper, text⟩ := Layout.exists_proper input.toList
  refine ⟨y, proper, text, ?_⟩
  rw [Lexer.ofString, Cursor.ofString, ← text, Lexer.drain_of_proper proper,
    Location.start_after, Array.empty_append]

theorem Lexer.finish_ofString {input : String} {y : Layout} (h : y.Proper)
    (text : y.text = input.toList) :
    (ofString input).finish = (y.tokens, y.diagnostics .start) := by
  rw [ofString, Cursor.ofString, ← text, finish_of_proper h]

theorem tokenize_of_proper {input : String} {y : Layout} (h : y.Proper)
    (text : y.text = input.toList) : tokenize input = y.tokens ++ [.endOfInput] := by
  rw [tokenize, Lexer.ofString, Cursor.ofString, ← text, Lexer.drain_of_proper h]
  dsimp only
  rw [Lexer.scan_blank (List.forall_mem_nil _)]

/-- The tokens of a plot are those of longest match, for every plot. -/
theorem tokenize_eq_longest_match (input : String) :
    tokenize input = Grammar.tokens input.toList := by
  obtain ⟨y, proper, text, drained⟩ := exists_layout input
  have ended : (Lexer.ofString input).drain.2.scan.1 = .endOfInput := by
    rw [drained, Lexer.scan_blank (List.forall_mem_nil _)]
  have taken : (Lexer.ofString input).drain.1 = y.tokens := by rw [drained]
  rw [← text, tokens_of_proper proper, ← taken, ← ended]
  rfl

example : tokenize "cat42 -func\t;" = [⟨.identifier, "cat"⟩, ⟨.integer, "42"⟩, ⟨.illegal, "-"⟩,
    ⟨.illegal, "func"⟩, ⟨.symbol .semicolon, ";"⟩, .endOfInput] := by
  decide +kernel

/-- Lexing inverts printing. A list of tokens is what a plot lexes to if and only if the plot
prints it: well-formed tokens in order, all else blank, and a blank wherever two would merge. -/
theorem finish_eq_iff_layout (input : String) (ts : List Token) :
    (Lexer.ofString input).finish.1 = ts ↔
      ∃ y : Layout, y.Proper ∧ y.text = input.toList ∧ y.tokens = ts := by
  constructor
  · intro lexed
    obtain ⟨y, proper, text⟩ := Layout.exists_proper input.toList
    refine ⟨y, proper, text, ?_⟩
    rw [← lexed, Lexer.finish_ofString proper text]
  · rintro ⟨y, proper, text, rfl⟩
    rw [Lexer.finish_ofString proper text]

end PlotLexer
