import PlotLexer.Proofs.Cursors
import PlotLexer.Proofs.Draining

/-!
The span of a token. A scan that gives a token passes some blanks, and from there to the place where
it stops the text is the literal. Bytes, columns and diagnostics all count from where the literal
begins, and a word or an integer does not stop short.
-/
namespace PlotLexer
open Location

/-- The text stops at an offset, or goes on there with a character outside of a class. -/
def RunEnds (input : String) (offset : Nat) (p : Char → Bool) : Prop :=
  offset = input.utf8ByteSize ∨ ∃ c, charAt? input offset = some c ∧ p c = false

theorem Cursor.Aligned.runEnds {input : String} {k : Cursor} {p : Char → Bool}
    (h : k.Aligned input) (stop : ∀ c ∈ k.current?, p c = false) :
    RunEnds input k.location.offset p := by
  have here := h.charAt?_offset
  have size := h.utf8ByteSize_eq
  obtain ⟨rest, loc⟩ := k
  cases rest with
  | nil => exact .inl size.symm
  | cons c rest => exact .inr ⟨c, here, stop c rfl⟩

theorem Grammar.WellFormed.after_literal {t : Token} (h : Grammar.WellFormed t) (loc : Location) :
    loc.after t.literal.toList =
      ⟨loc.offset + t.literal.utf8ByteSize, loc.line, loc.column + t.literal.length⟩ := by
  have one_line : ∀ c ∈ t.literal.toList, c ≠ '\n' := by
    intro c hc newline
    have marked := h.isBlank_of_mem c hc
    rw [newline] at marked
    cases marked
  rw [after_of_forall_ne _ one_line, byteCount_toList, String.length_toList]

namespace Lexer
open Grammar

/-- Between `l` and `m` there are blanks up to `start`, and from there on the token `t`. -/
structure Reads (input : String) (l : Lexer) (start : Location) (t : Token) (m : Lexer) : Prop where
  gap : ∃ gap, slice? input l.location.offset start.offset = some gap ∧ ∀ c ∈ gap.toList, isBlank c
  literal : slice? input start.offset m.location.offset = some t.literal
  ne_empty : t.literal ≠ ""
  not_blank : ∀ c ∈ t.literal.toList, isBlank c = false
  offset : m.location.offset = start.offset + t.literal.utf8ByteSize
  line : m.location.line = start.line
  column : m.location.column = start.column + t.literal.length
  diagnostics : ∃ found, m.diagnostics.toList = l.diagnostics.toList ++ found ∧
    ∀ d ∈ found, d.location = start
  word_ends : (∀ c ∈ t.literal.toList, isLetter c) → RunEnds input m.location.offset isLetter
  integer_ends : (∀ c ∈ t.literal.toList, isDigit c) → RunEnds input m.location.offset isDigit

variable {input : String} {l m : Lexer} {t : Token}

theorem runEnds_of_apart {k : Cursor} {run : List Char} {p : Char → Bool} (h : k.Within input)
    (hp : Joining p) (nonempty : run ≠ []) (alike : ∀ c ∈ run, p c) (apart : Apart run k.rest) :
    RunEnds input k.location.offset p := by
  exact h.aligned.runEnds ((Apart.iff_of_forall hp nonempty alike).mp apart)

theorem exists_reads_of_next?_some (h : l.cursor.Within input) (step : l.next? = (some t, m)) :
    ∃ start, Reads input l start t m := by
  obtain ⟨lead, behind, lead_blank, ht, apart, ahead, rfl⟩ := next?_eq_some_iff.mp step
  have at_literal := h.after ahead
  have at_end := at_literal.after rfl
  have place : l.location.after (lead ++ t.literal.toList) =
      ⟨(l.location.after lead).offset + t.literal.utf8ByteSize, (l.location.after lead).line,
        (l.location.after lead).column + t.literal.length⟩ := by
    rw [after_append, ht.after_literal]
  have found : ∀ d ∈ (t.fault?.map fun f => Diagnostic.mk (l.location.after lead) f).toList,
      d.location = l.location.after lead := by
    intro d member
    obtain ⟨f, -, rfl⟩ := Option.map_eq_some_iff.mp (Option.mem_toList.mp member)
    rfl
  have line := congrArg Location.line place
  have column := congrArg Location.column place
  have offset := congrArg Location.offset place
  have gap := h.aligned.slice?_eq ahead
  have literal := at_literal.aligned.slice?_eq rfl
  rw [String.ofList_toList, ← after_append] at literal
  rw [← after_append] at at_end
  refine ⟨l.location.after lead, ⟨_, gap, ?_⟩, literal, ?_, ht.isBlank_of_mem, offset,
    line, column, ⟨_, Array.toList_append, found⟩, ?_, ?_⟩
  · rwa [String.toList_ofList]
  · intro empty
    exact ht.literal_ne_nil (String.toList_eq_nil_iff.mpr empty)
  · intro letters
    exact runEnds_of_apart at_end joining_isLetter ht.literal_ne_nil letters apart
  · intro digits
    exact runEnds_of_apart at_end joining_isDigit ht.literal_ne_nil digits apart

/-- After any history, a scan that does not give the end of input reads its token from the text,
behind blanks alone. -/
theorem exists_reads_of_history (input : String) (as : List Action)
    (more : ((ofString input).performAll as).scan.1 ≠ .endOfInput) :
    ∃ start, Reads input ((ofString input).performAll as) start
      ((ofString input).performAll as).scan.1 ((ofString input).performAll as).scan.2 := by
  have inside := within_performAll input as
  generalize (ofString input).performAll as = l at inside more ⊢
  cases step : l.next? with
  | mk t? m =>
      cases t? with
      | none =>
          rw [scan_of_next?_none step] at more
          exact absurd rfl more
      | some t =>
          rw [scan_of_next?_some step]
          exact exists_reads_of_next?_some inside step

theorem reads_keyword_behind_carriage_return :
    ((ofString "é\r\n\tfunc(").performAll [.next]).scan.1 ≠ .endOfInput ∧
    Reads "é\r\n\tfunc(" ((ofString "é\r\n\tfunc(").performAll [.next]) ⟨5, 1, 1⟩
      ⟨.illegal, "func"⟩ ((ofString "é\r\n\tfunc(").performAll [.next, .scan]) := by
  have token : ((ofString "é\r\n\tfunc(").performAll [.next]).scan.1 = ⟨.illegal, "func"⟩ := by
    decide +kernel
  have stop : ((ofString "é\r\n\tfunc(").performAll [.next]).scan.2.location = ⟨9, 1, 5⟩ := by
    decide +kernel
  have more : ((ofString "é\r\n\tfunc(").performAll [.next]).scan.1 ≠ .endOfInput := by
    rw [token]
    decide
  obtain ⟨⟨offset, line, column⟩, reads⟩ := exists_reads_of_history "é\r\n\tfunc(" [.next] more
  rw [token] at reads
  have bytes : 9 = offset + 4 := (congrArg Location.offset stop).symm.trans reads.offset
  have same_line : 1 = line := (congrArg Location.line stop).symm.trans reads.line
  have columns : 5 = column + 4 := (congrArg Location.column stop).symm.trans reads.column
  obtain ⟨rfl, rfl, rfl⟩ : offset = 5 ∧ line = 1 ∧ column = 1 := by omega
  exact ⟨more, reads⟩

end Lexer
end PlotLexer
