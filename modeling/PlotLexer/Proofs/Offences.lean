import PlotLexer.Proofs.Occurrences
import PlotLexer.Proofs.Tokenization

/-!
The offending places of a text. A place offends if and only if a token stands there that is at
fault, so the diagnostics of a plot can be told from its text, whatever comes before or after.
-/
namespace PlotLexer
namespace Grammar
variable {before behind text : List Char} {c : Char} {t : Token} {f : Fault} {d : Diagnostic}

theorem Stands.stray (unclassed : IsStray c) (before behind : List Char) :
    Stands before ⟨.illegal, String.singleton c⟩ behind where
  wellFormed := .stray c unclassed
  apart_before := by
    rw [String.toList_singleton]
    exact Apart.of_single_right unclassed.2.1 unclassed.2.2.1 before behind
  apart_behind := by
    rw [String.toList_singleton]
    exact Apart.of_single_left unclassed.2.1 unclassed.2.2.1 behind

theorem stands_keyword_iff (k : Keyword) : Stands before ⟨.illegal, k.spelling⟩ behind ↔
    (∀ c ∈ before.getLast?, isLetter c = false) ∧ ∀ c ∈ behind.head?, isLetter c = false := by
  have letters := k.isLetter_of_mem_spelling
  have left : Apart before k.spelling.toList ↔ ∀ c ∈ before.getLast?, isLetter c = false :=
    Apart.iff_of_forall_right joining_isLetter k.spelling_ne_nil letters
  have right : Apart k.spelling.toList behind ↔ ∀ c ∈ behind.head?, isLetter c = false :=
    Apart.iff_of_forall joining_isLetter k.spelling_ne_nil letters
  rw [← left, ← right]
  constructor
  · rintro ⟨-, apart_before, apart_behind⟩
    exact ⟨apart_before.of_append_right, apart_behind⟩
  · rintro ⟨apart_before, apart_behind⟩
    exact ⟨.keyword k, (Apart.append_right_iff k.spelling_ne_nil).mpr apart_before, apart_behind⟩

theorem offends_iff_stands : Offends text d ↔ ∃ before t behind,
    text = before ++ (t.literal.toList ++ behind) ∧ Stands before t behind ∧
      d.location = .behind before ∧ t.fault? = some d.fault := by
  constructor
  · intro offends
    cases offends with
    | stray before behind c unclassed =>
        refine ⟨before, ⟨.illegal, String.singleton c⟩, behind, ?_,
          .stray unclassed before behind, rfl, Token.fault?_singleton unclassed.2.1⟩
        rw [String.toList_singleton, List.singleton_append]
    | keyword before behind k free_left free_right =>
        have stands : Stands before ⟨.illegal, k.spelling⟩ behind :=
          (stands_keyword_iff k).mpr ⟨free_left, free_right⟩
        exact ⟨before, ⟨.illegal, k.spelling⟩, behind, List.append_assoc _ _ _, stands, rfl,
          Token.fault?_keyword k⟩
  · obtain ⟨location, fault⟩ := d
    rintro ⟨before, t, behind, rfl, stands, rfl, blamed⟩
    cases stands.wellFormed with
    | identifier word nonempty letters free => cases blamed
    | integer digits nonempty decimal => cases blamed
    | symbol s => cases blamed
    | keyword k =>
        rw [Token.fault?_keyword] at blamed
        cases blamed
        obtain ⟨free_left, free_right⟩ := (stands_keyword_iff k).mp stands
        rw [← List.append_assoc]
        exact .keyword before behind k free_left free_right
    | stray c unclassed =>
        rw [Token.fault?_singleton unclassed.2.1] at blamed
        cases blamed
        rw [String.toList_singleton]
        exact .stray before behind c unclassed

/-- Reading a proper layout from its start reports the offending places of its text. -/
theorem Layout.mem_diagnostics_iff_offends {y : Layout} (h : y.Proper) :
    d ∈ y.diagnostics .start ↔ Offends y.text d := by
  rw [← Location.behind_nil, mem_diagnostics_iff, offends_iff_stands]
  constructor
  · rintro ⟨place, t, occurs, location, blamed⟩
    obtain ⟨passed, behind, rfl, text, stands⟩ :=
      (mem_occurrences_iff h (Apart.nil_left _)).mp occurs
    exact ⟨_, t, behind, text, stands, location, blamed⟩
  · rintro ⟨before, t, behind, text, stands, location, blamed⟩
    have occurs : (before, t) ∈ y.occurrences [] :=
      (mem_occurrences_iff h (Apart.nil_left _)).mpr ⟨before, behind, rfl, text, stands⟩
    exact ⟨before, t, occurs, location, blamed⟩

end Grammar
open Grammar

/-- The diagnostics of a plot are its offending places, each reported once and from front to
back. -/
theorem finish_reports_offences (input : String) :
    (∀ d, d ∈ (Lexer.ofString input).finish.2 ↔ Offends input.toList d) ∧
      (Lexer.ofString input).finish.2.Pairwise
        fun d e => d.location.offset < e.location.offset := by
  obtain ⟨y, proper, text⟩ := Layout.exists_proper input.toList
  rw [Lexer.finish_ofString proper text, ← text]
  refine ⟨fun d => Layout.mem_diagnostics_iff_offends proper, ?_⟩
  rw [← Location.behind_nil]
  exact Layout.pairwise_diagnostics proper (Apart.nil_left _)

example : (Lexer.ofString "1func2 funcs\n€func").finish.2 =
    [⟨⟨1, 0, 1⟩, .reservedKeyword .func⟩, ⟨⟨13, 1, 0⟩, .illegalCharacter '€'⟩,
      ⟨⟨16, 1, 1⟩, .reservedKeyword .func⟩] := by
  decide +kernel

end PlotLexer
