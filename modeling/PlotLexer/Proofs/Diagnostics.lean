import Mathlib.Data.List.Forall2
import PlotLexer.Proofs.Histories
import PlotLexer.Proofs.Tokenization

/-!
Diagnostics and illegal tokens. There is one diagnostic for each illegal token that has been
taken, at the place where the token begins, and none for anything else.
-/
namespace PlotLexer
namespace Grammar

/-- What an illegal token is reported as. -/
inductive Blames : Token → Fault → Prop where
  | keyword (k : Keyword) : Blames ⟨.illegal, k.spelling⟩ (.reservedKeyword k)
  | character (c : Char) (unreserved : ∀ k : Keyword, k.spelling ≠ String.singleton c) :
      Blames ⟨.illegal, String.singleton c⟩ (.illegalCharacter c)

theorem WellFormed.fault?_cases {t : Token} (h : WellFormed t) :
    (t.kind ≠ .illegal ∧ t.fault? = none) ∨
      (t.kind = .illegal ∧ ∃ f, t.fault? = some f ∧ Blames t f) := by
  cases h with
  | identifier word nonempty letters free => left; exact ⟨Token.Kind.noConfusion, rfl⟩
  | integer digits nonempty decimal => left; exact ⟨Token.Kind.noConfusion, rfl⟩
  | symbol s => left; exact ⟨Token.Kind.noConfusion, rfl⟩
  | keyword k => right; exact ⟨rfl, _, Token.fault?_keyword k, .keyword k⟩
  | stray c unclassed =>
      right
      have unreserved := Keyword.ofSpelling?_singleton unclassed.2.1
      exact ⟨rfl, _, Token.fault?_singleton unclassed.2.1,
        .character c (Keyword.ofSpelling?_eq_none_iff.mp unreserved)⟩

namespace Layout

theorem occurrences_map_snd (y : Layout) (before : List Char) :
    (y.occurrences before).map Prod.snd = y.tokens := by
  induction y using induction generalizing before with
  | blank gap => rw [occurrences_blank]; rfl
  | cons lead t tail ih => rw [occurrences_cons, List.map_cons, ih, tokens_cons]

theorem forall₂_diagnostics {y : Layout} (h : y.Proper) (before : List Char) :
    List.Forall₂ (fun o d => d.location = .behind o.1 ∧ Blames o.2 d.fault)
      ((y.occurrences before).filter (·.2.kind = .illegal)) (y.diagnostics (.behind before)) := by
  induction y using induction generalizing before with
  | blank gap => rw [occurrences_blank, diagnostics_blank]; exact .nil
  | cons lead t tail ih =>
      obtain ⟨-, ht, -, htail⟩ := proper_cons_iff.mp h
      have rest := ih htail (before ++ (lead ++ t.literal.toList))
      rw [occurrences_cons, diagnostics_cons, Location.after_behind, Location.after_behind,
        List.append_assoc]
      rcases ht.fault?_cases with ⟨legal, nothing⟩ | ⟨illegal, f, fault, blames⟩
      · rw [List.filter_cons_of_neg (by simpa using legal), nothing]
        exact rest
      · rw [List.filter_cons_of_pos (by simpa using illegal), fault]
        exact .cons ⟨rfl, blames⟩ rest

end Layout
end Grammar
open Grammar

/-- After any history of a fresh lexer, the tokens taken lie in order in the part of the plot
that has been passed, and there is one diagnostic for each illegal one among them, in that
order. Diagnostics are only ever added behind the others. -/
theorem diagnostics_of_history (input : String) (as : List Action) :
    (∃ y : Layout, y.Proper ∧ y.tokens = (Lexer.ofString input).takenAll as ∧
      input.toList = y.text ++ ((Lexer.ofString input).performAll as).cursor.rest ∧
      List.Forall₂ (fun o d => d.location = .behind o.1 ∧ Blames o.2 d.fault)
        ((y.occurrences []).filter (·.2.kind = .illegal))
        ((Lexer.ofString input).performAll as).diagnostics.toList) ∧
    (∀ bs, ((Lexer.ofString input).performAll as).diagnostics.toList <+:
      ((Lexer.ofString input).performAll (as ++ bs)).diagnostics.toList) ∧
    (Lexer.ofString input).finish.2.length =
      (Lexer.ofString input).finish.1.countP (·.kind = .illegal) := by
  refine ⟨?_, ?_, ?_⟩
  · obtain ⟨y, passed, tokens⟩ := Lexer.Passes.performAll (.ofString input) as
    refine ⟨y, passed.proper, tokens, passed.rest, ?_⟩
    rw [passed.diagnostics]
    exact Layout.forall₂_diagnostics passed.proper []
  · intro bs
    obtain ⟨z, passed, -⟩ := Lexer.Passes.performAll ((Lexer.ofString input).performAll as) bs
    rw [Lexer.performAll_append, passed.diagnostics]
    exact List.prefix_append _ _
  · obtain ⟨y, proper, text⟩ := Layout.exists_proper input.toList
    have paired := (Layout.forall₂_diagnostics proper []).length_eq
    rw [Lexer.finish_ofString proper text, ← Layout.occurrences_map_snd y [], List.countP_map,
      List.countP_eq_length_filter]
    exact paired.symm

end PlotLexer
