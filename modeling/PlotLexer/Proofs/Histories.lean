import PlotLexer.Proofs.Taking

/-!
What a history leaves behind. Whatever is asked of a lexer, it has passed a properly laid out
part of its text, taken the tokens of that part and recorded their diagnostics, each at its place.
-/
namespace PlotLexer.Lexer
open Grammar
variable {l m n : Lexer} {y z : Layout} {t : Token}

/-- From `l` to `m` exactly the layout `y` has been passed. No token is cut short. -/
structure Passes (l : Lexer) (y : Layout) (m : Lexer) : Prop where
  proper : y.Proper
  rest : l.cursor.rest = y.text ++ m.cursor.rest
  apart : Apart y.text m.cursor.rest
  location : m.location = l.location.after y.text
  diagnostics : m.diagnostics.toList = l.diagnostics.toList ++ y.diagnostics l.location

namespace Passes

theorem refl (l : Lexer) : l.Passes (.blank []) l where
  proper := Layout.proper_nil
  rest := by rw [Layout.text_blank, List.nil_append]
  apart := by rw [Layout.text_blank]; exact Apart.nil_left _
  location := by rw [Layout.text_blank, Location.after_nil]
  diagnostics := by rw [Layout.diagnostics_blank, List.append_nil]

theorem trans (first : l.Passes y m) (second : m.Passes z n) : l.Passes (y.append z) n where
  proper := by
    apply first.proper.append second.proper
    apply Apart.of_append_right
    rw [← second.rest]
    exact first.apart
  rest := by rw [Layout.text_append, List.append_assoc, ← second.rest, first.rest]
  apart := by
    rw [Layout.text_append]
    apply second.apart.append_left
    intro empty
    have same : m.cursor.rest = n.cursor.rest := by rw [second.rest, empty, List.nil_append]
    rw [← same]
    exact first.apart
  location := by rw [Layout.text_append, Location.after_append, second.location, first.location]
  diagnostics := by
    rw [Layout.diagnostics_append, second.diagnostics, first.diagnostics, first.location,
      List.append_assoc]

theorem of_next?_some (h : l.next? = (some t, m)) :
    ∃ lead, (∀ c ∈ lead, isBlank c) ∧ WellFormed t ∧ l.Passes (.cons lead t (.blank [])) m := by
  obtain ⟨lead, behind, lead_blank, ht, apart, ahead, rfl⟩ := next?_eq_some_iff.mp h
  refine ⟨lead, lead_blank, ht, Layout.proper_cons_iff.mpr
    ⟨lead_blank, ht, Apart.nil_right _, Layout.proper_nil⟩, ?_, ?_, ?_, ?_⟩
  · rw [Layout.text_single, List.append_assoc]
    exact ahead
  · rwa [Layout.text_single, Apart.append_left_iff ht.literal_ne_nil]
  · rw [Layout.text_single]
    rfl
  · rw [Layout.diagnostics_cons, Layout.diagnostics_blank, List.append_nil, Array.toList_append]

theorem of_next?_none (h : l.next? = (none, m)) : l.Passes (.blank l.cursor.rest) m := by
  obtain ⟨blanks, rfl⟩ := next?_eq_none_iff.mp h
  refine ⟨Layout.proper_blank_iff.mpr blanks, ?_, ?_, ?_, ?_⟩
  · rw [Layout.text_blank, List.append_nil]
  · exact Apart.nil_right _
  · rw [Layout.text_blank]; rfl
  · rw [Layout.diagnostics_blank, List.append_nil]

theorem next? (l : Lexer) : ∃ y, l.Passes y l.next?.2 ∧ y.tokens = l.next?.1.toList := by
  cases step : l.next? with
  | mk t? m =>
      cases t? with
      | none => exact ⟨_, of_next?_none step, rfl⟩
      | some t =>
          obtain ⟨lead, -, -, passed⟩ := of_next?_some step
          exact ⟨_, passed, rfl⟩

theorem take (k : Nat) (l : Lexer) : ∃ y, l.Passes y (l.take k).2 ∧ y.tokens = (l.take k).1 := by
  induction k generalizing l with
  | zero => exact ⟨.blank [], refl l, rfl⟩
  | succ k ih =>
      obtain ⟨y, first, tokens⟩ := next? l
      cases step : l.next? with
      | mk t? m =>
          rw [step] at first tokens
          cases t? with
          | none =>
              rw [take_succ_of_none step]
              exact ⟨y, first, tokens⟩
          | some t =>
              obtain ⟨z, second, tokens'⟩ := ih m
              rw [take_succ_of_some step]
              refine ⟨y.append z, first.trans second, ?_⟩
              rw [Layout.tokens_append, tokens, tokens']
              rfl

theorem performAll (l : Lexer) (as : List Action) :
    ∃ y, l.Passes y (l.performAll as) ∧ y.tokens = l.takenAll as := by
  obtain ⟨k, left, taken⟩ := l.performAll_eq_take as
  rw [left, taken]
  exact take k l

/-- What is passed is not lexed again: finishing goes on behind it. -/
theorem finish (passed : l.Passes y m) :
    l.finish = (y.tokens ++ m.finish.1, y.diagnostics l.location ++ m.finish.2) := by
  obtain ⟨⟨rest, loc⟩, ds⟩ := l
  obtain ⟨⟨rest', loc'⟩, ds'⟩ := m
  obtain ⟨z, proper, rfl⟩ := Layout.exists_proper rest'
  obtain ⟨proper_y, rfl, apart, location, -⟩ := passed
  have here : loc' = loc.after y.text := location
  dsimp only at apart ⊢
  rw [← Layout.text_append, finish_of_proper (proper_y.append proper apart), finish_of_proper proper,
    Layout.tokens_append, Layout.diagnostics_append, here]
  rfl

end Passes

theorem performAll_cons (l : Lexer) (a : Action) (as : List Action) :
    l.performAll (a :: as) = (l.perform a).2.performAll as :=
  rfl

theorem performAll_append (l : Lexer) (as bs : List Action) :
    l.performAll (as ++ bs) = (l.performAll as).performAll bs :=
  List.foldl_append

/-- What a history has taken and found, and what is left to take and to find, are together what a
fresh lexer takes and finds. -/
theorem finish_performAll (input : String) (as : List Action) : (ofString input).finish =
    ((ofString input).takenAll as ++ ((ofString input).performAll as).finish.1,
      ((ofString input).performAll as).diagnostics.toList ++
        ((ofString input).performAll as).finish.2) := by
  obtain ⟨y, passed, tokens⟩ := Passes.performAll (ofString input) as
  rw [passed.finish, tokens, passed.diagnostics]
  rfl

end PlotLexer.Lexer
