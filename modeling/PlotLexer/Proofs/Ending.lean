import PlotLexer.Proofs.Cursors
import PlotLexer.Proofs.Draining

/-!
The end of input. A scan gives it exactly where nothing but blanks is left, and passes those. From
there on the lexer is exhausted: it does not move, finds nothing more, and replies to whatever is
asked that there is no token.
-/
namespace PlotLexer

def Action.replyAtEnd (l : Lexer) : Action → Reply
  | .scan => .token .endOfInput
  | .next => .token? none
  | .nth _ => .token? none
  | .take _ => .tokens []
  | .takeUntil _ => .tokens []
  | .count => .count 0
  | .location => .location l.location
  | .diagnostics => .diagnostics l.diagnostics.toList

namespace Lexer
open Grammar Location
variable {l m : Lexer}

/-- Whatever is asked of the lexer, it replies that nothing is left, and stays as it is. -/
structure Exhausted (l : Lexer) : Prop where
  replies : ∀ as : List Action, l.replies as = as.map (·.replyAtEnd l)
  performAll : ∀ as : List Action, l.performAll as = l
  finish : l.finish = ([], [])

/-- A scan finds no token and passes all that is left. -/
structure ScansToEnd (input : String) (l : Lexer) : Prop where
  token : l.scan.1 = .endOfInput
  diagnostics : l.scan.2.diagnostics = l.diagnostics
  location : l.scan.2.location = .behind input.toList
  offset : l.scan.2.location.offset = input.utf8ByteSize
  exhausted : l.scan.2.Exhausted

theorem perform_of_none (h : l.next? = (none, l)) (a : Action) :
    l.perform a = (a.replyAtEnd l, l) := by
  have ended := scan_of_next?_none h
  have drained := drain_of_none h
  cases a with
  | scan => simp only [perform, ended, Action.replyAtEnd]
  | next => simp only [perform, h, Action.replyAtEnd]
  | nth n =>
      have none_there : l.nth? n = (none, l) := by
        cases n with
        | zero => exact h
        | succ n => rw [nth?, h]
      simp only [perform, none_there, Action.replyAtEnd]
  | take n => simp only [perform, take_of_none h, Action.replyAtEnd]
  | takeUntil kind => simp only [perform, takeUntil_of_none h, Action.replyAtEnd]
  | count => simp only [perform, count, drained, List.length_nil, Action.replyAtEnd]
  | location => rfl
  | diagnostics => rfl

theorem exhausted_of_none (h : l.next? = (none, l)) : l.Exhausted := by
  refine ⟨?_, ?_, ?_⟩
  · intro as
    induction as with
    | nil => rfl
    | cons a as ih => rw [replies, perform_of_none h, ih, List.map_cons]
  · intro as
    induction as with
    | nil => rfl
    | cons a as ih => rw [performAll_cons, perform_of_none h, ih]
  · rw [finish, drain_of_none h]
    exact congrArg (Prod.mk []) (List.drop_length (l := l.diagnostics.toList))

theorem after_rest {input : String} (h : l.cursor.Within input) :
    l.location.after l.cursor.rest = .behind input.toList := by
  obtain ⟨before, cut, place⟩ := h.after (List.append_nil l.cursor.rest).symm
  rw [cut, List.append_nil]
  exact place

theorem scansToEnd_of_none {input : String} (h : l.cursor.Within input)
    (step : l.next? = (none, m)) : l.ScansToEnd input := by
  obtain ⟨-, stopped⟩ := next?_eq_none_iff.mp step
  have scanned := scan_of_next?_none step
  have place : l.scan.2.location = .behind input.toList := by
    rw [scanned, stopped]
    exact after_rest h
  refine ⟨?_, ?_, place, ?_, ?_⟩
  · rw [scanned]
  · rw [scanned, stopped]
  · rw [place]
    exact byteCount_toList input
  · rw [scanned]
    exact exhausted_of_none (next?_of_none step)

/-- After any history a scan gives the end of input if and only if all that is left of the text is
blank, and then it passes that and leaves the lexer exhausted. -/
theorem endOfInput_of_history (input : String) (as : List Action) :
    ∃ rest, slice? input ((ofString input).performAll as).location.offset input.utf8ByteSize =
        some rest ∧
      (((ofString input).performAll as).scan.1.kind = .endOfInput ↔
        ∀ c ∈ rest.toList, isBlank c) ∧
      (((ofString input).performAll as).scan.1.kind = .endOfInput →
        ((ofString input).performAll as).ScansToEnd input) := by
  have inside := within_performAll input as
  generalize (ofString input).performAll as = l at inside
  refine ⟨String.ofList l.cursor.rest, inside.aligned.slice?_rest, ?_⟩
  rw [String.toList_ofList]
  cases step : l.next? with
  | mk t? m =>
      cases t? with
      | none =>
          have blanks := (next?_eq_none_iff.mp step).1
          have ended : l.scan.1.kind = .endOfInput := by
            rw [scan_of_next?_none step]
            rfl
          exact ⟨iff_of_true ended blanks, fun _ => scansToEnd_of_none inside step⟩
      | some t =>
          have inner : l.scan.1.kind ≠ .endOfInput := by
            rw [scan_of_next?_some step]
            exact ne_of_beq_false (isEndOfInput_of_next?_some step)
          refine ⟨iff_of_false inner ?_, fun ended => absurd ended inner⟩
          intro blanks
          cases step.symm.trans (next?_eq_none_iff.mpr ⟨blanks, rfl⟩)

theorem endOfInput_behind_last_token :
    ((ofString "#\x00a \r\n\t").performAll [.nth 1, .next]).scan.1.kind = .endOfInput ∧
    ((ofString "#\x00a \r\n\t").performAll [.nth 1, .next]).ScansToEnd "#\x00a \r\n\t" := by
  have ended :
      ((ofString "#\x00a \r\n\t").performAll [.nth 1, .next]).scan.1.kind = .endOfInput := by
    decide +kernel
  obtain ⟨-, -, -, stops⟩ := endOfInput_of_history "#\x00a \r\n\t" [.nth 1, .next]
  exact ⟨ended, stops ended⟩

end Lexer
end PlotLexer
