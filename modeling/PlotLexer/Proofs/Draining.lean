import Mathlib.Data.List.Forall2
import PlotLexer.Proofs.Iteration
import PlotLexer.Proofs.Tokenization

/-!
Draining a lexer to its end. Scanning, iterating and any mixture of both tell the same tokens in
the same order, and leave the same diagnostics. Only the last of these tokens is the end of input,
and whoever goes on asking is told nothing else.
-/
namespace PlotLexer

/-- A reply to a scan or to a step of iteration, and the token that it tells. Iteration has no token
for the end of input, nor nothing for any other token. -/
inductive Reply.Tells : Reply → Token → Prop where
  | scanned (t : Token) : Tells (.token t) t
  | found (t : Token) (inner : t.isEndOfInput = false) : Tells (.token? (some t)) t
  | ended : Tells (.token? none) .endOfInput

theorem takeD_append_singleton {α : Type} (as : List α) (a : α) (n : Nat) :
    (as ++ [a]).takeD n a = as.takeD n a := by
  induction n generalizing as with
  | zero => rfl
  | succ n ih =>
      cases as with
      | nil => rfl
      | cons b as => exact congrArg (List.cons b) (ih as)

namespace Lexer
open Grammar
variable {l m : Lexer} {t : Token}

theorem scan_of_next?_none (h : l.next? = (none, m)) : l.scan = (.endOfInput, m) := by
  have behind : l.scan.2 = m := congrArg Prod.snd h
  refine Prod.ext ?_ behind
  rw [scan_fst, drain_of_none h]
  rfl

theorem scan_of_next?_some (h : l.next? = (some t, m)) : l.scan = (t, m) := by
  have behind : l.scan.2 = m := congrArg Prod.snd h
  refine Prod.ext ?_ behind
  rw [scan_fst, drain_of_some h]
  rfl

theorem isEndOfInput_of_next?_some (h : l.next? = (some t, m)) : t.isEndOfInput = false := by
  obtain ⟨-, -, ht, -⟩ := Passes.of_next?_some h
  exact isEndOfInput_of_wellFormed ht

theorem isEndOfInput_of_mem_drain (l : Lexer) : ∀ t ∈ l.drain.1, t.isEndOfInput = false := by
  induction l using Lexer.induction with
  | none l m step =>
      intro t member
      rw [drain_of_none step] at member
      cases member
  | some l m t step ih =>
      intro u member
      rw [drain_of_some step] at member
      rcases List.mem_cons.mp member with rfl | later
      · exact isEndOfInput_of_next?_some step
      · exact ih u later

theorem walk_of_none (h : l.next? = (none, m)) : l.walk = [(.endOfInput, m.location)] := by
  have ended := scan_of_next?_none h
  rw [walk]
  split
  next t l' scanned =>
  cases scanned.symm.trans ended
  exact dif_pos rfl

theorem walk_of_some (h : l.next? = (some t, m)) : l.walk = (t, m.location) :: m.walk := by
  have found := scan_of_next?_some h
  have inner := isEndOfInput_of_next?_some h
  rw [walk]
  split
  next t l' scanned =>
  cases scanned.symm.trans found
  exact dif_neg (Bool.eq_false_iff.mp inner)

/-- Scanning up to the first end of input tells what iterating tells, and then that end. -/
theorem map_fst_walk (l : Lexer) : l.walk.map Prod.fst = l.drain.1 ++ [.endOfInput] := by
  induction l using Lexer.induction with
  | none l m step =>
      rw [walk_of_none step, drain_of_none step]
      rfl
  | some l m t step ih =>
      rw [walk_of_some step, drain_of_some step, List.map_cons, ih]
      rfl

theorem perform_pull (l : Lexer) {a : Action} (pull : a = .scan ∨ a = .next) :
    (l.perform a).2 = l.scan.2 ∧ (l.perform a).1.Tells (l.drain.1.headD .endOfInput) := by
  rcases pull with rfl | rfl
  · refine ⟨rfl, ?_⟩
    rw [← scan_fst]
    exact .scanned l.scan.1
  · refine ⟨rfl, ?_⟩
    have reply : (l.perform .next).1 = .token? l.next?.1 := rfl
    rw [reply]
    cases step : l.next? with
    | mk t? m =>
        cases t? with
        | none =>
            rw [drain_of_none step]
            exact .ended
        | some t =>
            rw [drain_of_some step]
            exact .found t (isEndOfInput_of_next?_some step)

theorem drain_scan (l : Lexer) : l.scan.2.drain.1 = l.drain.1.tail := by
  cases step : l.next? with
  | mk t? m =>
      cases t? with
      | none =>
          rw [scan_of_next?_none step, drain_of_none (next?_of_none step), drain_of_none step]
          rfl
      | some t =>
          rw [scan_of_next?_some step, drain_of_some step]
          rfl

theorem performAll_pulls (l : Lexer) {as : List Action} (pulls : ∀ a ∈ as, a = .scan ∨ a = .next) :
    l.performAll as = l.scans as.length := by
  induction as generalizing l with
  | nil => rfl
  | cons a as ih =>
      obtain ⟨first, rest⟩ := List.forall_mem_cons.mp pulls
      rw [performAll_cons, (l.perform_pull first).1]
      exact ih l.scan.2 rest

/-- Pulls of either form tell the tokens that are left, and then the end of input forever. -/
theorem replies_pulls (l : Lexer) {as : List Action} (pulls : ∀ a ∈ as, a = .scan ∨ a = .next) :
    List.Forall₂ Reply.Tells (l.replies as) (l.drain.1.takeD as.length .endOfInput) := by
  induction as generalizing l with
  | nil => exact .nil
  | cons a as ih =>
      obtain ⟨first, rest⟩ := List.forall_mem_cons.mp pulls
      obtain ⟨left, told⟩ := l.perform_pull first
      refine .cons told ?_
      rw [left, ← drain_scan]
      exact ih l.scan.2 rest

theorem scans_of_length_lt {n : Nat} (past : l.drain.1.length < n) : l.scans n = l.drain.2 := by
  rw [← take_snd, take_of_length_lt past]

theorem tokenize_eq_drain (input : String) :
    tokenize input = (ofString input).drain.1 ++ [.endOfInput] := by
  obtain ⟨y, proper, text, drained⟩ := exists_layout input
  rw [tokenize_of_proper proper text, drained]

theorem map_fst_walk_ofString (input : String) :
    (ofString input).walk.map Prod.fst = tokenize input := by
  rw [map_fst_walk, tokenize_eq_drain]

/-- Every way of draining a fresh lexer agrees with every other. Collecting all tokens, scanning up
to the first end of input, and asking by any mixture of scans and steps of iteration give the
tokens of the plot. Only the last of them is the end of input, which is all that is told from then
on, and behind it the diagnostics are those that collecting gives. -/
theorem drains_agree (input : String) :
    tokenize input = (ofString input).finish.1 ++ [.endOfInput] ∧
    tokenize input = (ofString input).walk.map Prod.fst ∧
    (∀ t ∈ (ofString input).finish.1, t.kind ≠ .endOfInput) ∧
    ∀ as : List Action, (∀ a ∈ as, a = .scan ∨ a = .next) →
      List.Forall₂ Reply.Tells ((ofString input).replies as)
        ((tokenize input).takeD as.length .endOfInput) ∧
      ((tokenize input).length ≤ as.length →
        ((ofString input).performAll as).diagnostics.toList = (ofString input).finish.2) := by
  refine ⟨tokenize_eq_drain input, (map_fst_walk_ofString input).symm, ?_, ?_⟩
  · intro t member
    exact ne_of_beq_false (isEndOfInput_of_mem_drain _ t member)
  · intro as pulls
    rw [tokenize_eq_drain]
    constructor
    · rw [takeD_append_singleton]
      exact replies_pulls _ pulls
    · intro past
      rw [List.length_append] at past
      rw [performAll_pulls _ pulls, scans_of_length_lt past]
      rfl

theorem drains_agree_on_mixed_pulls :
    (∀ a ∈ [Action.next, .scan, .next, .scan, .next], a = .scan ∨ a = .next) ∧
    (tokenize "# a\tfunc ").length ≤ [Action.next, .scan, .next, .scan, .next].length ∧
    List.Forall₂ Reply.Tells ((ofString "# a\tfunc ").replies [.next, .scan, .next, .scan, .next])
      [⟨.illegal, "#"⟩, ⟨.identifier, "a"⟩, ⟨.illegal, "func"⟩, .endOfInput, .endOfInput] ∧
    ((ofString "# a\tfunc ").performAll [.next, .scan, .next, .scan, .next]).diagnostics.toList =
      [⟨⟨0, 0, 0⟩, .illegalCharacter '#'⟩, ⟨⟨4, 0, 4⟩, .reservedKeyword .func⟩] := by
  have pulls : ∀ a ∈ [Action.next, .scan, .next, .scan, .next], a = .scan ∨ a = .next := by decide
  have past :
      (tokenize "# a\tfunc ").length ≤ [Action.next, .scan, .next, .scan, .next].length := by
    decide +kernel
  obtain ⟨-, -, -, mixed⟩ := drains_agree "# a\tfunc "
  obtain ⟨told, found⟩ := mixed _ pulls
  refine ⟨pulls, past, ?_, ?_⟩
  · have tokens : (tokenize "# a\tfunc ").takeD 5 .endOfInput = [⟨.illegal, "#"⟩,
        ⟨.identifier, "a"⟩, ⟨.illegal, "func"⟩, .endOfInput, .endOfInput] := by
      decide +kernel
    exact tokens ▸ told
  · rw [found past]
    decide +kernel

end Lexer
end PlotLexer
