import PlotLexer.Proofs.Histories

/-!
Iterating over a lexer as over the list of the tokens that are left. An action replies what the
list operation of its name replies, and moves the lexer by one scan for each token that it looks
at. Looking for a token where there is none is one scan too.
-/
namespace PlotLexer

namespace Action

/-- The reply to an action on `l` when `ts` is the list of the tokens left. -/
def replyOn (l : Lexer) (ts : List Token) : Action → Reply
  | .scan => .token (ts.headD .endOfInput)
  | .next => .token? ts.head?
  | .nth n => .token? ts[n]?
  | .take n => .tokens (ts.take n)
  | .takeUntil kind => .tokens (ts.takeWhile (·.kind != kind))
  | .count => .count ts.length
  | .location => .location l.location
  | .diagnostics => .diagnostics l.diagnostics.toList

/-- How many scans an action amounts to when `ts` is the list of the tokens left. -/
def scansOn (ts : List Token) : Action → Nat
  | .scan => 1
  | .next => 1
  | .nth n => min (n + 1) (ts.length + 1)
  | .take n => min n (ts.length + 1)
  | .takeUntil kind => (ts.takeWhile (·.kind != kind)).length + 1
  | .count => ts.length + 1
  | .location => 0
  | .diagnostics => 0

end Action

namespace Lexer
open Grammar
variable {l m : Lexer} {t : Token}

def scans (l : Lexer) (n : Nat) : Lexer :=
  l.performAll (List.replicate n .scan)

theorem scans_succ (l : Lexer) (n : Nat) : l.scans (n + 1) = l.scan.2.scans n := rfl

theorem scans_succ_of_next? {t? : Option Token} (h : l.next? = (t?, m)) (n : Nat) :
    l.scans (n + 1) = m.scans n :=
  congrArg (fun step => scans step.2 n) h

theorem scans_add (l : Lexer) (n k : Nat) : l.scans (n + k) = (l.scans n).scans k := by
  rw [scans, ← List.replicate_append_replicate, performAll_append]
  rfl

theorem take_snd (n : Nat) (l : Lexer) : (l.take n).2 = l.scans n := by
  induction n generalizing l with
  | zero => rfl
  | succ n ih =>
      cases step : l.next? with
      | mk t? m =>
          rw [scans_succ_of_next? step, ← ih]
          cases t? with
          | none => rw [take_succ_of_none step, take_of_none (next?_of_none step)]
          | some t => rw [take_succ_of_some step]

theorem take_fst (n : Nat) (l : Lexer) : (l.take n).1 = l.drain.1.take n := by
  induction n generalizing l with
  | zero => rfl
  | succ n ih =>
      cases step : l.next? with
      | mk t? m =>
          cases t? with
          | none => rw [take_succ_of_none step, drain_of_none step, List.take_nil]
          | some t => rw [take_succ_of_some step, drain_of_some step, ih, List.take_succ_cons]

theorem nth?_fst (n : Nat) (l : Lexer) : (l.nth? n).1 = l.drain.1[n]? := by
  induction n generalizing l with
  | zero =>
      cases step : l.next? with
      | mk t? m =>
          cases t? with
          | none => rw [nth?, step, drain_of_none step]; rfl
          | some t => rw [nth?, step, drain_of_some step]; rfl
  | succ n ih =>
      cases step : l.next? with
      | mk t? m =>
          cases t? with
          | none => rw [nth?, step, drain_of_none step]; rfl
          | some t => rw [nth?, step, drain_of_some step, List.getElem?_cons_succ, ← ih]

theorem takeUntil_fst (stop : Token → Bool) (l : Lexer) :
    (l.takeUntil stop).1 = l.drain.1.takeWhile fun t => !stop t := by
  induction l using Lexer.induction with
  | none l m step => rw [takeUntil_of_none step, drain_of_none step, List.takeWhile_nil]
  | some l m t step ih =>
      rw [takeUntil_of_some step, drain_of_some step]
      by_cases stops : stop t
      · simp only [stops, ↓reduceIte, List.takeWhile_cons, Bool.not_true, Bool.false_eq_true]
      · simp only [stops, Bool.false_eq_true, ↓reduceIte, List.takeWhile_cons, Bool.not_false, ih]

/-- A scan tells the end of input where iterating tells nothing. -/
theorem scan_fst (l : Lexer) : l.scan.1 = l.drain.1.headD .endOfInput := by
  obtain ⟨⟨rest, loc⟩, ds⟩ := l
  rcases blank_or_token rest with blanks | ⟨lead, t, behind, lead_blank, ht, apart, rfl⟩
  · rw [scan_blank blanks, drain_of_none (next?_blank blanks loc ds)]
    rfl
  · rw [drain_of_some (next?_token lead_blank ht apart loc ds)]
    simp only [scan, read?_token lead_blank ht apart, List.headD_cons]

theorem scans_min (n : Nat) (l : Lexer) : l.scans (min n (l.drain.1.length + 1)) = l.scans n := by
  rcases Nat.le_total n (l.drain.1.length + 1) with within | beyond
  · rw [Nat.min_eq_left within]
  · rw [Nat.min_eq_right beyond, ← take_snd, ← take_snd, take_of_length_lt (Nat.lt_succ_self _),
      take_of_length_lt beyond]

/-- As long as there are tokens, each scan passes one of them and stops right behind it. -/
theorem exists_passes_scans (n : Nat) (l : Lexer) : ∃ y, l.Passes y (l.scans n) ∧
    y.tokens = l.drain.1.take n ∧
      (n ≤ l.drain.1.length → ∀ c ∈ y.text.getLast?, isBlank c = false) := by
  induction n generalizing l with
  | zero =>
      refine ⟨.blank [], Passes.refl l, rfl, ?_⟩
      intro _ c none
      cases none
  | succ n ih =>
      cases step : l.next? with
      | mk t? m =>
          rw [scans_succ_of_next? step]
          cases t? with
          | none =>
              have stays : m.scans n = m := by
                rw [← take_snd, take_of_none (next?_of_none step)]
              rw [stays, drain_of_none step]
              refine ⟨_, Passes.of_next?_none step, rfl, ?_⟩
              intro more
              exact absurd more (Nat.not_succ_le_zero n)
          | some t =>
              obtain ⟨lead, -, ht, first⟩ := Passes.of_next?_some step
              obtain ⟨z, second, tokens, stops⟩ := ih m
              rw [drain_of_some step]
              refine ⟨_, first.trans second, ?_, ?_⟩
              · rw [Layout.tokens_append, tokens]
                rfl
              · intro more c last
                simp only [Layout.text_append, Layout.text_cons, Layout.text_blank,
                  List.append_nil] at last
                by_cases empty : z.text = []
                · rw [empty, List.append_nil, List.getLast?_append_of_ne_nil _ ht.literal_ne_nil]
                    at last
                  exact ht.isBlank_of_mem c (List.mem_of_getLast? last)
                · rw [List.getLast?_append_of_ne_nil _ empty] at last
                  exact stops (Nat.le_of_succ_le_succ more) c last

/-- Every action on any lexer is its list operation on the tokens left, and so many scans. The
scans for tokens that there are swallow no blanks behind the last of them, and find the
diagnostics of all of them. -/
theorem perform_eq_list_operation (l : Lexer) (a : Action) :
    l.perform a = (a.replyOn l l.finish.1, l.scans (a.scansOn l.finish.1)) ∧
    ∀ n, ∃ y, l.Passes y (l.scans n) ∧ y.tokens = l.finish.1.take n ∧
      (n ≤ l.finish.1.length → ∀ c ∈ y.text.getLast?, isBlank c = false) := by
  refine ⟨?_, fun n => exists_passes_scans n l⟩
  have left : l.finish.1 = l.drain.1 := rfl
  rw [left]
  cases a with
  | scan => exact Prod.ext (congrArg Reply.token l.scan_fst) rfl
  | next =>
      have first : l.next?.1 = l.drain.1.head? := (nth?_fst 0 l).trans List.head?_eq_getElem?.symm
      exact Prod.ext (congrArg Reply.token? first) rfl
  | nth n =>
      refine Prod.ext (congrArg Reply.token? (nth?_fst n l)) ?_
      exact (nth?_snd n l).trans ((take_snd _ l).trans (scans_min _ l).symm)
  | take n =>
      exact Prod.ext (congrArg Reply.tokens (take_fst n l))
        ((take_snd n l).trans (scans_min n l).symm)
  | takeUntil kind =>
      have front : (l.takeUntil (·.kind == kind)).1 = l.drain.1.takeWhile (·.kind != kind) :=
        takeUntil_fst _ l
      refine Prod.ext (congrArg Reply.tokens front) ?_
      rw [Action.scansOn, ← front]
      exact (takeUntil_snd _ l).trans (take_snd _ l)
  | count =>
      have all : l.take (l.drain.1.length + 1) = l.drain := take_of_length_lt (Nat.lt_succ_self _)
      exact Prod.ext rfl ((congrArg Prod.snd all.symm).trans (take_snd _ l))
  | location => rfl
  | diagnostics => rfl

theorem perform_nth_before_line_feed :
    2 ≤ (ofString " # func\n").finish.1.length ∧
    (ofString " # func\n").perform (.nth 1) =
      (.token? (some ⟨.illegal, "func"⟩), (ofString " # func\n").scans 2) ∧
    ∃ y, (ofString " # func\n").Passes y ((ofString " # func\n").scans 2) ∧
      y.tokens = [⟨.illegal, "#"⟩, ⟨.illegal, "func"⟩] ∧
        ∀ c ∈ y.text.getLast?, isBlank c = false := by
  have left : (ofString " # func\n").finish.1 = [⟨.illegal, "#"⟩, ⟨.illegal, "func"⟩] := by
    decide +kernel
  obtain ⟨performed, passes⟩ := perform_eq_list_operation (ofString " # func\n") (.nth 1)
  rw [left] at performed passes ⊢
  obtain ⟨y, passed, tokens, stops⟩ := passes 2
  have there : 2 ≤ [(⟨.illegal, "#"⟩ : Token), ⟨.illegal, "func"⟩].length := Nat.le_refl 2
  exact ⟨there, performed, y, passed, tokens, stops there⟩

end Lexer
end PlotLexer
