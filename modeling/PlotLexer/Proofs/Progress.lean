import Mathlib.Algebra.GroupWithZero.Nat
import Mathlib.Algebra.Order.BigOperators.Group.List
import Mathlib.Algebra.Order.Group.Nat
import PlotLexer.Proofs.Cursors
import PlotLexer.Proofs.Draining

/-!
Progress and termination. The loops inside a scan end, since each round advances the cursor by one
character of the text. A scan that gives a token passes all bytes of its literal, of which there
are some, so draining ends too, and no history takes more tokens than the text has bytes.
-/
namespace PlotLexer
open Location

/-- A loop that starts at a state and steps as long as its test holds ends after so many rounds at
another state. -/
inductive LoopEnds {σ : Type} (test : σ → Bool) (step : σ → σ) : Nat → σ → σ → Prop
  | stop {s} (fails : test s = false) : LoopEnds test step 0 s s
  | round {n s t} (holds : test s = true) (rest : LoopEnds test step n (step s) t) :
      LoopEnds test step (n + 1) s t

/-- A loop that tests the next state is one step behind the loop that tests its own. -/
theorem LoopEnds.exists_lookahead {σ : Type} {test : σ → Bool} {step : σ → σ} {n : Nat} {s u : σ}
    (h : LoopEnds test step n (step s) u) :
    ∃ t, LoopEnds (fun s => test (step s)) step n s t ∧ u = step t := by
  generalize start : step s = s' at h
  induction h generalizing s with
  | stop fails =>
      subst start
      exact ⟨s, .stop fails, rfl⟩
  | round holds rest ih =>
      subst start
      obtain ⟨t, ahead, last⟩ := ih rfl
      exact ⟨t, .round holds ahead, last⟩

/-- The bytes of some tokens, without what stands between them. -/
def literalBytes (ts : List Token) : Nat :=
  (ts.map (·.literal.utf8ByteSize)).sum

/-- An offset behind all the bytes of some tokens, of which each has at least one. -/
structure Covers (offset : Nat) (ts : List Token) : Prop where
  length_le : ts.length ≤ literalBytes ts
  literalBytes_le : literalBytes ts ≤ offset

namespace Grammar

theorem WellFormed.utf8ByteSize_pos {t : Token} (h : WellFormed t) :
    0 < t.literal.utf8ByteSize := by
  rw [← byteCount_toList]
  exact byteCount_pos h.literal_ne_nil

namespace Layout

theorem literalBytes_le (y : Layout) : literalBytes y.tokens ≤ byteCount y.text := by
  induction y using induction with
  | blank gap => exact Nat.zero_le _
  | cons lead t tail ih =>
      have literal := byteCount_toList t.literal
      simp only [tokens_cons, literalBytes, List.map_cons, List.sum_cons, text_cons,
        byteCount_append] at ih ⊢
      omega

theorem wellFormed_of_mem_tokens {y : Layout} (h : y.Proper) : ∀ t ∈ y.tokens, WellFormed t := by
  intro t member
  obtain ⟨item, inside, rfl⟩ := List.mem_map.mp member
  exact h.wellFormed item inside

end Layout

theorem length_le_literalBytes {ts : List Token} (h : ∀ t ∈ ts, WellFormed t) :
    ts.length ≤ literalBytes ts := by
  have some_bytes : ∀ n ∈ ts.map (·.literal.utf8ByteSize), 1 ≤ n := by
    intro n member
    obtain ⟨t, inside, rfl⟩ := List.mem_map.mp member
    exact (h t inside).utf8ByteSize_pos
  rw [← List.length_map (·.literal.utf8ByteSize)]
  exact List.length_le_sum_of_one_le _ some_bytes

end Grammar

namespace Cursor
variable {input : String} {k : Cursor}

/-- The loop that skips a run, and the loop that reads one, which tests the character behind the
current one and advances over the last character of the run when it has ended. -/
structure LoopsEnd (input : String) (p : Char → Bool) (k : Cursor) : Prop where
  skipWhile : ∃ n, LoopEnds (fun r => r.current?.any p) (Registers.advance input) n
    k.registers (k.skipWhile p).registers
  readRun : ∃ n r, LoopEnds (fun r => (charAt? input r.readPosition).any p)
    (Registers.advance input) n k.registers r ∧ (k.readRun p).2.registers = r.advance input

theorem Aligned.exists_loopEnds_skipWhile (h : k.Aligned input) (p : Char → Bool) :
    ∃ n, LoopEnds (fun r => r.current?.any p) (Registers.advance input) n
      k.registers (k.skipWhile p).registers := by
  obtain ⟨rest, l⟩ := k
  induction rest generalizing l with
  | nil => exact ⟨0, .stop rfl⟩
  | cons c rest ih =>
      by_cases hc : p c
      · have passed : skipWhile p ⟨c :: rest, l⟩ = skipWhile p ⟨rest, l.past c⟩ := by
          simp only [skipWhile, splitRun, hc, ↓reduceIte]
        obtain ⟨n, ends⟩ := ih (l.past c) h.advance
        rw [passed]
        refine ⟨n + 1, .round hc ?_⟩
        rw [← h.registers_advance]
        exact ends
      · have stopped : skipWhile p ⟨c :: rest, l⟩ = ⟨c :: rest, l⟩ := by
          simp only [skipWhile, splitRun, hc, Bool.false_eq_true, ↓reduceIte]
        rw [stopped]
        exact ⟨0, .stop (Bool.eq_false_iff.mpr hc)⟩

theorem readRun_snd (p : Char → Bool) (k : Cursor) : (k.readRun p).2 = k.advance.skipWhile p := by
  obtain ⟨rest, l⟩ := k
  cases rest <;> rfl

theorem Aligned.loopsEnd (h : k.Aligned input) (p : Char → Bool) : k.LoopsEnd input p := by
  refine ⟨h.exists_loopEnds_skipWhile p, ?_⟩
  obtain ⟨n, ends⟩ := h.advance.exists_loopEnds_skipWhile p
  rw [h.registers_advance] at ends
  obtain ⟨r, ahead, last⟩ := ends.exists_lookahead
  simp only [Registers.current?_advance] at ahead
  exact ⟨n, r, ahead, (congrArg registers (readRun_snd p k)).trans last⟩

theorem Within.loopsEnd (h : k.Within input) (p : Char → Bool) : k.LoopsEnd input p :=
  h.aligned.loopsEnd p

end Cursor

/-- The tokens that a reply gives. The end of input is none. -/
def Reply.given : Reply → List Token
  | .token t => if t.isEndOfInput then [] else [t]
  | .token? t? => t?.toList
  | .tokens ts => ts
  | .count _ => []
  | .location _ => []
  | .diagnostics _ => []

namespace Lexer
open Grammar
variable {l m : Lexer} {y : Layout} {t : Token}

/-- A scan does not go back. If it gives a token, this has some bytes, and the scan passes them. -/
structure MovesOn (l : Lexer) : Prop where
  offset_le : l.location.offset ≤ l.scan.2.location.offset
  token : l.scan.1 = .endOfInput ∨ 0 < l.scan.1.literal.utf8ByteSize ∧
    l.location.offset + l.scan.1.literal.utf8ByteSize ≤ l.scan.2.location.offset

/-- Asking for one token after another, until there is none, ends with the last one that is left. -/
structure DrainEnds (l : Lexer) : Prop where
  loop : ∃ m, LoopEnds (fun l => l.next?.1.isSome) (fun l => l.next?.2) l.finish.1.length l m ∧
    l.drain.2 = m.next?.2
  covers : Covers (l.drain.2.location.offset - l.location.offset) l.finish.1

theorem Passes.offset_add_le (passed : l.Passes y m) :
    l.location.offset + literalBytes y.tokens ≤ m.location.offset := by
  rw [passed.location, offset_after]
  exact Nat.add_le_add_left y.literalBytes_le _

theorem Passes.covers (passed : l.Passes y m) {ts : List Token} (sub : ts.Sublist y.tokens) :
    Covers (m.location.offset - l.location.offset) ts := by
  constructor
  · apply length_le_literalBytes
    intro t member
    exact Layout.wellFormed_of_mem_tokens passed.proper t (sub.subset member)
  · apply Nat.le_sub_of_add_le'
    have fewer : literalBytes ts ≤ literalBytes y.tokens :=
      (sub.map _).sum_le_sum fun _ _ => Nat.zero_le _
    exact (Nat.add_le_add_left fewer _).trans passed.offset_add_le

theorem movesOn (l : Lexer) : l.MovesOn := by
  cases step : l.next? with
  | mk t? m =>
      cases t? with
      | none =>
          have scanned := scan_of_next?_none step
          have bytes := (Passes.of_next?_none step).offset_add_le
          constructor
          · rw [scanned]
            exact bytes
          · left
            rw [scanned]
      | some t =>
          obtain ⟨lead, -, ht, passed⟩ := Passes.of_next?_some step
          have scanned := scan_of_next?_some step
          have bytes : l.location.offset + t.literal.utf8ByteSize ≤ m.location.offset :=
            passed.offset_add_le
          constructor
          · rw [scanned]
            exact Nat.le_of_add_right_le bytes
          · right
            rw [scanned]
            exact ⟨ht.utf8ByteSize_pos, bytes⟩

theorem exists_loopEnds_drain (l : Lexer) :
    ∃ m, LoopEnds (fun l => l.next?.1.isSome) (fun l => l.next?.2) l.drain.1.length l m ∧
      l.drain.2 = m.next?.2 := by
  induction l using Lexer.induction with
  | none l m step =>
      rw [drain_of_none step]
      refine ⟨l, .stop ?_, ?_⟩
      · rw [step]
        rfl
      · rw [step]
  | some l m t step ih =>
      obtain ⟨n, ends, last⟩ := ih
      rw [drain_of_some step]
      refine ⟨n, .round ?_ ?_, last⟩
      · rw [step]
        rfl
      · rw [step]
        exact ends

theorem drainEnds (l : Lexer) : l.DrainEnds := by
  obtain ⟨y, passed, tokens⟩ := Passes.take (l.drain.1.length + 1) l
  rw [take_of_length_lt (Nat.lt_succ_self _)] at passed tokens
  refine ⟨l.exists_loopEnds_drain, ?_⟩
  exact passed.covers (tokens ▸ .refl _)

theorem nth?_sublist_take (n : Nat) (l : Lexer) :
    (l.nth? n).1.toList.Sublist (l.take (n + 1)).1 := by
  rw [nth?_fst, take_fst, List.take_add_one]
  exact List.sublist_append_right _ _

theorem given_sublist_taken (l : Lexer) (a : Action) :
    (l.perform a).1.given.Sublist (l.taken a) := by
  cases a with
  | scan =>
      have reply : (l.perform .scan).1 = .token l.scan.1 := rfl
      rw [reply, taken]
      cases step : l.next? with
      | mk t? m =>
          cases t? with
          | none =>
              rw [scan_of_next?_none step, take_succ_of_none step]
              exact .slnil
          | some t =>
              rw [scan_of_next?_some step, take_succ_of_some step, Reply.given,
                isEndOfInput_of_next?_some step]
              exact .refl [t]
  | next => exact l.nth?_sublist_take 0
  | nth n => exact l.nth?_sublist_take n
  | take n => exact .refl _
  | takeUntil kind =>
      have reply : (l.perform (.takeUntil kind)).1.given = (l.takeUntil (·.kind == kind)).1 := rfl
      have front : (l.takeUntil (·.kind == kind)).1 <+: l.drain.1 := by
        rw [takeUntil_fst]
        exact List.takeWhile_prefix _
      rw [reply, taken, take_fst]
      exact (List.prefix_take_iff.mpr ⟨front, Nat.le_succ _⟩).sublist
  | count => exact List.nil_sublist _
  | location => exact List.nil_sublist _
  | diagnostics => exact List.nil_sublist _

theorem given_sublist_takenAll (l : Lexer) (as : List Action) :
    ((l.replies as).flatMap Reply.given).Sublist (l.takenAll as) := by
  induction as generalizing l with
  | nil => exact .slnil
  | cons a as ih => exact (l.given_sublist_taken a).append (ih (l.perform a).2)

theorem length_finish_le (input : String) :
    (ofString input).finish.1.length ≤ input.utf8ByteSize := by
  obtain ⟨y, proper, text⟩ := Layout.exists_proper input.toList
  rw [finish_ofString proper text]
  calc y.tokens.length
    _ ≤ literalBytes y.tokens := length_le_literalBytes (Layout.wellFormed_of_mem_tokens proper)
    _ ≤ byteCount y.text := y.literalBytes_le
    _ = input.utf8ByteSize := by rw [text, byteCount_toList]

/-- After any history the loops of a scan end, wherever between two advances they start. A scan
moves on by the bytes of its token at least, and draining ends. The location is behind the bytes of
all the tokens that were taken, and so of all that were given, which with those still left are not
more than the text has bytes. -/
theorem progress_of_history (input : String) (as : List Action) :
    (∀ j p, (Cursor.advance^[j] ((ofString input).performAll as).cursor).LoopsEnd input p) ∧
    ((ofString input).performAll as).MovesOn ∧
    ((ofString input).performAll as).DrainEnds ∧
    (tokenize input).length = (ofString input).finish.1.length + 1 ∧
    Covers ((ofString input).performAll as).location.offset ((ofString input).takenAll as) ∧
    Covers ((ofString input).performAll as).location.offset
      (((ofString input).replies as).flatMap Reply.given) ∧
    (((ofString input).replies as).flatMap Reply.given).length +
      ((ofString input).performAll as).finish.1.length ≤ input.utf8ByteSize := by
  have inside := within_performAll input as
  obtain ⟨y, passed, tokens⟩ := Passes.performAll (ofString input) as
  have given := (ofString input).given_sublist_takenAll as
  refine ⟨?_, movesOn _, drainEnds _, ?_, ?_, ?_, ?_⟩
  · intro j p
    exact (inside.iterate_advance j).loopsEnd p
  · rw [tokenize_eq_drain, List.length_append]
    rfl
  · exact passed.covers (tokens ▸ .refl _)
  · exact passed.covers (tokens ▸ given)
  · have whole := congrArg (fun found => found.1.length) (finish_performAll input as)
    dsimp only at whole
    rw [List.length_append] at whole
    have bytes := length_finish_le input
    have fewer := given.length_le
    omega

example : Covers (ofString "é 12\tfunc").drain.2.location.offset (ofString "é 12\tfunc").drain.1 :=
  ⟨by decide +kernel, by decide +kernel⟩

end Lexer
end PlotLexer
