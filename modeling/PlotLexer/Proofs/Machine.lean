import PlotLexer.Proofs.Runs

/-!
The machine on registers is the lexer. Its loops stop where the runs of the cursor end, and all its
cuts can be made, so each call gives the token of a scan and leads to the registers behind it. Hence
any number of calls on a fresh machine are the scans of a fresh lexer.
-/
namespace PlotLexer
open Location
variable {input : String}

/-- A function that goes round as the loop does returns what the loop ends with. -/
theorem LoopEnds.eq_of_unroll {σ : Type} {test : σ → Bool} {step f : σ → σ} {n : Nat} {s t : σ}
    (ends : LoopEnds test step n s t) (unroll : ∀ s, f s = if test s then f (step s) else s) :
    f s = t := by
  induction ends with
  | stop fails => rw [unroll, if_neg (Bool.eq_false_iff.mp fails)]
  | round holds rest ih => rw [unroll, if_pos holds, ih]

namespace Cursor
variable {k : Cursor} {c : Char}

theorem Aligned.skipWhile (h : k.Aligned input) (p : Char → Bool) :
    (k.skipWhile p).Aligned input := by
  have split : k.rest = k.rest.takeWhile p ++ k.rest.dropWhile p :=
    List.takeWhile_append_dropWhile.symm
  have behind := h.after split
  rwa [← skipWhile_rest, ← skipWhile_location] at behind

theorem Aligned.skipWhile_registers (h : k.Aligned input) (p : Char → Bool) :
    k.registers.skipWhile input p = (k.skipWhile p).registers := by
  obtain ⟨n, ends⟩ := h.exists_loopEnds_skipWhile p
  exact ends.eq_of_unroll (Registers.skipWhile_eq input p)

theorem Aligned.readRun?_registers (h : k.Aligned input) (here : k.current? = some c)
    (p : Char → Bool) : k.registers.readRun? input p =
      some (String.ofList (k.readRun p).1, (k.readRun p).2.registers) := by
  obtain ⟨run, taken, -, reads⟩ := h.exists_readsRun here p
  obtain ⟨n, last, ends, offset, behind⟩ := reads.loop
  have stopped := ends.eq_of_unroll (Registers.readWhile_eq input p)
  have cut := reads.slice?_eq
  rw [← offset] at cut
  simp only [Registers.readRun?, stopped, cut, taken, behind]
  rfl

theorem Aligned.slice?_current (h : k.Aligned input) (here : k.current? = some c) :
    slice? input k.registers.position k.registers.readPosition = some (String.singleton c) := by
  obtain ⟨rest, l⟩ := k
  cases rest with
  | nil => cases here
  | cons d rest =>
      cases here
      have cut := h.slice?_eq (List.singleton_append (x := c) (l := rest)).symm
      rw [← String.singleton_eq_ofList, offset_after] at cut
      exact cut

end Cursor

namespace Lexer
variable {l : Lexer} {k : Cursor} {c : Char}

def machine (l : Lexer) : Machine :=
  ⟨l.cursor.registers, l.diagnostics⟩

theorem machine_ofString (input : String) : (ofString input).machine = .ofString input :=
  congrArg (Machine.mk · #[]) (Cursor.registers_ofString input)

theorem readWord?_machine (h : k.Aligned input) (here : k.current? = some c)
    (ds : Array Diagnostic) : Machine.readWord? input (machine ⟨k, ds⟩) =
      some ((Lexeme.word k.location (k.readRun isLetter).1).token,
        machine ⟨(k.readRun isLetter).2, record ds (.word k.location (k.readRun isLetter).1)⟩) := by
  simp only [Machine.readWord?, machine, h.readRun?_registers here, Option.bind_eq_bind,
    Option.bind_some]
  cases reserved : Keyword.ofSpelling? (String.ofList (k.readRun isLetter).1) with
  | some keyword =>
      simp only [Lexeme.word, reserved]
      rfl
  | none =>
      simp only [Lexeme.word, reserved]
      rfl

theorem readInteger?_machine (h : k.Aligned input) (here : k.current? = some c)
    (ds : Array Diagnostic) : Machine.readInteger? input (machine ⟨k, ds⟩) =
      some ((Lexeme.integer k.location (k.readRun isDigit).1).token,
        machine ⟨(k.readRun isDigit).2, record ds (.integer k.location (k.readRun isDigit).1)⟩) := by
  simp only [Machine.readInteger?, machine, h.readRun?_registers here]
  rfl

theorem readSingle?_machine (h : k.Aligned input) (here : k.current? = some c)
    (kind : Token.Kind) (ds : Array Diagnostic) :
    Machine.readSingle? input kind (machine ⟨k, ds⟩) =
      some (⟨kind, String.singleton c⟩, machine ⟨k.advance, ds⟩) := by
  simp only [Machine.readSingle?, machine, h.slice?_current here, h.registers_advance]
  rfl

/-- A scan is a call of the machine: wherever the cursor is, the registers of the lexer give the
token of the scan, and with it the registers and the diagnostics behind the scan. -/
theorem scan?_machine (h : l.cursor.Aligned input) :
    l.machine.scan? input = some (l.scan.1, l.scan.2.machine) := by
  obtain ⟨k, ds⟩ := l
  have aligned := h.skipWhile isBlank
  simp only [Machine.scan?, machine, h.skipWhile_registers, scan, read?, Lexeme.read?]
  generalize k.skipWhile isBlank = k at aligned
  have current : k.registers.current? = k.current? := rfl
  rw [current]
  cases here : k.current? with
  | none => rfl
  | some c =>
      dsimp only
      by_cases letter : isLetter c
      · rw [if_pos letter, if_pos letter]
        exact readWord?_machine aligned here ds
      · rw [if_neg letter, if_neg letter]
        by_cases digit : isDigit c
        · rw [if_pos digit, if_pos digit]
          exact readInteger?_machine aligned here ds
        · rw [if_neg digit, if_neg digit]
          cases mark : Token.Kind.ofSymbolChar? c with
          | some kind =>
              simp only [Lexeme.single, mark]
              exact readSingle?_machine aligned here kind ds
          | none =>
              simp only [Lexeme.single, mark]
              exact readSingle?_machine aligned here .illegal _

theorem Passes.aligned {m : Lexer} {y : Grammar.Layout} (passed : l.Passes y m)
    (h : l.cursor.Aligned input) : m.cursor.Aligned input := by
  have behind := h.after passed.rest
  have place : m.cursor.location = l.cursor.location.after y.text := passed.location
  rwa [← place] at behind

theorem scans?_machine (n : Nat) (h : l.cursor.Aligned input) : l.machine.scans? input n =
    some (l.drain.1.takeD n .endOfInput, (l.scans n).machine) := by
  induction n generalizing l with
  | zero => rfl
  | succ n ih =>
      obtain ⟨y, passed, -⟩ := Passes.next? l
      have later := ih (l := l.scan.2) (passed.aligned h)
      rw [drain_scan, ← scans_succ] at later
      simp only [Machine.scans?, scan?_machine h, Option.bind_eq_bind, Option.bind_some, later,
        scan_fst]
      cases l.drain.1 <;> rfl

/-- The machine on a plot never fails. Its calls give the tokens of the plot, and after each of them
it stands where a lexer does that has scanned as often. -/
theorem scans?_ofString (input : String) (n : Nat) : (Machine.ofString input).scans? input n =
    some ((tokenize input).takeD n .endOfInput, ((ofString input).scans n).machine) := by
  rw [← machine_ofString, scans?_machine n (Cursor.within_ofString input).aligned,
    tokenize_eq_drain, takeD_append_singleton]

end Lexer
end PlotLexer
