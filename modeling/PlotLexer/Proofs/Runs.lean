import PlotLexer.Proofs.Progress
import PlotLexer.Proofs.Spans

/-!
Reading a run. From any registers that agree with the text, reading gives the current character,
which is not tested, and the longest run behind it. The loop that does so looks one character ahead:
it stops at the last character of the run, and one more advance leads behind it.
-/
namespace PlotLexer
open Location
variable {input : String} {p : Char → Bool} {r r' : Registers} {c : Char}

namespace Registers

/-- The cursor at the place of the registers, with all the text from there on left. -/
def cursor (input : String) (r : Registers) : Cursor :=
  ⟨((slice? input r.position input.utf8ByteSize).getD "").toList, r.location⟩

/-- The text between `r` and `r'` is `c` and the longest run in `p` behind it. The loop over the
character ahead stops at registers whose next offset is that of `r'`, and `r'` is one advance on. -/
structure ReadsRun (input : String) (p : Char → Bool) (c : Char) (run : List Char)
    (r r' : Registers) : Prop where
  slice?_eq : slice? input r.position r'.position = some (String.ofList (c :: run))
  alike : ∀ d ∈ run, p d
  ends : RunEnds input r'.position p
  tracks : r'.Tracks input
  at_end : r'.current? = none →
    r'.position = input.utf8ByteSize ∧ r'.readPosition = input.utf8ByteSize
  location : r'.location = r.location.after (c :: run)
  loop : ∃ n last, LoopEnds (fun r => (charAt? input r.readPosition).any p) (advance input) n
    r last ∧ last.readPosition = r'.position ∧ r' = last.advance input

theorem Tracks.offsets_at_end (h : r.Tracks input) (ended : r.current? = none) :
    r.position = input.utf8ByteSize ∧ r.readPosition = input.utf8ByteSize := by
  have position := h.eq_none_iff.mp ended
  have readPosition := h.readPosition_eq
  rw [ended] at readPosition
  exact ⟨position, readPosition.trans position⟩

theorem Tracks.exists_aligned (h : r.Tracks input) :
    ∃ k : Cursor, k.Aligned input ∧ k.registers = r := by
  obtain ⟨before, rest, cut, splits⟩ := exists_cut ⟨⟨r.position⟩, h.isValid_position⟩
  have place : r.position = byteCount before :=
    congrArg String.Pos.Raw.byteIdx (offset_of_splits splits)
  have aligned : Cursor.Aligned input ⟨rest, r.location⟩ := ⟨before, cut, place⟩
  have current : rest.head? = r.current? := aligned.charAt?_offset.symm.trans h.current?_eq.symm
  have behind := Cursor.nextOffset_eq_elim ⟨rest, r.location⟩
  rw [Cursor.current?, current] at behind
  have next : Cursor.nextOffset ⟨rest, r.location⟩ = r.readPosition :=
    behind.trans h.readPosition_eq.symm
  refine ⟨⟨rest, r.location⟩, aligned, ?_⟩
  rw [Cursor.registers, next, Cursor.current?, current]
  rfl

end Registers

namespace Cursor
variable {k : Cursor}

theorem Aligned.cursor_registers (h : k.Aligned input) : k.registers.cursor input = k := by
  have left := h.slice?_rest
  obtain ⟨rest, l⟩ := k
  rw [Registers.cursor, registers, left, Option.getD_some, String.toList_ofList]
  rfl

theorem Aligned.exists_readsRun (h : k.Aligned input) (here : k.current? = some c)
    (p : Char → Bool) : ∃ run, (k.readRun p).1 = c :: run ∧ (k.readRun p).2.Aligned input ∧
      Registers.ReadsRun input p c run k.registers (k.readRun p).2.registers := by
  obtain ⟨n, last, ends, behind⟩ := (h.loopsEnd p).readRun
  obtain ⟨rest, l⟩ := k
  cases rest with
  | nil => cases here
  | cons d cs =>
      cases here
      have split : c :: cs = (c :: cs.takeWhile p) ++ cs.dropWhile p :=
        congrArg (c :: ·) List.takeWhile_append_dropWhile.symm
      have aligned := h.after split
      have stop : ∀ d ∈ (cs.dropWhile p).head?, p d = false := by
        intro d member
        have fails := List.head?_dropWhile_not p cs
        rwa [Option.mem_def.mp member] at fails
      rw [readRun_cons] at behind ⊢
      refine ⟨cs.takeWhile p, rfl, aligned, h.slice?_eq split, ?_, aligned.runEnds stop,
        aligned.tracks, aligned.tracks.offsets_at_end, rfl, n, last, ends, ?_, behind⟩
      · intro d member
        exact List.mem_takeWhile_imp member
      · rw [behind, Registers.position_advance]

end Cursor

namespace Lexer

def readRun (p : Char → Bool) (l : Lexer) : List Char × Lexer :=
  let (run, k) := l.cursor.readRun p
  (run, { l with cursor := k })

/-- Wherever the registers agree with the text and there is a current character, whatever the line
and the column, and whatever has been found: reading a run leads to registers that again agree with
the same text, behind the current character and the longest run after it, and what has been found is
left as it is. -/
theorem readRun_of_tracks (input : String) (p : Char → Bool) (r : Registers) (c : Char)
    (ds : Array Diagnostic) (tracks : r.Tracks input) (here : r.current? = some c) :
    (r.cursor input).registers = r ∧
    ∃ run r', Registers.ReadsRun input p c run r r' ∧ (r'.cursor input).registers = r' ∧
      readRun p ⟨r.cursor input, ds⟩ = (c :: run, ⟨r'.cursor input, ds⟩) := by
  obtain ⟨k, aligned, rfl⟩ := tracks.exists_aligned
  obtain ⟨run, taken, behind, reads⟩ := aligned.exists_readsRun here p
  have resumed := behind.cursor_registers
  rw [aligned.cursor_registers]
  refine ⟨rfl, run, (k.readRun p).2.registers, reads, ?_, ?_⟩
  · rw [resumed]
  · rw [resumed, ← taken]
    rfl

theorem readRun_over_line_feed :
    Registers.Tracks "#é\nab€" ⟨1, 3, some 'é', 7, 3⟩ ∧
    ∃ r', Registers.ReadsRun "#é\nab€" (· != '€') 'é' ['\n', 'a', 'b'] ⟨1, 3, some 'é', 7, 3⟩ r' ∧
      r'.location = ⟨6, 8, 2⟩ := by
  have tracks : Registers.Tracks "#é\nab€" ⟨1, 3, some 'é', 7, 3⟩ :=
    ⟨by decide, by decide +kernel, by decide +kernel, by decide +kernel, by decide +kernel,
      by decide +kernel, by decide +kernel, by decide +kernel⟩
  obtain ⟨-, run, r', reads, -, taken⟩ :=
    readRun_of_tracks "#é\nab€" (· != '€') ⟨1, 3, some 'é', 7, 3⟩ 'é' #[] tracks rfl
  have whole : (readRun (· != '€')
      ⟨Registers.cursor "#é\nab€" ⟨1, 3, some 'é', 7, 3⟩, #[]⟩).1 = ['é', '\n', 'a', 'b'] := by
    decide +kernel
  rw [taken] at whole
  cases whole
  exact ⟨tracks, r', reads, reads.location⟩

end Lexer
end PlotLexer
