import Mathlib.Algebra.Group.Nat.Defs
import PlotLexer.Proofs.Logging
import PlotLexer.Proofs.Cursors
import PlotLexer.Proofs.Ordering

/-!
Counting in 64-bit words. Lines and columns together never exceed the bytes before them, so over a
text of less than 2 ^ 63 bytes no counter overflows, and each location that a lexer reports has a
text. A location made by hand has none just where its line or its column is the last word.
-/
namespace PlotLexer
open Location

theorem checkedAdd_of_lt {a b : Nat} (h : a + b < UInt64.size) : checkedAdd a b = some (a + b) :=
  if_pos h

namespace Registers
variable {input : String} {r : Registers}

/-- All counters are within the bytes of the text. -/
structure Bounded (input : String) (r : Registers) : Prop where
  counts_le : r.line + r.column ≤ r.position
  position_le : r.position ≤ r.readPosition
  readPosition_le : r.readPosition ≤ input.utf8ByteSize

/-- Counters that are bounded before and after an advance do not overflow in it. -/
theorem Bounded.advanceChecked?_eq (h : r.Bounded input) (h' : (r.advance input).Bounded input)
    (small : input.utf8ByteSize < 2 ^ 63) : r.advanceChecked? input = some (r.advance input) := by
  obtain ⟨counts, position, read⟩ := h
  have behind := h'.readPosition_le
  rw [readPosition_advance] at behind
  have size : UInt64.size = 2 ^ 64 := rfl
  have read_fits := checkedAdd_of_lt (a := r.readPosition)
    (b := (charAt? input r.readPosition).elim 0 Char.utf8Size) (by omega)
  have line_fits := checkedAdd_of_lt (a := r.line) (b := 1) (by omega)
  have column_fits := checkedAdd_of_lt (a := r.column) (b := 1) (by omega)
  simp only [advanceChecked?, advance, read_fits]
  cases r.current? with
  | none => rfl
  | some c =>
      dsimp only
      split
      · rw [line_fits]
        rfl
      · rw [column_fits]
        rfl

end Registers

namespace Location
variable {input : String} {l : Location}

/-- Each character adds a byte at least, and one line or one column. -/
theorem line_add_column_le_after (h : l.line + l.column ≤ l.offset) (cs : List Char) :
    (l.after cs).line + (l.after cs).column ≤ (l.after cs).offset := by
  induction cs generalizing l with
  | nil => exact h
  | cons c cs ih =>
      apply ih
      have wide := c.utf8Size_pos
      unfold past
      split
      · dsimp only
        omega
      · dsimp only
        omega

theorem line_add_column_le_behind (before : List Char) :
    (behind before).line + (behind before).column ≤ (behind before).offset := by
  rw [← start_after]
  exact line_add_column_le_after (l := start) (Nat.le_refl 0) before

theorem text_eq (l : Location) : l.text =
    if l.line + 1 < UInt64.size ∧ l.column + 1 < UInt64.size then
      .ok (toString (l.line + 1) ++ ":" ++ toString (l.column + 1))
    else .error .overflow := by
  unfold text oneBased
  by_cases line : l.line + 1 < UInt64.size
  · by_cases column : l.column + 1 < UInt64.size
    · simp only [line, column, and_self, ↓reduceIte]
      rfl
    · simp only [line, column, and_false, ↓reduceIte]
      rfl
  · simp only [line, false_and, ↓reduceIte]
    rfl

theorem IsIn.text_eq (h : l.IsIn input) (small : input.utf8ByteSize < 2 ^ 63) :
    l.text = .ok (toString (l.line + 1) ++ ":" ++ toString (l.column + 1)) := by
  obtain ⟨before, ⟨rest, cut⟩, rfl⟩ := h
  have counts := line_add_column_le_behind before
  have bytes := byteCount_toList input
  rw [← cut, byteCount_append] at bytes
  have offset : (behind before).offset = byteCount before := rfl
  have size : UInt64.size = 2 ^ 64 := rfl
  rw [text_eq]
  exact if_pos (by omega)

end Location

theorem Cursor.Within.bounded {input : String} {k : Cursor} (h : k.Within input) :
    k.registers.Bounded input := by
  have tracks := h.tracks
  obtain ⟨before, -, place⟩ := h
  refine ⟨?_, tracks.position_le, tracks.readPosition_le⟩
  have counts := line_add_column_le_behind before
  rw [← place] at counts
  exact counts

theorem Registers.bounded_iterate (input : String) (n : Nat) :
    ((advance input)^[n] .initial).Bounded input := by
  cases n with
  | zero => exact ⟨Nat.le_refl 0, Nat.le_refl 0, Nat.zero_le _⟩
  | succ n =>
      rw [← Cursor.registers_iterate_ofString]
      exact ((Cursor.within_ofString input).iterate_advance n).bounded

namespace Grammar

theorem Narrates.exists_text {ts : List Token} {ds : List Diagnostic}
    {rs : List (Severity × Except TextError String)} (h : Narrates ts ds rs)
    (texts : ∀ d ∈ ds, ∃ s, d.location.text = .ok s) : ∀ r ∈ rs, ∃ s, r.2 = .ok s := by
  induction h with
  | done => exact List.forall_mem_nil _
  | legal legal rest ih => exact List.forall_mem_cons.mpr ⟨⟨_, rfl⟩, ih texts⟩
  | illegal illegal blames rest ih =>
      obtain ⟨⟨place, here⟩, later⟩ := List.forall_mem_cons.mp texts
      rw [here]
      exact List.forall_mem_cons.mpr ⟨⟨_, rfl⟩, List.forall_mem_cons.mpr ⟨⟨_, rfl⟩, ih later⟩⟩

end Grammar

theorem Diagnostic.exists_message {d : Diagnostic} {place : String}
    (h : d.location.text = .ok place) :
    (∃ s, (LogEntry.fault d).message = .ok s) ∧ ∃ s, d.report = .ok s := by
  have told := congrArg Prod.snd (LogEntry.record_fault d)
  rw [h] at told
  refine ⟨⟨_, told⟩, ?_⟩
  rw [report, h]
  exact ⟨_, rfl⟩

namespace Lexer

theorem exists_message_of_mem_tokenizeLogged {input : String} {v : Verbosity} {e : LogEntry}
    (small : input.utf8ByteSize < 2 ^ 63) (logged : e ∈ (tokenizeLogged v input).2) :
    ∃ s, e.message = .ok s := by
  obtain ⟨es, told, kept⟩ := exists_entries_tokenizeLogged input
  rw [kept] at logged
  have texts : ∀ d ∈ (ofString input).finish.2, ∃ s, d.location.text = .ok s := by
    intro d member
    exact ⟨_, (isIn_of_mem_finish member).text_eq small⟩
  exact told.exists_text texts e.record (List.mem_map_of_mem (List.mem_filter.mp logged).1)

/-- Over a text of less than 2 ^ 63 bytes, all registers are bounded by the text, and no advance
overflows. So every location that is named after a history has a text, as has all that is logged or
reported of a diagnostic. Any other location made of words has a text unless its line or its column
is the last word, and neither number wraps in it. -/
theorem no_overflow_of_history (input : String) (small : input.utf8ByteSize < 2 ^ 63)
    (as : List Action) :
    (∃ n, ((ofString input).performAll as).cursor.registers =
      (Registers.advance input)^[n + 1] .initial) ∧
    (∀ n, ((Registers.advance input)^[n] .initial).Bounded input ∧
      ((Registers.advance input)^[n] .initial).advanceChecked? input =
        some ((Registers.advance input)^[n + 1] .initial)) ∧
    (∀ l ∈ ((ofString input).performAll as).locations,
      l.text = .ok (toString (l.line + 1) ++ ":" ++ toString (l.column + 1))) ∧
    (∀ d ∈ ((ofString input).performAll as).diagnostics.toList ++
        ((ofString input).performAll as).finish.2,
      (∃ s, (LogEntry.fault d).message = .ok s) ∧ ∃ s, d.report = .ok s) ∧
    (∀ v, ∀ e ∈ (tokenizeLogged v input).2, ∃ s, e.message = .ok s) ∧
    ∀ offset line column : UInt64,
      Location.text ⟨offset.toNat, line.toNat, column.toNat⟩ =
        if line.toNat = 2 ^ 64 - 1 ∨ column.toNat = 2 ^ 64 - 1 then .error .overflow
        else .ok (toString (line.toNat + 1) ++ ":" ++ toString (column.toNat + 1)) := by
  refine ⟨exists_registers_eq_iterate input as, ?_, ?_, ?_, ?_, ?_⟩
  · intro n
    have here := Registers.bounded_iterate input n
    have next := Registers.bounded_iterate input (n + 1)
    rw [Function.iterate_succ_apply'] at next ⊢
    exact ⟨here, here.advanceChecked?_eq next small⟩
  · intro l named
    exact (isIn_of_mem_locations named).text_eq small
  · intro d member
    rw [diagnostics_append_finish] at member
    exact Diagnostic.exists_message ((isIn_of_mem_finish member).text_eq small)
  · intro v e logged
    exact exists_message_of_mem_tokenizeLogged small logged
  · intro offset line column
    have line_word := line.toNat_lt
    have column_word := column.toNat_lt
    have size : UInt64.size = 2 ^ 64 := rfl
    rw [text_eq]
    dsimp only
    by_cases last : line.toNat = 2 ^ 64 - 1 ∨ column.toNat = 2 ^ 64 - 1
    · rw [if_pos last, if_neg (by omega)]
    · rw [if_neg last, if_pos (by omega)]

theorem no_overflow_behind_line_feed :
    "é\n# func".utf8ByteSize < 2 ^ 63 ∧
    (⟨5, 1, 2⟩ : Location) ∈ ((ofString "é\n# func").performAll [.next, .count]).locations ∧
    Location.text ⟨5, 1, 2⟩ = .ok "2:3" ∧
    Location.text ⟨5, 1, 2 ^ 64 - 1⟩ = .error .overflow := by
  have small : "é\n# func".utf8ByteSize < 2 ^ 63 := by decide +kernel
  have named :
      (⟨5, 1, 2⟩ : Location) ∈ ((ofString "é\n# func").performAll [.next, .count]).locations := by
    decide +kernel
  obtain ⟨-, -, texts, -, -, words⟩ := no_overflow_of_history _ small [.next, .count]
  have shown : toString (1 + 1) ++ ":" ++ toString (2 + 1) = "2:3" := by decide +kernel
  have last : (18446744073709551615 : UInt64).toNat = 2 ^ 64 - 1 := rfl
  have refused := words 5 1 18446744073709551615
  rw [if_pos (.inr last)] at refused
  exact ⟨small, named, shown ▸ texts _ named, refused⟩

end Lexer
end PlotLexer
