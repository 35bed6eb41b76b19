import Mathlib.Logic.Function.Iterate
import PlotLexer.Proofs.Iteration
import PlotLexer.Proofs.Positions
import PlotLexer.Registers

/-!
Cursors as registers. Advancing the registers is advancing the cursor. However often that is done,
the offsets are character boundaries inside the text, and the current character is the one that
begins there. A lexer only ever advances its cursor, and every literal is the part of the text
between two such offsets.
-/
namespace PlotLexer
open Location

section Text
variable {input : String} {before part rest : List Char}

theorem pos?_offset (p : input.Pos) : input.pos? p.offset = some p := by
  have valid : p.offset.isValidForSlice input.toSlice := by
    simpa using p.isValid
  rw [String.pos?, String.Slice.pos?, dif_pos valid]
  rfl

theorem exists_pos? (cut : input.toList = before ++ rest) : ∃ p : input.Pos,
    input.pos? ⟨byteCount before⟩ = some p ∧
      p.Splits (String.ofList before) (String.ofList rest) := by
  obtain ⟨p, splits⟩ := exists_splits cut
  exact ⟨p, offset_of_splits splits ▸ pos?_offset p, splits⟩

theorem isValid_byteCount (cut : input.toList = before ++ rest) :
    String.Pos.Raw.IsValid input ⟨byteCount before⟩ := by
  obtain ⟨p, splits⟩ := exists_splits cut
  exact offset_of_splits splits ▸ p.isValid

theorem charAt?_eq_head? (cut : input.toList = before ++ rest) :
    charAt? input (byteCount before) = rest.head? := by
  obtain ⟨p, found, splits⟩ := exists_pos? cut
  rw [charAt?, found, Option.bind_some, String.Pos.get?, String.Slice.Pos.get?]
  cases rest with
  | nil =>
      have ended : p = input.endPos := splits.eq_endPos_iff.mpr String.ofList_nil
      have ended_slice : p.toSlice = input.toSlice.endPos := by
        simpa using ended
      rw [dif_pos ended_slice]
      rfl
  | cons c rest =>
      rw [String.ofList_cons] at splits
      have inside : p ≠ input.endPos := splits.ne_endPos_of_singleton
      have inside_slice : p.toSlice ≠ input.toSlice.endPos := by
        simpa using inside
      have here : p.get inside = c := splits.next.get_eq_of_singleton
      rw [dif_neg inside_slice]
      exact congrArg some here

theorem slice?_eq_ofList (cut : input.toList = before ++ (part ++ rest)) :
    slice? input (byteCount before) (byteCount before + byteCount part) =
      some (String.ofList part) := by
  obtain ⟨p, first, splits⟩ := exists_pos? cut
  rw [← List.append_assoc] at cut
  obtain ⟨q, last, splits'⟩ := exists_pos? cut
  rw [byteCount_append] at last
  have le : p ≤ q := by
    rw [splits.le_iff_exists_eq_append splits']
    exact ⟨String.ofList part, String.ofList_append, String.ofList_append⟩
  have le_slice : p.toSlice ≤ q.toSlice := String.Pos.toSlice_le.mpr le
  have whole : input = String.ofList before ++ (input.slice p q le).copy ++ String.ofList rest := by
    have three := input.toSlice.copy_eq_copy_slice (h := le_slice)
    rwa [String.copy_toSlice, String.sliceTo_toSlice, String.slice_toSlice,
      String.sliceFrom_toSlice, splits.copy_sliceTo_eq, splits'.copy_sliceFrom_eq] at three
  have copied : (input.slice p q le).copy = String.ofList part := by
    have same := congrArg String.toList (whole.symm.trans splits'.eq_append)
    simpa [← String.toList_inj] using same
  simp [slice?, first, last, String.slice?, le, copied]

end Text

namespace Registers

/-- The offsets and the current character agree with the text. -/
structure Tracks (input : String) (r : Registers) : Prop where
  position_le : r.position ≤ r.readPosition
  readPosition_le : r.readPosition ≤ input.utf8ByteSize
  isValid_position : String.Pos.Raw.IsValid input ⟨r.position⟩
  isValid_readPosition : String.Pos.Raw.IsValid input ⟨r.readPosition⟩
  current?_eq : r.current? = charAt? input r.position
  isSome_iff : r.current?.isSome ↔ r.position < input.utf8ByteSize
  eq_none_iff : r.current? = none ↔ r.position = input.utf8ByteSize
  readPosition_eq : r.readPosition = r.position + r.current?.elim 0 Char.utf8Size

/-- A literal is the part of the text from the current character of some registers up to and
including the current character of others. -/
structure Cuts (input literal : String) (first last : Registers) : Prop where
  ne_empty : literal ≠ ""
  lt : first.position < last.readPosition
  slice?_eq : slice? input first.position last.readPosition = some literal

end Registers

namespace Cursor
variable {input : String} {k : Cursor}

def registers (k : Cursor) : Registers :=
  ⟨k.location.offset, k.nextOffset, k.current?, k.location.line, k.location.column⟩

/-- What is left at the cursor is all the text from its offset on. Line and column may be any. -/
def Aligned (input : String) (k : Cursor) : Prop :=
  ∃ before, input.toList = before ++ k.rest ∧ k.location.offset = byteCount before

/-- What is left at the cursor is the end of the text, and its location counts what is before. -/
def Within (input : String) (k : Cursor) : Prop :=
  ∃ before, input.toList = before ++ k.rest ∧ k.location = .behind before

theorem Aligned.after (h : k.Aligned input) {cs rest : List Char} (split : k.rest = cs ++ rest) :
    Aligned input ⟨rest, k.location.after cs⟩ := by
  obtain ⟨before, cut, place⟩ := h
  refine ⟨before ++ cs, ?_, ?_⟩
  · rw [cut, split, List.append_assoc]
  · rw [offset_after, place, byteCount_append]

theorem Aligned.advance (h : k.Aligned input) : k.advance.Aligned input := by
  obtain ⟨rest, l⟩ := k
  cases rest with
  | nil => exact h
  | cons c rest => exact h.after (List.singleton_append (x := c) (l := rest)).symm

theorem Aligned.isValid_offset (h : k.Aligned input) :
    String.Pos.Raw.IsValid input ⟨k.location.offset⟩ := by
  obtain ⟨before, cut, place⟩ := h
  rw [place]
  exact isValid_byteCount cut

theorem Aligned.utf8ByteSize_eq (h : k.Aligned input) :
    input.utf8ByteSize = k.location.offset + byteCount k.rest := by
  obtain ⟨before, cut, place⟩ := h
  rw [place, ← byteCount_append, ← cut, byteCount_toList]

theorem Aligned.charAt?_offset (h : k.Aligned input) :
    charAt? input k.location.offset = k.current? := by
  obtain ⟨before, cut, place⟩ := h
  rw [place]
  exact charAt?_eq_head? cut

theorem within_ofString (input : String) : (ofString input).Within input :=
  ⟨[], rfl, rfl⟩

theorem Within.aligned (h : k.Within input) : k.Aligned input := by
  obtain ⟨before, cut, place⟩ := h
  exact ⟨before, cut, congrArg offset place⟩

theorem Within.advance (h : k.Within input) : k.advance.Within input := by
  obtain ⟨before, cut, place⟩ := h
  obtain ⟨rest, l⟩ := k
  cases rest with
  | nil => exact ⟨before, cut, place⟩
  | cons c rest =>
      refine ⟨before ++ [c], ?_, ?_⟩
      · rw [cut, List.append_assoc, List.singleton_append]
        rfl
      · rw [← past_behind, ← place]
        rfl

theorem Within.iterate_advance (h : k.Within input) (n : Nat) :
    (Cursor.advance^[n] k).Within input := by
  induction n generalizing k with
  | zero => exact h
  | succ n ih => exact ih h.advance

theorem Within.after (h : k.Within input) {cs rest : List Char} (split : k.rest = cs ++ rest) :
    Within input ⟨rest, k.location.after cs⟩ := by
  obtain ⟨before, cut, place⟩ := h
  refine ⟨before ++ cs, ?_, ?_⟩
  · rw [cut, split, List.append_assoc]
  · rw [place]
    exact after_behind before cs

theorem nextOffset_eq_elim (k : Cursor) :
    k.nextOffset = k.location.offset + k.current?.elim 0 Char.utf8Size := by
  rw [nextOffset]
  cases k.current? <;> rfl

theorem nextOffset_eq_offset_advance (k : Cursor) : k.nextOffset = k.advance.location.offset := by
  obtain ⟨rest, l⟩ := k
  cases rest with
  | nil => rfl
  | cons c rest => exact (offset_past l c).symm

theorem registers_ofString (input : String) :
    (ofString input).registers = Registers.initial.advance input := by
  have first : charAt? input 0 = (ofString input).current? :=
    (within_ofString input).aligned.charAt?_offset
  simp only [registers, Registers.advance, Registers.initial, nextOffset_eq_elim, first]
  rfl

/-- The character looked up is the one that the cursor holds next. -/
theorem Aligned.registers_advance (h : k.Aligned input) :
    k.advance.registers = k.registers.advance input := by
  have next : charAt? input k.nextOffset = k.advance.current? := by
    rw [nextOffset_eq_offset_advance]
    exact h.advance.charAt?_offset
  have behind : k.advance.nextOffset = k.nextOffset + k.advance.current?.elim 0 Char.utf8Size := by
    rw [nextOffset_eq_elim, nextOffset_eq_offset_advance]
  simp only [registers, Registers.advance, next, behind, ← nextOffset_eq_offset_advance]
  obtain ⟨rest, l⟩ := k
  cases rest with
  | nil => rfl
  | cons c rest =>
      simp only [current?, List.head?_cons, Cursor.advance, past]
      split <;> rfl

theorem Within.registers_iterate (h : k.Within input) (n : Nat) :
    (Cursor.advance^[n] k).registers = (Registers.advance input)^[n] k.registers := by
  induction n generalizing k with
  | zero => rfl
  | succ n ih =>
      rw [Function.iterate_succ_apply, Function.iterate_succ_apply, ih h.advance,
        h.aligned.registers_advance]

/-- The initial registers are one advance before those of a fresh cursor. -/
theorem registers_iterate_ofString (input : String) (n : Nat) :
    (Cursor.advance^[n] (.ofString input)).registers =
      (Registers.advance input)^[n + 1] .initial := by
  rw [(within_ofString input).registers_iterate, registers_ofString, Function.iterate_succ_apply]

theorem Aligned.tracks (h : k.Aligned input) : k.registers.Tracks input := by
  have valid_next := h.advance.isValid_offset
  rw [← nextOffset_eq_offset_advance] at valid_next
  have current := h.charAt?_offset.symm
  have valid := h.isValid_offset
  have size := h.utf8ByteSize_eq
  obtain ⟨rest, l⟩ := k
  cases rest with
  | nil =>
      have ended : input.utf8ByteSize = l.offset := size
      refine ⟨Nat.le_refl _, Nat.le_of_eq ended.symm, valid, valid_next, current, ?_, ?_, rfl⟩
      · exact iff_of_false Bool.false_ne_true (Nat.not_lt_of_le (Nat.le_of_eq ended))
      · exact iff_of_true rfl ended.symm
  | cons c rest =>
      have inside : input.utf8ByteSize = l.offset + (c.utf8Size + byteCount rest) := size
      have wide := c.utf8Size_pos
      refine ⟨Nat.le_add_right _ _, ?_, valid, valid_next, current, ?_, ?_, rfl⟩
      · simp only [registers, nextOffset, current?, List.head?_cons]
        omega
      · refine iff_of_true rfl ?_
        dsimp only [registers]
        omega
      · refine iff_of_false (Option.some_ne_none c) ?_
        dsimp only [registers]
        omega

theorem Within.tracks (h : k.Within input) : k.registers.Tracks input :=
  h.aligned.tracks

theorem Aligned.slice?_eq (h : k.Aligned input) {part rest : List Char}
    (split : k.rest = part ++ rest) :
    slice? input k.location.offset (k.location.after part).offset =
      some (String.ofList part) := by
  obtain ⟨before, cut, place⟩ := h
  rw [split] at cut
  rw [offset_after, place]
  exact slice?_eq_ofList cut

theorem Aligned.slice?_rest (h : k.Aligned input) :
    slice? input k.location.offset input.utf8ByteSize = some (String.ofList k.rest) := by
  have cut := h.slice?_eq (List.append_nil k.rest).symm
  rwa [offset_after, ← h.utf8ByteSize_eq] at cut

theorem iterate_advance_append (cs rest : List Char) (l : Location) :
    advance^[cs.length] ⟨cs ++ rest, l⟩ = ⟨rest, l.after cs⟩ := by
  induction cs generalizing l with
  | nil => rfl
  | cons c cs ih => exact ih (l.past c)

/-- From the first to the last character of what is ahead, it is cut out of the text. -/
theorem Within.exists_cuts (h : k.Within input) {part rest : List Char}
    (split : k.rest = part ++ rest) (nonempty : part ≠ []) : ∃ j, part.length = j + 1 ∧
      Registers.Cuts input (String.ofList part) k.registers
        ((Registers.advance input)^[j] k.registers) := by
  obtain ⟨j, length⟩ : ∃ j, part.length = j + 1 :=
    Nat.exists_eq_add_one.mpr (List.length_pos_iff.mpr nonempty)
  have passed : Cursor.advance^[j + 1] k = ⟨rest, k.location.after part⟩ := by
    rw [← length, ← iterate_advance_append, ← split]
  have last : (Cursor.advance^[j] k).nextOffset = (k.location.after part).offset := by
    rw [nextOffset_eq_offset_advance, ← Function.iterate_succ_apply' Cursor.advance, passed]
  refine ⟨j, length, ?_⟩
  rw [← h.registers_iterate]
  refine ⟨?_, ?_, ?_⟩
  · intro empty
    exact nonempty (String.ofList_eq_empty_iff.mp empty)
  · dsimp only [registers]
    rw [last, offset_after]
    exact Nat.lt_add_of_pos_right (byteCount_pos nonempty)
  · dsimp only [registers]
    rw [last]
    exact h.aligned.slice?_eq split

end Cursor

namespace Lexer
open Grammar
variable {l m : Lexer} {y : Layout}

theorem Passes.cursor_eq (passed : l.Passes y m) :
    m.cursor = Cursor.advance^[y.text.length] l.cursor := by
  obtain ⟨⟨rest, loc⟩, ds⟩ := l
  obtain ⟨⟨rest', loc'⟩, ds'⟩ := m
  obtain ⟨-, rfl, -, location, -⟩ := passed
  have here : loc' = loc.after y.text := location
  dsimp only
  rw [Cursor.iterate_advance_append, here]

theorem Passes.registers_eq {input : String} (passed : l.Passes y m)
    (h : l.cursor.Within input) :
    m.cursor.registers = (Registers.advance input)^[y.text.length] l.cursor.registers := by
  rw [passed.cursor_eq, h.registers_iterate]

theorem within_performAll (input : String) (as : List Action) :
    ((ofString input).performAll as).cursor.Within input := by
  obtain ⟨y, passed, -⟩ := Passes.performAll (ofString input) as
  rw [passed.cursor_eq]
  exact (Cursor.within_ofString input).iterate_advance _

theorem exists_registers_eq_iterate (input : String) (as : List Action) :
    ∃ n, ((ofString input).performAll as).cursor.registers =
      (Registers.advance input)^[n + 1] .initial := by
  obtain ⟨y, passed, -⟩ := Passes.performAll (ofString input) as
  refine ⟨y.text.length, ?_⟩
  rw [passed.cursor_eq]
  exact Cursor.registers_iterate_ofString input _

theorem exists_cuts_of_next?_some {input : String} {t : Token} (h : l.cursor.Within input)
    (step : l.next? = (some t, m)) : ∃ n j,
    Registers.Cuts input t.literal ((Registers.advance input)^[n] l.cursor.registers)
        ((Registers.advance input)^[n + j] l.cursor.registers) ∧
      m.cursor.registers = (Registers.advance input)^[n + j + 1] l.cursor.registers := by
  obtain ⟨lead, -, ht, passed⟩ := Passes.of_next?_some step
  have text := Layout.text_single lead t
  have first : Cursor.advance^[lead.length] l.cursor =
      ⟨t.literal.toList ++ m.cursor.rest, l.location.after lead⟩ := by
    rw [← Cursor.iterate_advance_append, ← List.append_assoc, ← text, ← passed.rest]
    rfl
  obtain ⟨j, length, cuts⟩ := (h.iterate_advance lead.length).exists_cuts
    (congrArg Cursor.rest first) ht.literal_ne_nil
  rw [String.ofList_toList, h.registers_iterate, ← Function.iterate_add_apply,
    Nat.add_comm j] at cuts
  refine ⟨lead.length, j, cuts, ?_⟩
  rw [passed.registers_eq h, text, List.length_append, length]
  rfl

/-- After any history the registers are the initial ones, advanced once and then some more, and
all such registers agree with the text. A scan advances them further, and gives the end of input,
or else a literal that is not empty and is cut out of the text between two of them. -/
theorem tracks_of_history (input : String) (as : List Action) :
    (∃ n, ((ofString input).performAll as).cursor.registers =
      (Registers.advance input)^[n + 1] .initial) ∧
    (∀ n, ((Registers.advance input)^[n + 1] .initial).Tracks input) ∧
    ((((ofString input).performAll as).scan.1 = .endOfInput ∧
        ∃ n, ((ofString input).performAll as).scan.2.cursor.registers =
          (Registers.advance input)^[n] ((ofString input).performAll as).cursor.registers) ∨
      ∃ n j, Registers.Cuts input ((ofString input).performAll as).scan.1.literal
          ((Registers.advance input)^[n] ((ofString input).performAll as).cursor.registers)
          ((Registers.advance input)^[n + j] ((ofString input).performAll as).cursor.registers) ∧
        ((ofString input).performAll as).scan.2.cursor.registers =
          (Registers.advance input)^[n + j + 1]
            ((ofString input).performAll as).cursor.registers) := by
  have inside := within_performAll input as
  refine ⟨exists_registers_eq_iterate input as, ?_, ?_⟩
  · intro n
    rw [← Cursor.registers_iterate_ofString]
    exact ((Cursor.within_ofString input).iterate_advance n).tracks
  generalize (ofString input).performAll as = l at inside
  cases step : l.next? with
  | mk t? m =>
      have behind : l.scan.2 = m := congrArg Prod.snd step
      rw [scan_fst, behind]
      cases t? with
      | none =>
          rw [drain_of_none step]
          exact .inl ⟨rfl, _, (Passes.of_next?_none step).registers_eq inside⟩
      | some t =>
          rw [drain_of_some step]
          exact .inr (exists_cuts_of_next?_some inside step)

end Lexer
end PlotLexer
