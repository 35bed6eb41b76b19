import Mathlib
import PlotLexer.Proofs.Overflow

/-!
What a report tells. Its line and its column end at a colon, as does the name of its fault, and none
of the three has a colon in it. So a report can be cut into its parts whatever character it shows,
and it tells all of its diagnostic but the offset.
-/
namespace PlotLexer
variable {d d' : Diagnostic}

/-- What stands before the first mark is told by the whole, if there is no mark in it. -/
theorem eq_of_append_mark {α : Type} {mark : α} {xs ys us vs : List α} (hx : mark ∉ xs)
    (hy : mark ∉ ys) (same : xs ++ mark :: us = ys ++ mark :: vs) : xs = ys ∧ us = vs := by
  induction xs generalizing ys with
  | nil =>
      cases ys with
      | nil => exact ⟨rfl, (List.cons.inj same).2⟩
      | cons y ys => exact absurd ((List.cons.inj same).1 ▸ List.mem_cons_self) hy
  | cons x xs ih =>
      cases ys with
      | nil => exact absurd ((List.cons.inj same).1 ▸ List.mem_cons_self) hx
      | cons y ys =>
          obtain ⟨head, tail⟩ := List.cons.inj same
          obtain ⟨alike, rest⟩ := ih (List.not_mem_of_not_mem_cons hx)
            (List.not_mem_of_not_mem_cons hy) tail
          exact ⟨congrArg₂ List.cons head alike, rest⟩

theorem colon_notMem_repr (n : Nat) : ':' ∉ n.repr.toList := by
  intro member
  rw [Nat.toList_repr] at member
  have digit : ':'.isDigit := Nat.isDigit_of_mem_toDigits (by decide) (by decide) member
  cases digit

namespace Fault

theorem colon_notMem_name (f : Fault) : ':' ∉ f.name.toList := by
  cases f with
  | illegalCharacter c =>
      rw [name_illegalCharacter]
      decide
  | reservedKeyword k =>
      rw [name_reservedKeyword]
      decide

theorem name_ne (c : Char) (k : Keyword) :
    name (.illegalCharacter c) ≠ name (.reservedKeyword k) := by
  rw [name_illegalCharacter, name_reservedKeyword]
  decide

/-- The name tells which fault it is, and the message of that fault what is at fault. -/
theorem eq_of_name_of_message {f f' : Fault} (name : f.name = f'.name)
    (message : f.message = f'.message) : f = f' := by
  cases f with
  | illegalCharacter c =>
      cases f' with
      | illegalCharacter c' =>
          have raw := (String.append_right_inj _).mp ((String.append_left_inj _).mp message)
          rw [String.singleton_inj.mp raw]
      | reservedKeyword k' => exact absurd name (name_ne c k')
  | reservedKeyword k =>
      cases f' with
      | illegalCharacter c' => exact absurd name (name_ne c' k).symm
      | reservedKeyword k' =>
          have spelling := (String.append_right_inj _).mp ((String.append_left_inj _).mp message)
          rw [Keyword.spelling_injective k k' spelling]

end Fault

namespace Diagnostic

/-- The report of a diagnostic whose line and column can be counted from one. -/
def shown (d : Diagnostic) : String :=
  toString (d.location.line + 1) ++ ":" ++ toString (d.location.column + 1) ++ ": " ++
    d.fault.name ++ ": " ++ d.fault.message

theorem report_eq_map (d : Diagnostic) : d.report =
    d.location.text.map fun place => place ++ ": " ++ d.fault.name ++ ": " ++ d.fault.message := by
  rw [report]
  cases d.location.text <;> rfl

theorem report_eq_shown (line : d.location.line < 2 ^ 64 - 1)
    (column : d.location.column < 2 ^ 64 - 1) : d.report = .ok d.shown := by
  have size : UInt64.size = 2 ^ 64 := rfl
  rw [report_eq_map, Location.text_eq, if_pos (by omega)]
  rfl

example : report ⟨⟨4, 1, 0⟩, .reservedKeyword .func⟩ =
    .ok "2:1: ReservedKeyword: `func` is a reserved word and can't be used yet" := by
  decide +kernel

theorem toList_shown (d : Diagnostic) : d.shown.toList =
    (d.location.line + 1).repr.toList ++ ':' :: ((d.location.column + 1).repr.toList ++
      ':' :: ' ' :: (d.fault.name.toList ++ ':' :: ' ' :: d.fault.message.toList)) := by
  simp [shown]

theorem shown_eq_iff : d.shown = d'.shown ↔ d.location.line = d'.location.line ∧
    d.location.column = d'.location.column ∧ d.fault = d'.fault := by
  constructor
  · intro same
    have parts := congrArg String.toList same
    rw [toList_shown, toList_shown] at parts
    obtain ⟨lines, rest⟩ :=
      eq_of_append_mark (colon_notMem_repr _) (colon_notMem_repr _) parts
    obtain ⟨columns, rest⟩ :=
      eq_of_append_mark (colon_notMem_repr _) (colon_notMem_repr _) rest
    obtain ⟨names, messages⟩ :=
      eq_of_append_mark d.fault.colon_notMem_name d'.fault.colon_notMem_name (List.cons.inj rest).2
    have line := Nat.repr_injective (String.toList_inj.mp lines)
    have column := Nat.repr_injective (String.toList_inj.mp columns)
    refine ⟨Nat.succ.inj line, Nat.succ.inj column, ?_⟩
    exact Fault.eq_of_name_of_message (String.toList_inj.mp names)
      (String.toList_inj.mp (List.cons.inj messages).2)
  · rintro ⟨line, column, fault⟩
    rw [shown, shown, line, column, fault]

/-- Two diagnostics whose lines and columns can be counted in words have reports, and these are equal
if and only if the lines, the columns and the faults are. Nothing but the offset is not told. -/
theorem reports_eq_iff (d d' : Diagnostic)
    (line : d.location.line < 2 ^ 64 - 1) (column : d.location.column < 2 ^ 64 - 1)
    (line' : d'.location.line < 2 ^ 64 - 1) (column' : d'.location.column < 2 ^ 64 - 1) :
    ∃ s s', d.report = .ok s ∧ d'.report = .ok s' ∧
      (s = s' ↔ d.location.line = d'.location.line ∧
        d.location.column = d'.location.column ∧ d.fault = d'.fault) :=
  ⟨d.shown, d'.shown, report_eq_shown line column, report_eq_shown line' column', shown_eq_iff⟩

theorem reports_eq_at_other_offset_alone :
    (0 < 2 ^ 64 - 1 ∧ 2 ^ 64 - 2 < 2 ^ 64 - 1) ∧
    report ⟨⟨0, 0, 2 ^ 64 - 2⟩, .illegalCharacter ':'⟩ =
      report ⟨⟨7, 0, 2 ^ 64 - 2⟩, .illegalCharacter ':'⟩ ∧
    report ⟨⟨0, 0, 2 ^ 64 - 2⟩, .illegalCharacter ':'⟩ ≠
      report ⟨⟨0, 0, 2 ^ 64 - 2⟩, .illegalCharacter '`'⟩ := by
  have first : 0 < 2 ^ 64 - 1 := by decide
  have last : 2 ^ 64 - 2 < 2 ^ 64 - 1 := by decide
  obtain ⟨s, s', report, report', same⟩ := reports_eq_iff ⟨⟨0, 0, 2 ^ 64 - 2⟩, .illegalCharacter ':'⟩
    ⟨⟨7, 0, 2 ^ 64 - 2⟩, .illegalCharacter ':'⟩ first last first last
  obtain ⟨u, u', told, told', other⟩ := reports_eq_iff ⟨⟨0, 0, 2 ^ 64 - 2⟩, .illegalCharacter ':'⟩
    ⟨⟨0, 0, 2 ^ 64 - 2⟩, .illegalCharacter '`'⟩ first last first last
  refine ⟨⟨first, last⟩, ?_, ?_⟩
  · rw [report, report', same.mpr ⟨rfl, rfl, rfl⟩]
  · intro equal
    rw [told, told'] at equal
    cases (other.mp (Except.ok.inj equal)).2.2

end Diagnostic
end PlotLexer
