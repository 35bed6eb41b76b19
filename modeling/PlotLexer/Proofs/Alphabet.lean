import Mathlib.Data.List.Basic
import Mathlib.Data.List.TakeWhile
import PlotLexer.Alphabet

/-!
The classes of the alphabet exclude each other, and blanks join nothing. A text may be cut
wherever its two sides are apart.
-/
namespace PlotLexer
variable {c d : Char}

theorem isBlank_iff : isBlank c ↔ c = ' ' ∨ c = '\t' ∨ c = '\n' ∨ c = '\r' := by
  simp only [isBlank, Bool.or_eq_true, beq_iff_eq, or_assoc]

theorem isLetter_iff_toNat :
    isLetter c ↔ (65 ≤ c.toNat ∧ c.toNat ≤ 90) ∨ (97 ≤ c.toNat ∧ c.toNat ≤ 122) ∨ c.toNat = 95 := by
  have upper : c.isUpper ↔ 65 ≤ c.toNat ∧ c.toNat ≤ 90 := decide_eq_true_iff
  have lower : c.isLower ↔ 97 ≤ c.toNat ∧ c.toNat ≤ 122 :=
    Bool.and_eq_true_iff.trans (and_congr decide_eq_true_iff decide_eq_true_iff)
  have alpha : c.isAlpha ↔ c.isUpper ∨ c.isLower := Bool.or_eq_true_iff
  have underscore : c = '_' ↔ c.toNat = 95 := Char.toNat_inj.symm
  rw [isLetter, Bool.or_eq_true, alpha, upper, lower, beq_iff_eq, underscore, or_assoc]

theorem isDigit_iff_toNat : isDigit c ↔ 48 ≤ c.toNat ∧ c.toNat ≤ 57 :=
  Char.isDigit_iff_toNat

theorem isLetter_of_isBlank (h : isBlank c) : isLetter c = false := by
  rcases isBlank_iff.mp h with rfl | rfl | rfl | rfl <;> rfl

theorem isDigit_of_isBlank (h : isBlank c) : isDigit c = false := by
  rcases isBlank_iff.mp h with rfl | rfl | rfl | rfl <;> rfl

theorem isDigit_of_isLetter (h : isLetter c) : isDigit c = false := by
  rw [Bool.eq_false_iff]
  intro hd
  have range := isDigit_iff_toNat.mp hd
  have letter := isLetter_iff_toNat.mp h
  omega

theorem isLetter_of_isDigit (h : isDigit c) : isLetter c = false := by
  rw [Bool.eq_false_iff]
  intro hl
  exact Bool.eq_false_iff.mp (isDigit_of_isLetter hl) h

theorem isBlank_of_isLetter (h : isLetter c) : isBlank c = false := by
  rw [Bool.eq_false_iff]
  intro hb
  exact Bool.eq_false_iff.mp (isLetter_of_isBlank hb) h

theorem isBlank_of_isDigit (h : isDigit c) : isBlank c = false := by
  rw [Bool.eq_false_iff]
  intro hb
  exact Bool.eq_false_iff.mp (isDigit_of_isBlank hb) h

theorem joins_iff : joins c d ↔ isLetter c ∧ isLetter d ∨ isDigit c ∧ isDigit d := by
  simp only [joins, Bool.or_eq_true, Bool.and_eq_true]

theorem joins_comm (c d : Char) : joins c d = joins d c := by
  simp only [joins, Bool.and_comm]

theorem joins_of_isBlank_left (h : isBlank c) : joins c d = false := by
  simp only [joins, isLetter_of_isBlank h, isDigit_of_isBlank h, Bool.false_and, Bool.or_false]

theorem joins_of_isBlank_right (h : isBlank d) : joins c d = false := by
  simp only [joins, isLetter_of_isBlank h, isDigit_of_isBlank h, Bool.and_false, Bool.or_false]

/-- A symbol or a stray character stands alone. -/
theorem joins_of_not_isLetter (hl : isLetter c = false) (hd : isDigit c = false) :
    joins c d = false := by
  simp only [joins, hl, hd, Bool.false_and, Bool.or_false]

/-- A class whose characters join one another and nothing else. -/
def Joining (p : Char → Bool) : Prop :=
  ∀ c d, p c → joins c d = p d

theorem joining_isLetter : Joining isLetter := by
  intro c d h
  simp only [joins, h, isDigit_of_isLetter h, Bool.true_and, Bool.false_and, Bool.or_false]

theorem joining_isDigit : Joining isDigit := by
  intro c d h
  simp only [joins, h, isLetter_of_isDigit h, Bool.true_and, Bool.false_and, Bool.false_or]

/-- What stands at the end of one text does not join what stands at the head of the next. -/
def Apart (cs ds : List Char) : Prop :=
  ∀ c ∈ cs.getLast?, ∀ d ∈ ds.head?, joins c d = false

instance (cs ds : List Char) : Decidable (Apart cs ds) :=
  @Option.decidableForallMem _ _ (fun _ => Option.decidableForallMem _) _

namespace Apart
variable {cs ds es : List Char} {p : Char → Bool}

@[simp] theorem nil_left (ds : List Char) : Apart [] ds := by
  intro c hc
  cases hc

@[simp] theorem nil_right (cs : List Char) : Apart cs [] := by
  intro c _ d hd
  cases hd

theorem of_blank_right (h : ∀ d ∈ ds, isBlank d) : Apart cs ds := by
  intro c _ d hd
  exact joins_of_isBlank_right (h d (List.mem_of_head? hd))

theorem of_blank_left (h : ∀ c ∈ cs, isBlank c) : Apart cs ds := by
  intro c hc d _
  exact joins_of_isBlank_left (h c (List.mem_of_getLast? hc))

/-- A character that joins nothing may be cut off on either side. -/
theorem of_single_left (hl : isLetter c = false) (hd : isDigit c = false) (ds : List Char) :
    Apart [c] ds := by
  intro a ha e _
  rw [← Option.some.inj ha]
  exact joins_of_not_isLetter hl hd

theorem of_single_right (hl : isLetter c = false) (hd : isDigit c = false) (cs ds : List Char) :
    Apart cs (c :: ds) := by
  intro a _ e he
  rw [← Option.some.inj he, joins_comm]
  exact joins_of_not_isLetter hl hd

theorem append_right_iff (h : ds ≠ []) : Apart cs (ds ++ es) ↔ Apart cs ds := by
  rw [Apart, Apart, List.head?_append_of_ne_nil _ h]

theorem append_left_iff (h : ds ≠ []) : Apart (cs ++ ds) es ↔ Apart ds es := by
  rw [Apart, Apart, List.getLast?_append_of_ne_nil _ h]

/-- A run of one class is apart from whatever does not begin with that class. -/
theorem iff_of_forall (hp : Joining p) (nonempty : cs ≠ []) (run : ∀ c ∈ cs, p c) :
    Apart cs ds ↔ ∀ d ∈ ds.head?, p d = false := by
  constructor
  · intro apart d hd
    have last : cs.getLast nonempty ∈ cs.getLast? := List.getLast_mem_getLast? nonempty
    rw [← hp _ d (run _ (List.getLast_mem nonempty))]
    exact apart _ last d hd
  · intro stop c hc d hd
    rw [hp c d (run c (List.mem_of_getLast? hc))]
    exact stop d hd

theorem comm_iff : Apart cs ds ↔ Apart ds.reverse cs.reverse := by
  simp only [Apart, List.getLast?_reverse, List.head?_reverse]
  constructor
  · intro apart d hd c hc
    rw [joins_comm]
    exact apart c hc d hd
  · intro apart c hc d hd
    rw [joins_comm]
    exact apart d hd c hc

/-- A run of one class is apart from whatever does not end with that class. -/
theorem iff_of_forall_right (hp : Joining p) (nonempty : ds ≠ []) (run : ∀ d ∈ ds, p d) :
    Apart cs ds ↔ ∀ c ∈ cs.getLast?, p c = false := by
  have reversed : ∀ d ∈ ds.reverse, p d := by
    intro d hd
    exact run d (List.mem_reverse.mp hd)
  rw [comm_iff, iff_of_forall hp (List.reverse_ne_nil_iff.mpr nonempty) reversed, List.head?_reverse]

/-- A run of one class cut in two is not apart. -/
theorem not_of_forall (hp : Joining p) (left : cs ≠ []) (right : ds ≠ [])
    (run : ∀ c ∈ cs ++ ds, p c) : ¬ Apart cs ds := by
  obtain ⟨runs_left, runs_right⟩ := List.forall_mem_append.mp run
  intro apart
  have stop := (iff_of_forall hp left runs_left).mp apart _ (List.head?_eq_some_head right)
  exact Bool.eq_false_iff.mp stop (runs_right _ (List.head_mem right))

theorem takeWhile_eq (hp : Joining p) (nonempty : cs ≠ []) (run : ∀ c ∈ cs, p c)
    (apart : Apart cs ds) : (cs ++ ds).takeWhile p = cs := by
  have stop := (iff_of_forall hp nonempty run).mp apart
  rw [List.takeWhile_append_of_pos run]
  cases ds with
  | nil => rw [List.takeWhile_nil, List.append_nil]
  | cons d ds =>
      have hd : p d = false := stop d rfl
      rw [List.takeWhile_cons_of_neg (Bool.eq_false_iff.mp hd), List.append_nil]

/-- Longest runs end apart from the rest. -/
theorem takeWhile_dropWhile (hp : Joining p) (cs : List Char) :
    Apart (cs.takeWhile p) (cs.dropWhile p) := by
  by_cases nonempty : cs.takeWhile p = []
  · rw [nonempty]
    exact nil_left _
  · refine (iff_of_forall hp nonempty fun c hc => List.mem_takeWhile_imp hc).mpr ?_
    intro d hd
    have stop := List.head?_dropWhile_not p cs
    rw [Option.mem_def.mp hd] at stop
    exact stop

/-- Text that was apart from all that followed is apart from the head of it. -/
theorem of_append_right (h : Apart cs (ds ++ es)) : Apart cs ds := by
  cases ds with
  | nil => exact nil_right cs
  | cons d ds => exact (append_right_iff (List.cons_ne_nil d ds)).mp h

theorem of_append_left (h : Apart (cs ++ ds) es) : Apart ds es := by
  by_cases empty : ds = []
  · rw [empty]
    exact nil_left es
  · exact (append_left_iff empty).mp h

theorem append_right (h : Apart cs ds) (h' : ds = [] → Apart cs es) : Apart cs (ds ++ es) := by
  by_cases empty : ds = []
  · rw [empty, List.nil_append]
    exact h' empty
  · exact (append_right_iff empty).mpr h

theorem append_left (h : Apart ds es) (h' : ds = [] → Apart cs es) : Apart (cs ++ ds) es := by
  by_cases empty : ds = []
  · rw [empty, List.append_nil]
    exact h' empty
  · exact (append_left_iff empty).mpr h

end Apart
end PlotLexer
