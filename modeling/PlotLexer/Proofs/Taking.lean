import PlotLexer.Proofs.Scanning

/-!
Every way to consume a lexer takes some number of tokens from it and leaves it where `take`
does, so every history of actions is one `take`.
-/
namespace PlotLexer.Lexer
open Grammar
variable {l m : Lexer} {t : Token}

@[elab_as_elim] theorem induction {motive : Lexer → Prop}
    (none : ∀ l m, l.next? = (none, m) → motive l)
    (some : ∀ l m t, l.next? = (some t, m) → motive m → motive l) (l : Lexer) : motive l := by
  induction h : l.cursor.rest.length using Nat.strong_induction_on generalizing l with
  | h n ih =>
      cases step : l.next? with
      | mk t? m =>
          cases t? with
          | none => exact none l m step
          | some t => exact some l m t step (ih _ (h ▸ length_rest_next?_lt step) m rfl)

theorem next?_eq_none_iff : l.next? = (none, m) ↔ (∀ c ∈ l.cursor.rest, isBlank c) ∧
    m = ⟨⟨[], l.location.after l.cursor.rest⟩, l.diagnostics⟩ := by
  obtain ⟨⟨rest, loc⟩, ds⟩ := l
  rcases blank_or_token rest with blanks | ⟨lead, u, behind, lead_blank, hu, apart, rfl⟩
  · rw [next?_blank blanks, Prod.mk.injEq]
    exact and_congr ⟨fun _ => blanks, fun _ => rfl⟩ eq_comm
  · rw [next?_token lead_blank hu apart]
    constructor
    · intro h
      cases h
    · rintro ⟨blanks, -⟩
      exact absurd blanks (hu.not_blank lead behind)

/-- A token is taken where blanks and its literal are next, and nothing extends the literal. -/
theorem next?_eq_some_iff : l.next? = (some t, m) ↔ ∃ lead behind, (∀ c ∈ lead, isBlank c) ∧
    WellFormed t ∧ Apart t.literal.toList behind ∧
    l.cursor.rest = lead ++ (t.literal.toList ++ behind) ∧
    m = ⟨⟨behind, l.location.after (lead ++ t.literal.toList)⟩,
      l.diagnostics ++ (t.fault?.map (⟨l.location.after lead, ·⟩)).toList.toArray⟩ := by
  obtain ⟨⟨rest, loc⟩, ds⟩ := l
  constructor
  · intro step
    rcases blank_or_token rest with blanks | ⟨lead, u, behind, lead_blank, hu, apart, rfl⟩
    · cases (next?_blank blanks loc ds).symm.trans step
    · cases (next?_token lead_blank hu apart loc ds).symm.trans step
      exact ⟨lead, behind, lead_blank, hu, apart, rfl, rfl⟩
  · rintro ⟨lead, behind, lead_blank, ht, apart, ahead, rfl⟩
    obtain rfl : rest = lead ++ (t.literal.toList ++ behind) := ahead
    exact next?_token lead_blank ht apart loc ds

theorem next?_of_none (h : l.next? = (none, m)) : m.next? = (none, m) := by
  obtain ⟨-, rfl⟩ := next?_eq_none_iff.mp h
  exact next?_eq_none_iff.mpr ⟨List.forall_mem_nil _, rfl⟩

theorem take_succ_of_none (h : l.next? = (none, m)) (n : Nat) : l.take (n + 1) = ([], m) := by
  rw [take, h]

theorem take_succ_of_some (h : l.next? = (some t, m)) (n : Nat) :
    l.take (n + 1) = (t :: (m.take n).1, (m.take n).2) := by
  rw [take, h]

theorem take_of_none (h : l.next? = (none, l)) (n : Nat) : l.take n = ([], l) := by
  cases n with
  | zero => rfl
  | succ n => exact take_succ_of_none h n

theorem take_add (n k : Nat) (l : Lexer) :
    l.take (n + k) = ((l.take n).1 ++ ((l.take n).2.take k).1, ((l.take n).2.take k).2) := by
  induction n generalizing l with
  | zero => rw [Nat.zero_add, take, List.nil_append]
  | succ n ih =>
      rw [Nat.succ_add]
      cases h : l.next? with
      | mk t? m =>
          cases t? with
          | none =>
              rw [take_succ_of_none h, take_succ_of_none h, take_of_none (next?_of_none h)]
              rfl
          | some t =>
              rw [take_succ_of_some h, take_succ_of_some h, ih]
              rfl

theorem nth?_snd (n : Nat) (l : Lexer) : (l.nth? n).2 = (l.take (n + 1)).2 := by
  induction n generalizing l with
  | zero =>
      cases h : l.next? with
      | mk t? m =>
          cases t? with
          | none => rw [nth?, take_succ_of_none h, h]
          | some t => rw [nth?, take_succ_of_some h, h, take]
  | succ n ih =>
      cases h : l.next? with
      | mk t? m =>
          cases t? with
          | none => rw [nth?, take_succ_of_none h, h]
          | some t => rw [nth?, take_succ_of_some h, h, ← ih]

/-- Taking more tokens than there are is draining. -/
theorem take_of_length_lt {n : Nat} (h : l.drain.1.length < n) : l.take n = l.drain := by
  induction n generalizing l with
  | zero => exact absurd h (Nat.not_lt_zero _)
  | succ n ih =>
      cases step : l.next? with
      | mk t? m =>
          cases t? with
          | none => rw [take_succ_of_none step, drain_of_none step]
          | some t =>
              rw [drain_of_some step] at h ⊢
              rw [take_succ_of_some step, ih (Nat.lt_of_succ_lt_succ h)]

theorem takeUntil_of_none {stop : Token → Bool} (h : l.next? = (none, m)) :
    l.takeUntil stop = ([], m) := by
  rw [takeUntil]
  split
  · next h' => cases h'.symm.trans h; rfl
  · next h' => cases h'.symm.trans h

theorem takeUntil_of_some {stop : Token → Bool} (h : l.next? = (some t, m)) :
    l.takeUntil stop = if stop t then ([], m)
      else (t :: (m.takeUntil stop).1, (m.takeUntil stop).2) := by
  rw [takeUntil]
  split
  · next h' => cases h'.symm.trans h
  · next h' => cases h'.symm.trans h; rfl

theorem takeUntil_snd (stop : Token → Bool) (l : Lexer) :
    (l.takeUntil stop).2 = (l.take ((l.takeUntil stop).1.length + 1)).2 := by
  induction l using Lexer.induction with
  | none l m step => rw [takeUntil_of_none step, take_succ_of_none step]
  | some l m t step ih =>
      rw [takeUntil_of_some step, take_succ_of_some step]
      by_cases stops : stop t
      · simp only [stops, ↓reduceIte, List.length_nil, take]
      · simp only [stops, Bool.false_eq_true, ↓reduceIte, List.length_cons]
        exact ih

theorem perform_eq_take (l : Lexer) (a : Action) :
    ∃ n, (l.perform a).2 = (l.take n).2 ∧ l.taken a = (l.take n).1 := by
  have one : l.next?.2 = (l.take 1).2 := nth?_snd 0 l
  cases a with
  | scan => exact ⟨1, one, rfl⟩
  | next => exact ⟨1, one, rfl⟩
  | nth n => exact ⟨n + 1, nth?_snd n l, rfl⟩
  | take n => exact ⟨n, rfl, rfl⟩
  | takeUntil kind => exact ⟨_, takeUntil_snd _ l, rfl⟩
  | count =>
      have all := take_of_length_lt (Nat.lt_succ_self l.drain.1.length)
      exact ⟨l.drain.1.length + 1, congrArg Prod.snd all.symm, congrArg Prod.fst all.symm⟩
  | location => exact ⟨0, rfl, rfl⟩
  | diagnostics => exact ⟨0, rfl, rfl⟩

theorem performAll_eq_take (l : Lexer) (as : List Action) :
    ∃ n, l.performAll as = (l.take n).2 ∧ l.takenAll as = (l.take n).1 := by
  induction as generalizing l with
  | nil => exact ⟨0, rfl, rfl⟩
  | cons a as ih =>
      obtain ⟨n, left, taken⟩ := l.perform_eq_take a
      obtain ⟨k, left', taken'⟩ := ih (l.perform a).2
      refine ⟨n + k, ?_, ?_⟩
      · rw [take_add, ← left, ← left']
        rfl
      · rw [take_add, ← left, ← taken, ← taken']
        rfl

end PlotLexer.Lexer
