import Mathlib.Data.List.Basic
import PlotLexer.Session

/-!
The places of a session do not interfere. A step reads and writes one place alone, so what is
answered at an index is decided by the commands given there, whatever is asked elsewhere in
between.
-/
namespace PlotLexer

/-- What a command is answered at one place, and what it leaves there. -/
def Command.runOn : Option Lexer → Command → Answer × Option Lexer
  | none, _ => (.noLexer, none)
  | some l, .finish => (.finished l.finish.1 l.finish.2, none)
  | some l, .action a =>
    (.replied (l.perform a).1 (l.perform a).2.location (l.perform a).2.diagnostics.size,
      some (l.perform a).2)

/-- The answers at one place to one command after another, and what is left there. -/
def Command.runAllOn (place : Option Lexer) : List Command → List Answer × Option Lexer
  | [] => ([], place)
  | c :: cs =>
    ((c.runOn place).1 :: (runAllOn (c.runOn place).2 cs).1, (runAllOn (c.runOn place).2 cs).2)

theorem Command.runAllOn_snd_eq_none_iff {place : Option Lexer} {cs : List Command} :
    (runAllOn place cs).2 = none ↔ place = none ∨ .finish ∈ cs := by
  induction cs generalizing place with
  | nil => simp only [runAllOn, List.not_mem_nil, or_false]
  | cons c cs ih =>
      rw [runAllOn, ih]
      cases place with
      | none => exact iff_of_true (.inl rfl) (.inl rfl)
      | some l => cases c <;> simp [runOn]

namespace Session

def lexerAt? (s : Session) (i : Nat) : Option Lexer :=
  s.lexers[i]?.join

def commandsAt (i : Nat) (sts : List Step) : List Command :=
  (sts.filter (·.index = i)).map Step.command

/-- The answers of a run to the steps that address an index. -/
def answersAt (s : Session) (i : Nat) (sts : List Step) : List Answer :=
  ((sts.zip (s.run sts).1).filter (·.1.index = i)).map Prod.snd

theorem set_of_lexerAt?_eq_none {s : Session} {i : Nat} (h : s.lexerAt? i = none) :
    s.lexers.set i none = s.lexers := by
  rcases Nat.lt_or_ge i s.lexers.length with inside | outside
  · have empty : s.lexers[i] = none := by
      simpa only [lexerAt?, List.getElem?_eq_getElem inside, Option.join_some] using h
    rw [← empty]
    exact List.set_getElem_self inside
  · exact List.set_eq_of_length_le outside

section Steps
variable (s : Session) (st : Step) (sts : List Step) (i : Nat)

theorem lexerAt?_ofInputs (inputs : List String) :
    (ofInputs inputs).lexerAt? i = inputs[i]?.map Lexer.ofString := by
  rw [lexerAt?, ofInputs, List.getElem?_map]
  cases inputs[i]? <;> rfl

theorem step_eq : s.step st = ((st.command.runOn (s.lexerAt? st.index)).1,
    ⟨s.lexers.set st.index (st.command.runOn (s.lexerAt? st.index)).2⟩) := by
  obtain ⟨i, c⟩ := st
  cases place : s.lexerAt? i with
  | none =>
      have found : s.lexers[i]?.join = none := place
      simp only [step, found, Command.runOn, set_of_lexerAt?_eq_none place]
  | some l =>
      have found : s.lexers[i]?.join = some l := place
      cases c <;> simp only [step, found, Command.runOn]

theorem step_fst : (s.step st).1 = (st.command.runOn (s.lexerAt? st.index)).1 :=
  congrArg Prod.fst (s.step_eq st)

theorem step_eq_noLexer_iff : s.step st = (.noLexer, s) ↔ s.lexerAt? st.index = none := by
  rw [step_eq]
  cases place : s.lexerAt? st.index with
  | none => simp only [Command.runOn, set_of_lexerAt?_eq_none place]
  | some l => cases st.command <;> simp [Command.runOn]

theorem lexerAt?_step : (s.step st).2.lexerAt? i =
    if st.index = i then (st.command.runOn (s.lexerAt? i)).2 else s.lexerAt? i := by
  rw [step_eq, lexerAt?, List.getElem?_set]
  split
  · next same =>
      subst same
      split
      · rfl
      · next outside =>
          have empty : s.lexerAt? st.index = none := by
            rw [lexerAt?, List.getElem?_eq_none (Nat.le_of_not_lt outside), Option.join_none]
          rw [empty, Command.runOn, Option.join_none]
  · rfl

theorem run_swap {st st' : Step} (apart : st.index ≠ st'.index) :
    s.run [st', st] = ((s.run [st, st']).1.reverse, (s.run [st, st']).2) := by
  have first : (s.step st').2.lexerAt? st.index = s.lexerAt? st.index := by
    rw [lexerAt?_step, if_neg apart.symm]
  have second : (s.step st).2.lexerAt? st'.index = s.lexerAt? st'.index := by
    rw [lexerAt?_step, if_neg apart]
  simp only [run, List.reverse_cons, List.reverse_nil, List.nil_append, List.singleton_append]
  rw [step_eq (s.step st').2, step_eq (s.step st).2, first, second, step_eq, step_eq,
    List.set_comm _ _ apart]

theorem length_run : (s.run sts).1.length = sts.length := by
  induction sts generalizing s with
  | nil => rfl
  | cons st sts ih => simp only [run, List.length_cons, ih]

theorem commandsAt_cons : commandsAt i (st :: sts) =
    if st.index = i then st.command :: commandsAt i sts else commandsAt i sts := by
  simp only [commandsAt, List.filter_cons, decide_eq_true_eq]
  split <;> rfl

theorem answersAt_cons : s.answersAt i (st :: sts) =
    if st.index = i then (s.step st).1 :: (s.step st).2.answersAt i sts
    else (s.step st).2.answersAt i sts := by
  simp only [answersAt, run, List.zip_cons_cons, List.filter_cons, decide_eq_true_eq]
  split <;> rfl

/-- A run at one place: the commands given there decide the answers and what is left. -/
theorem run_at : (s.answersAt i sts, (s.run sts).2.lexerAt? i) =
    Command.runAllOn (s.lexerAt? i) (commandsAt i sts) := by
  induction sts generalizing s with
  | nil => rfl
  | cons st sts ih =>
      have rest := ih (s.step st).2
      rw [lexerAt?_step] at rest
      rw [answersAt_cons, commandsAt_cons]
      by_cases here : st.index = i
      · simp only [here, ↓reduceIte] at rest ⊢
        rw [Command.runAllOn, ← rest, step_fst, here]
        rfl
      · simp only [here, ↓reduceIte] at rest ⊢
        exact rest

end Steps

/-- The answers of a run that addresses no other place are all the answers there. -/
theorem run_alone (s : Session) (i : Nat) (cs : List Command) :
    (s.run (cs.map (⟨i, ·⟩))).1 = (Command.runAllOn (s.lexerAt? i) cs).1 := by
  induction cs generalizing s with
  | nil => rfl
  | cons c cs ih =>
      rw [List.map_cons, run, Command.runAllOn]
      simp only [ih, lexerAt?_step, ↓reduceIte, step_fst]

theorem mem_commandsAt {i : Nat} {c : Command} {sts : List Step} :
    c ∈ commandsAt i sts ↔ ⟨i, c⟩ ∈ sts := by
  simp only [commandsAt, List.mem_map, List.mem_filter, decide_eq_true_eq]
  constructor
  · rintro ⟨st, ⟨member, rfl⟩, rfl⟩
    exact member
  · intro member
    exact ⟨_, ⟨member, rfl⟩, rfl⟩

/-- Every step is answered. What is answered at an index is what a session of that one lexer
answers to the commands given there, so steps at different indices may change their order. A step
finds no lexer, and does nothing, just where the index is out of range or its lexer was finished. -/
theorem run_noninterference (inputs : List String) (sts : List Step) :
    ((ofInputs inputs).run sts).1.length = sts.length ∧
    (∀ i, (ofInputs inputs).answersAt i sts =
      ((ofInputs inputs[i]?.toList).run ((commandsAt i sts).map (⟨0, ·⟩))).1) ∧
    (∀ (s : Session) (st st' : Step), st.index ≠ st'.index →
      s.run [st', st] = ((s.run [st, st']).1.reverse, (s.run [st, st']).2)) ∧
    ∀ st, ((ofInputs inputs).run sts).2.step st = (.noLexer, ((ofInputs inputs).run sts).2) ↔
      inputs.length ≤ st.index ∨ ⟨st.index, .finish⟩ ∈ sts := by
  refine ⟨length_run _ sts, ?_, fun s st st' => run_swap s, ?_⟩
  · intro i
    have alone : (ofInputs inputs[i]?.toList).lexerAt? 0 = (ofInputs inputs).lexerAt? i := by
      rw [lexerAt?_ofInputs, lexerAt?_ofInputs, ← List.head?_eq_getElem?, Option.head?_toList]
    rw [run_alone, alone, ← run_at]
  · intro st
    have left := congrArg Prod.snd (run_at (ofInputs inputs) sts st.index)
    dsimp only at left
    rw [step_eq_noLexer_iff, left, Command.runAllOn_snd_eq_none_iff, lexerAt?_ofInputs,
      Option.map_eq_none_iff, List.getElem?_eq_none_iff, mem_commandsAt]

theorem run_swap_over_one_text :
    (⟨0, .action .next⟩ : Step).index ≠ (⟨1, .finish⟩ : Step).index ∧
    ((ofInputs ["# a", "# a"]).run [⟨1, .finish⟩, ⟨0, .action .next⟩]).1 =
      [.finished [⟨.illegal, "#"⟩, ⟨.identifier, "a"⟩] [⟨.start, .illegalCharacter '#'⟩],
        .replied (.token? (some ⟨.illegal, "#"⟩)) ⟨1, 0, 1⟩ 1] := by
  have apart : (⟨0, .action .next⟩ : Step).index ≠ (⟨1, .finish⟩ : Step).index := by decide
  have swapped := (run_noninterference ["# a", "# a"] []).2.2.1 (ofInputs ["# a", "# a"]) _ _ apart
  refine ⟨apart, (congrArg Prod.fst swapped).trans ?_⟩
  decide +kernel

end Session
end PlotLexer
