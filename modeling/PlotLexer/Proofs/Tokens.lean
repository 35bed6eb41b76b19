import PlotLexer.Proofs.Alphabet
import PlotLexer.Proofs.Vocabulary

/-!
The token at the head of a text. A text that does not begin with a blank begins with exactly one
well-formed token that is apart from the rest, and this is the token that longest match finds.
-/
namespace PlotLexer.Grammar
variable {t : Token} {c d : Char} {cs behind : List Char}

namespace WellFormed

theorem literal_ne_nil (h : WellFormed t) : t.literal.toList ≠ [] := by
  cases h with
  | identifier word nonempty letters free => rwa [String.toList_ofList]
  | keyword k => exact k.spelling_ne_nil
  | integer digits nonempty decimal => rwa [String.toList_ofList]
  | symbol s => rw [String.toList_singleton]; exact List.cons_ne_nil _ _
  | stray c unclassed => rw [String.toList_singleton]; exact List.cons_ne_nil _ _

/-- A literal is a word, a numeral, or a single character of neither class. -/
theorem literal_cases (h : WellFormed t) :
    (∀ c ∈ t.literal.toList, isLetter c) ∨ (∀ c ∈ t.literal.toList, isDigit c) ∨
      ∃ c, t.literal.toList = [c] ∧ isBlank c = false ∧ isLetter c = false ∧ isDigit c = false := by
  cases h with
  | identifier word nonempty letters free => left; rwa [String.toList_ofList]
  | keyword k => left; exact k.isLetter_of_mem_spelling
  | integer digits nonempty decimal => right; left; rwa [String.toList_ofList]
  | symbol s =>
      right; right
      exact ⟨s.char, String.toList_singleton _, s.isBlank_char, s.isLetter_char, s.isDigit_char⟩
  | stray c unclassed =>
      right; right
      exact ⟨c, String.toList_singleton _, unclassed.1, unclassed.2.1, unclassed.2.2.1⟩

theorem isBlank_of_mem (h : WellFormed t) : ∀ c ∈ t.literal.toList, isBlank c = false := by
  intro c hc
  rcases h.literal_cases with letters | digits | ⟨d, single, blank, -, -⟩
  · exact isBlank_of_isLetter (letters c hc)
  · exact isBlank_of_isDigit (digits c hc)
  · rw [single, List.mem_singleton] at hc
    rwa [hc]

theorem not_blank (h : WellFormed t) (lead behind : List Char) :
    ¬ ∀ c ∈ lead ++ (t.literal.toList ++ behind), isBlank c := by
  intro blank
  have inside : t.literal.toList.head h.literal_ne_nil ∈ lead ++ (t.literal.toList ++ behind) := by
    simp only [List.mem_append, List.head_mem, true_or, or_true]
  have marked := h.isBlank_of_mem _ (List.head_mem h.literal_ne_nil)
  rw [blank _ inside] at marked
  cases marked

theorem joins_eq_of_mem (h : WellFormed t) (hc : c ∈ t.literal.toList)
    (hd : d ∈ t.literal.toList) (e : Char) : joins c e = joins d e := by
  rcases h.literal_cases with letters | digits | ⟨a, single, -⟩
  · rw [joining_isLetter c e (letters c hc), joining_isLetter d e (letters d hd)]
  · rw [joining_isDigit c e (digits c hc), joining_isDigit d e (digits d hd)]
  · rw [single, List.mem_singleton] at hc hd
    rw [hc, hd]

/-- No literal mixes a joining class with anything else. -/
theorem forall_of_mem {p : Char → Bool} (h : WellFormed t) (hp : Joining p)
    (hc : c ∈ t.literal.toList) (pc : p c) : ∀ d ∈ t.literal.toList, p d := by
  intro d hd
  have alike := h.joins_eq_of_mem hd hc c
  rw [joins_comm, hp c d pc, hp c c pc] at alike
  rwa [alike]

theorem kind_ne_endOfInput (h : WellFormed t) : t.kind ≠ .endOfInput := by
  cases h <;> exact Token.Kind.noConfusion

end WellFormed

theorem forall_head {run : List Char} {P : Char → Prop} (nonempty : run ≠ [])
    (all : ∀ c ∈ run, P c) (split : run ++ behind = c :: cs) : P c := by
  apply all
  apply List.mem_of_head?
  rw [← List.head?_append_of_ne_nil run nonempty, split, List.head?_cons]

theorem munch_of_isLetter (h : isLetter c) : munch c cs =
    (wordKind ((c :: cs).takeWhile isLetter), (c :: cs).takeWhile isLetter) := by
  simp only [munch, h, ↓reduceIte]

theorem munch_of_isDigit (h : isDigit c) :
    munch c cs = (.integer, (c :: cs).takeWhile isDigit) := by
  simp only [munch, h, isLetter_of_isDigit h, Bool.false_eq_true, ↓reduceIte]

theorem munch_single (hl : isLetter c = false) (hd : isDigit c = false) : munch c cs =
    (match Symbol.ofChar? c with
      | some s => .symbol s
      | none => .illegal, [c]) := by
  simp only [munch, hl, hd, Bool.false_eq_true, ↓reduceIte, Symbol.find?_char]
  cases Symbol.ofChar? c <;> rfl

theorem munch_word {word : List Char} (nonempty : word ≠ []) (letters : ∀ c ∈ word, isLetter c)
    (split : word ++ behind = c :: cs) (apart : Apart word behind) :
    munch c cs = (wordKind word, word) := by
  have hc : isLetter c := forall_head nonempty letters split
  rw [munch_of_isLetter hc, ← split,
    apart.takeWhile_eq joining_isLetter nonempty letters]

/-- Longest match finds the token that a text was written with. -/
theorem munch_of_wellFormed (h : WellFormed t) (split : t.literal.toList ++ behind = c :: cs)
    (apart : Apart t.literal.toList behind) : munch c cs = (t.kind, t.literal.toList) := by
  cases h with
  | identifier word nonempty letters free =>
      rw [String.toList_ofList] at split apart ⊢
      have unreserved : Keyword.ofSpelling? (String.ofList word) = none := by
        rw [Keyword.ofSpelling?_eq_none_iff]
        intro k hk
        exact free k (by rw [hk, String.toList_ofList])
      rw [munch_word nonempty letters split apart, wordKind_eq, unreserved, Option.elim_none]
  | keyword k =>
      rw [munch_word k.spelling_ne_nil k.isLetter_of_mem_spelling split apart, wordKind_eq,
        String.ofList_toList, Keyword.ofSpelling?_spelling, Option.elim_some, k.kind_eq]
  | integer digits nonempty decimal =>
      rw [String.toList_ofList] at split apart ⊢
      have hc : isDigit c := forall_head nonempty decimal split
      rw [munch_of_isDigit hc, ← split,
        apart.takeWhile_eq joining_isDigit nonempty decimal]
  | symbol s =>
      rw [String.toList_singleton] at split ⊢
      obtain ⟨rfl, rfl⟩ := List.cons.inj split
      rw [munch_single s.isLetter_char s.isDigit_char, Symbol.ofChar?_char]
  | stray d unclassed =>
      rw [String.toList_singleton] at split ⊢
      obtain ⟨rfl, rfl⟩ := List.cons.inj split
      obtain ⟨-, hl, hd, unmarked⟩ := isStray_iff.mp unclassed
      rw [munch_single hl hd, unmarked]

theorem wellFormed_word {word : List Char} (nonempty : word ≠ [])
    (letters : ∀ c ∈ word, isLetter c) : WellFormed ⟨wordKind word, String.ofList word⟩ := by
  rw [wordKind_eq]
  cases reserved : Keyword.ofSpelling? (String.ofList word) with
  | none =>
      refine .identifier word nonempty letters fun k hk => ?_
      exact Keyword.ofSpelling?_eq_none_iff.mp reserved k (by rw [← hk, String.ofList_toList])
  | some k =>
      rw [Option.elim_some, ← Keyword.ofSpelling?_eq_some_iff.mp reserved, k.kind_eq]
      exact .keyword k

theorem exists_run {p : Char → Bool} (hp : Joining p) (h : p c) (cs : List Char) :
    ∃ run behind, run ≠ [] ∧ (∀ d ∈ run, p d) ∧ Apart run behind ∧ run ++ behind = c :: cs := by
  refine ⟨(c :: cs).takeWhile p, (c :: cs).dropWhile p, ?_, ?_, ?_, ?_⟩
  · rw [List.takeWhile_cons_of_pos h]
    exact List.cons_ne_nil _ _
  · intro d hd
    exact List.mem_takeWhile_imp hd
  · exact Apart.takeWhile_dropWhile hp _
  · exact List.takeWhile_append_dropWhile

theorem exists_single (hb : isBlank c = false) (hl : isLetter c = false) (hd : isDigit c = false) :
    ∃ t, WellFormed t ∧ t.literal = String.singleton c := by
  cases mark : Symbol.ofChar? c with
  | some s => exact ⟨_, .symbol s, congrArg String.singleton (Symbol.char_of_ofChar? mark)⟩
  | none => exact ⟨_, .stray c (isStray_iff.mpr ⟨hb, hl, hd, mark⟩), rfl⟩

theorem exists_token (h : isBlank c = false) (cs : List Char) : ∃ t behind, WellFormed t ∧
    Apart t.literal.toList behind ∧ t.literal.toList ++ behind = c :: cs := by
  by_cases hl : isLetter c
  · obtain ⟨word, behind, nonempty, letters, apart, split⟩ :=
      exists_run joining_isLetter hl cs
    refine ⟨_, behind, wellFormed_word nonempty letters, ?_, ?_⟩ <;> rwa [String.toList_ofList]
  · by_cases hd : isDigit c
    · obtain ⟨digits, behind, nonempty, decimal, apart, split⟩ :=
        exists_run joining_isDigit hd cs
      refine ⟨_, behind, .integer digits nonempty decimal, ?_, ?_⟩ <;> rwa [String.toList_ofList]
    · rw [Bool.not_eq_true] at hl hd
      obtain ⟨t, ht, literal⟩ := exists_single h hl hd
      rw [← String.toList_inj, String.toList_singleton] at literal
      refine ⟨t, cs, ht, ?_, ?_⟩
      · rw [literal]
        exact Apart.of_single_left hl hd cs
      · rw [literal, List.singleton_append]

/-- A text is blank, or blanks and a token stand at its head. -/
theorem blank_or_token (cs : List Char) : (∀ c ∈ cs, isBlank c) ∨
    ∃ lead t behind, (∀ c ∈ lead, isBlank c) ∧ WellFormed t ∧
      Apart t.literal.toList behind ∧ lead ++ (t.literal.toList ++ behind) = cs := by
  cases rest : cs.dropWhile isBlank with
  | nil => exact .inl (List.dropWhile_eq_nil_iff.mp rest)
  | cons c rest' =>
      right
      have hc : isBlank c = false := by
        have stop := List.head?_dropWhile_not isBlank cs
        rw [rest] at stop
        exact stop
      obtain ⟨t, behind, wellFormed, apart, split⟩ := exists_token hc rest'
      refine ⟨cs.takeWhile isBlank, t, behind, fun c hc => List.mem_takeWhile_imp hc,
        wellFormed, apart, ?_⟩
      rw [split, ← rest, List.takeWhile_append_dropWhile]

end PlotLexer.Grammar
