import PlotLexer.Proofs.Draining
import PlotLexer.Proofs.Occurrences

/-!
Where tokens begin and end. Two neighbouring characters decide whether a token ends between them,
wherever they stand in a plot, so the tokens can be counted without lexing.
-/
namespace PlotLexer
open Grammar Location

theorem getElem?_eq_some_iff_split {α : Type} {as : List α} {i : Nat} {a : α} :
    as[i]? = some a ↔ ∃ before behind, as = before ++ a :: behind ∧ before.length = i := by
  constructor
  · intro found
    obtain ⟨inside, here⟩ := List.getElem?_eq_some_iff.mp found
    refine ⟨as.take i, as.drop (i + 1), ?_, List.length_take_of_le (Nat.le_of_lt inside)⟩
    rw [← here, ← List.drop_eq_getElem_cons inside, List.take_append_drop]
  · rintro ⟨before, behind, rfl, rfl⟩
    rw [List.getElem?_append_right (Nat.le_refl _), Nat.sub_self]
    rfl

/-- The number of neighbours in a text that join. -/
def joints (cs : List Char) : Nat :=
  (cs.zip cs.tail).countP fun pair => joins pair.1 pair.2

/-- The token `t` takes up the characters from index `first` up to index `last`, behind which the
lexer stops with it. -/
structure Occupies (input : String) (t : Token) (first last : Nat) : Prop where
  lt : first < last
  le : last ≤ input.toList.length
  literal : t.literal.toList = (input.toList.take last).drop first
  walked : (t, Location.behind (input.toList.take last)) ∈ (Lexer.ofString input).walk

namespace Grammar
variable {t : Token} {c : Char} {before behind cs ds : List Char}

theorem WellFormed.exists_reverse (h : WellFormed t) :
    ∃ u, WellFormed u ∧ u.literal.toList = t.literal.toList.reverse := by
  have nonempty : t.literal.toList.reverse ≠ [] := List.reverse_ne_nil_iff.mpr h.literal_ne_nil
  rcases h.literal_cases with letters | digits | ⟨c, single, -⟩
  · have reversed : ∀ c ∈ t.literal.toList.reverse, isLetter c := by
      intro c hc
      exact letters c (List.mem_reverse.mp hc)
    exact ⟨_, wellFormed_word nonempty reversed, String.toList_ofList⟩
  · have reversed : ∀ c ∈ t.literal.toList.reverse, isDigit c := by
      intro c hc
      exact digits c (List.mem_reverse.mp hc)
    exact ⟨_, .integer _ nonempty reversed, String.toList_ofList⟩
  · refine ⟨t, h, ?_⟩
    rw [single]
    rfl

/-- A text that does not end with a blank ends with a token that is apart from what is before. -/
theorem exists_last_token (h : isBlank c = false) (cs : List Char) : ∃ before t,
    WellFormed t ∧ Apart before t.literal.toList ∧ before ++ t.literal.toList = cs ++ [c] := by
  -- To stop short is the same on both sides, so the last token is the first one backwards.
  obtain ⟨u, rest, hu, apart, split⟩ := exists_token h cs.reverse
  obtain ⟨t, ht, literal⟩ := hu.exists_reverse
  refine ⟨rest.reverse, t, ht, ?_, ?_⟩
  · rw [literal]
    exact Apart.comm_iff.mp apart
  · rw [literal, ← List.reverse_append, split, List.reverse_cons, List.reverse_reverse]

theorem joints_cons_cons (c d : Char) (cs : List Char) :
    joints (c :: d :: cs) = joints (d :: cs) + if joins c d then 1 else 0 := by
  simp only [joints, List.tail_cons, List.zip_cons_cons, List.countP_cons]

theorem joints_append (apart : Apart cs ds) : joints (cs ++ ds) = joints cs + joints ds := by
  induction cs with
  | nil => exact (Nat.zero_add _).symm
  | cons c cs ih =>
      cases cs with
      | nil =>
          cases ds with
          | nil => rfl
          | cons d ds =>
              have cut : joins c d = false := apart c rfl d rfl
              simp only [List.singleton_append, joints_cons_cons, cut, Bool.false_eq_true,
                ↓reduceIte]
              exact (Nat.zero_add _).symm
      | cons c' cs =>
          have whole : Apart ([c] ++ c' :: cs) ds := apart
          have rest := whole.of_append_left
          have split := ih rest
          simp only [List.cons_append, joints_cons_cons] at split ⊢
          omega

theorem joints_blank (blank : ∀ c ∈ cs, isBlank c) : joints cs = 0 := by
  apply List.countP_eq_zero.mpr
  rintro ⟨c, d⟩ member
  rw [joins_of_isBlank_left (blank c (List.of_mem_zip member).1)]
  exact Bool.false_ne_true

theorem joints_run {p : Char → Bool} (hp : Joining p) (run : ∀ c ∈ cs, p c) :
    joints cs = cs.length - 1 := by
  have all : joints cs = (cs.zip cs.tail).length := by
    apply List.countP_eq_length.mpr
    rintro ⟨c, d⟩ member
    obtain ⟨first, second⟩ := List.of_mem_zip member
    rw [hp c d (run c first)]
    exact run d (List.mem_of_mem_tail second)
  rw [all, List.length_zip, List.length_tail, Nat.min_eq_right (Nat.sub_le _ _)]

theorem WellFormed.joints_literal (h : WellFormed t) :
    joints t.literal.toList + 1 = t.literal.toList.length := by
  have nonempty := List.length_pos_iff.mpr h.literal_ne_nil
  rcases h.literal_cases with letters | digits | ⟨c, single, -⟩
  · rw [joints_run joining_isLetter letters]
    omega
  · rw [joints_run joining_isDigit digits]
    omega
  · rw [single]
    rfl

theorem countP_blank (blank : ∀ c ∈ cs, isBlank c) : cs.countP (fun c => !isBlank c) = 0 := by
  apply List.countP_eq_zero.mpr
  intro c hc
  rw [blank c hc]
  exact Bool.false_ne_true

theorem WellFormed.countP_literal (h : WellFormed t) :
    t.literal.toList.countP (fun c => !isBlank c) = t.literal.toList.length := by
  apply List.countP_eq_length.mpr
  intro c hc
  rw [h.isBlank_of_mem c hc]
  rfl

/-- Each token has one joint less than it has characters, and there are no other joints. -/
theorem Layout.length_tokens_add_joints {y : Layout} (h : y.Proper) :
    y.tokens.length + joints y.text = y.text.countP fun c => !isBlank c := by
  induction y using induction with
  | blank gap =>
      have blanks := proper_blank_iff.mp h
      rw [text_blank, joints_blank blanks, countP_blank blanks]
      rfl
  | cons lead t tail ih =>
      obtain ⟨lead_blank, ht, apart, htail⟩ := proper_cons_iff.mp h
      have rest := ih htail
      have literal := ht.joints_literal
      rw [text_cons, joints_append (Apart.of_blank_left lead_blank), joints_append apart,
        joints_blank lead_blank, List.countP_append, List.countP_append, countP_blank lead_blank,
        ht.countP_literal, tokens_cons, List.length_cons]
      omega

end Grammar

namespace Lexer

theorem walk_of_proper {y : Layout} (h : y.Proper) (before : List Char) (ds : Array Diagnostic) :
    walk ⟨⟨y.text, .behind before⟩, ds⟩ =
      (y.occurrences before).map (fun o => (o.2, .behind (o.1 ++ o.2.literal.toList))) ++
        [(.endOfInput, .behind (before ++ y.text))] := by
  induction y using Layout.induction generalizing before ds with
  | blank gap =>
      have step := next?_blank (Layout.proper_blank_iff.mp h) (.behind before) ds
      rw [Layout.text_blank, walk_of_none step, Layout.occurrences_blank, after_behind]
      rfl
  | cons lead t tail ih =>
      obtain ⟨lead_blank, ht, apart, htail⟩ := Layout.proper_cons_iff.mp h
      have step := next?_token lead_blank ht apart (.behind before) ds
      rw [after_behind] at step
      rw [Layout.text_cons, walk_of_some step, ih htail, Layout.occurrences_cons]
      simp only [List.map_cons, List.cons_append, List.append_assoc]
      rfl

theorem mem_walk_iff {input : String} {t : Token} {front : List Char}
    (inside : front <+: input.toList) (inner : t ≠ .endOfInput) :
    (t, .behind front) ∈ (ofString input).walk ↔ ∃ before behind,
      input.toList = before ++ (t.literal.toList ++ behind) ∧ front = before ++ t.literal.toList ∧
        Stands before t behind := by
  obtain ⟨y, proper, text⟩ := Layout.exists_proper input.toList
  have walked := walk_of_proper proper [] #[]
  rw [text] at walked
  have start : ofString input = ⟨⟨input.toList, .behind []⟩, #[]⟩ := rfl
  rw [start, walked, List.mem_append]
  constructor
  · rintro (named | last)
    · obtain ⟨⟨place, u⟩, occurs, same⟩ := List.mem_map.mp named
      obtain ⟨rfl, stop⟩ := Prod.mk.inj same
      obtain ⟨before, behind, here, split, stands⟩ :=
        (Layout.mem_occurrences_iff proper (Apart.nil_left _)).mp occurs
      obtain rfl : place = before := here
      rw [text] at split
      have prior : place ++ u.literal.toList <+: input.toList :=
        ⟨behind, by rw [split, List.append_assoc]⟩
      exact ⟨place, behind, split,
        eq_of_byteCount_eq inside prior (congrArg Location.offset stop).symm, stands⟩
    · exact absurd (Prod.mk.inj (List.mem_singleton.mp last)).1 inner
  · rintro ⟨before, behind, split, rfl, stands⟩
    have occurs : (before, t) ∈ y.occurrences [] :=
      (Layout.mem_occurrences_iff proper (Apart.nil_left _)).mpr
        ⟨before, behind, rfl, text.trans split, stands⟩
    exact .inl (List.mem_map.mpr ⟨_, occurs, rfl⟩)

end Lexer

section Indices
variable {input : String} {t : Token} {i j : Nat}

theorem occupies_iff_stands : Occupies input t i j ↔ ∃ before behind,
    input.toList = before ++ (t.literal.toList ++ behind) ∧ before.length = i ∧
      i + t.literal.toList.length = j ∧ Stands before t behind := by
  constructor
  · rintro ⟨lt, le, literal, walked⟩
    have size := congrArg List.length literal
    rw [List.length_drop, List.length_take_of_le le] at size
    have inner : t ≠ .endOfInput := by
      rintro rfl
      have none : Token.endOfInput.literal.toList.length = 0 := rfl
      omega
    obtain ⟨before, behind, split, front, stands⟩ :=
      (Lexer.mem_walk_iff (List.take_prefix j _) inner).mp walked
    have length := congrArg List.length front
    rw [List.length_append, List.length_take_of_le le] at length
    exact ⟨before, behind, split, by omega, by omega, stands⟩
  · rintro ⟨before, behind, split, rfl, rfl, stands⟩
    have nonempty := List.length_pos_iff.mpr stands.wellFormed.literal_ne_nil
    have inner : t ≠ .endOfInput := by
      rintro rfl
      exact stands.wellFormed.kind_ne_endOfInput rfl
    have front : input.toList.take (before.length + t.literal.toList.length) =
        before ++ t.literal.toList := by
      rw [split, ← List.append_assoc]
      exact List.take_left' List.length_append
    refine ⟨by omega, ?_, ?_, ?_⟩
    · rw [split, List.length_append, List.length_append]
      omega
    · rw [front, List.drop_left]
    · rw [Lexer.mem_walk_iff (List.take_prefix _ _) inner]
      exact ⟨before, behind, split, front, stands⟩

/-- A token begins at every character that is not blank and does not join the one before. -/
theorem exists_occupies_from_iff : (∃ t j, Occupies input t i j) ↔ ∃ before c behind,
    input.toList = before ++ c :: behind ∧ before.length = i ∧ isBlank c = false ∧
      Apart before (c :: behind) := by
  constructor
  · rintro ⟨t, j, occupied⟩
    obtain ⟨before, behind, split, here, -, stands⟩ := occupies_iff_stands.mp occupied
    obtain ⟨c, cs, literal⟩ := List.exists_cons_of_ne_nil stands.wellFormed.literal_ne_nil
    have apart := stands.apart_before
    have marked : isBlank c = false := by
      apply stands.wellFormed.isBlank_of_mem c
      rw [literal]
      exact List.mem_cons_self
    rw [literal, List.cons_append] at split apart
    exact ⟨before, c, cs ++ behind, split, here, marked, apart⟩
  · rintro ⟨before, c, behind, split, here, marked, apart⟩
    obtain ⟨t, rest, ht, ends, literal⟩ := exists_token marked behind
    rw [← literal] at split apart
    exact ⟨t, _, occupies_iff_stands.mpr ⟨before, rest, split, here, rfl, ht, apart, ends⟩⟩

/-- A token ends behind every character that is not blank and does not join the next one. -/
theorem exists_occupies_upTo_iff : (∃ t j, Occupies input t j (i + 1)) ↔ ∃ before c behind,
    input.toList = before ++ c :: behind ∧ before.length = i ∧ isBlank c = false ∧
      Apart (before ++ [c]) behind := by
  constructor
  · rintro ⟨t, j, occupied⟩
    obtain ⟨before, behind, split, rfl, ends, stands⟩ := occupies_iff_stands.mp occupied
    have nonempty := stands.wellFormed.literal_ne_nil
    have apart : Apart (before ++ t.literal.toList) behind :=
      (Apart.append_left_iff nonempty).mpr stands.apart_behind
    obtain ⟨cs, c, literal⟩ : ∃ cs c, t.literal.toList = cs ++ [c] :=
      ⟨_, _, (List.dropLast_concat_getLast nonempty).symm⟩
    have marked : isBlank c = false := by
      apply stands.wellFormed.isBlank_of_mem c
      rw [literal]
      exact List.mem_concat_self
    rw [literal, ← List.append_assoc] at apart
    rw [literal, List.append_assoc, ← List.append_assoc before] at split
    rw [literal, List.length_append, List.length_singleton] at ends
    refine ⟨before ++ cs, c, behind, split, ?_, marked, apart⟩
    rw [List.length_append]
    omega
  · rintro ⟨before, c, behind, split, rfl, marked, apart⟩
    obtain ⟨front, t, ht, begins, literal⟩ := exists_last_token marked before
    have length := congrArg List.length literal
    rw [List.length_append, List.length_append, List.length_singleton] at length
    rw [List.append_cons, ← literal, List.append_assoc] at split
    rw [← literal, Apart.append_left_iff ht.literal_ne_nil] at apart
    have stands : Stands front t behind :=
      ⟨ht, (Apart.append_right_iff ht.literal_ne_nil).mpr begins, apart⟩
    exact ⟨t, _, occupies_iff_stands.mpr ⟨front, behind, split, rfl, length, stands⟩⟩

theorem apart_cons_iff_getElem? {before behind : List Char} {c : Char} :
    Apart before (c :: behind) ↔ before.length = 0 ∨
      ∀ b ∈ (before ++ c :: behind)[before.length - 1]?, joins b c = false := by
  by_cases empty : before = []
  · rw [empty]
    exact iff_of_true (Apart.nil_left _) (.inl rfl)
  · have positive := List.length_pos_iff.mpr empty
    rw [List.getElem?_append_left (by omega), ← List.getLast?_eq_getElem?]
    constructor
    · intro apart
      right
      intro b hb
      exact apart b hb c rfl
    · rintro (none | stop)
      · omega
      · intro b hb d hd
        obtain rfl : c = d := Option.some.inj hd
        exact stop b hb

theorem apart_concat_iff_getElem? {before behind : List Char} {c : Char} :
    Apart (before ++ [c]) behind ↔
      ∀ d ∈ (before ++ c :: behind)[before.length + 1]?, joins c d = false := by
  have next : (before ++ c :: behind)[before.length + 1]? = behind.head? := by
    rw [List.append_cons, List.head?_eq_getElem?, List.getElem?_append_right, List.length_append]
    · simp
    · simp
  rw [next, Apart.append_left_iff (List.cons_ne_nil c [])]
  constructor
  · intro apart d hd
    exact apart c rfl d hd
  · intro stop b hb
    obtain rfl : c = b := Option.some.inj hb
    exact stop

end Indices

/-- Whether a token begins or ends at a character is decided by the character and its neighbour on
that side alone. So there are as many tokens as characters that are not blank, less the neighbours
that join. -/
theorem token_boundaries_local (input : String) :
    (Lexer.ofString input).walk.map Prod.fst = tokenize input ∧
    (∀ i, (∃ t j, Occupies input t i j) ↔ ∃ c ∈ input.toList[i]?, isBlank c = false ∧
      (i = 0 ∨ ∀ b ∈ input.toList[i - 1]?, joins b c = false)) ∧
    (∀ i, (∃ t j, Occupies input t j (i + 1)) ↔ ∃ c ∈ input.toList[i]?, isBlank c = false ∧
      ∀ d ∈ input.toList[i + 1]?, joins c d = false) ∧
    (Lexer.ofString input).finish.1.length + joints input.toList =
      input.toList.countP fun c => !isBlank c := by
  obtain ⟨y, proper, text⟩ := Layout.exists_proper input.toList
  refine ⟨Lexer.map_fst_walk_ofString input, ?_, ?_, ?_⟩
  · intro i
    rw [exists_occupies_from_iff]
    constructor
    · rintro ⟨before, c, behind, split, rfl, marked, apart⟩
      refine ⟨c, getElem?_eq_some_iff_split.mpr ⟨before, behind, split, rfl⟩, marked, ?_⟩
      rw [split]
      exact apart_cons_iff_getElem?.mp apart
    · rintro ⟨c, here, marked, neighbour⟩
      obtain ⟨before, behind, split, rfl⟩ := getElem?_eq_some_iff_split.mp here
      rw [split] at neighbour
      exact ⟨before, c, behind, split, rfl, marked, apart_cons_iff_getElem?.mpr neighbour⟩
  · intro i
    rw [exists_occupies_upTo_iff]
    constructor
    · rintro ⟨before, c, behind, split, rfl, marked, apart⟩
      refine ⟨c, getElem?_eq_some_iff_split.mpr ⟨before, behind, split, rfl⟩, marked, ?_⟩
      rw [split]
      exact apart_concat_iff_getElem?.mp apart
    · rintro ⟨c, here, marked, neighbour⟩
      obtain ⟨before, behind, split, rfl⟩ := getElem?_eq_some_iff_split.mp here
      rw [split] at neighbour
      exact ⟨before, c, behind, split, rfl, marked, apart_concat_iff_getElem?.mpr neighbour⟩
  · rw [Lexer.finish_ofString proper text, ← text]
    exact Layout.length_tokens_add_joints proper

example : (Lexer.ofString "ab1 _é;\n22").finish.1.length = 6 ∧ joints "ab1 _é;\n22".toList = 2 := by
  decide +kernel

end PlotLexer
