import PlotLexer.Proofs.Lexemes

/-!
Layouts, built up from the back one token at a time. Every text has a proper layout, and two
proper layouts make one wherever their texts are apart.
-/
namespace PlotLexer.Grammar.Layout

/-- Blanks alone. -/
def blank (gap : List Char) : Layout := ⟨gap, []⟩

/-- A token with the blanks before it, in front of a layout. -/
def cons (lead : List Char) (t : Token) (tail : Layout) : Layout :=
  ⟨lead, (t, tail.lead) :: tail.items⟩

@[elab_as_elim] theorem induction {motive : Layout → Prop} (blank : ∀ gap, motive (blank gap))
    (cons : ∀ lead t tail, motive tail → motive (cons lead t tail)) (y : Layout) : motive y := by
  obtain ⟨lead, items⟩ := y
  induction items generalizing lead with
  | nil => exact blank lead
  | cons item items ih => exact cons lead item.1 ⟨item.2, items⟩ (ih item.2)

/-- One layout behind another. The gap between them is the last one of the first and the lead
of the second. -/
def append : Layout → Layout → Layout
  | ⟨gap, []⟩, z => ⟨gap ++ z.lead, z.items⟩
  | ⟨lead, (t, gap) :: items⟩, z => cons lead t (append ⟨gap, items⟩ z)
termination_by y => y.items.length

/-- Each token with all the text before it, where `before` stands before the layout. -/
def occurrences (before : List Char) : Layout → List (List Char × Token)
  | ⟨_, []⟩ => []
  | ⟨lead, (t, gap) :: items⟩ =>
    (before ++ lead, t) :: occurrences (before ++ lead ++ t.literal.toList) ⟨gap, items⟩
termination_by y => y.items.length

/-- What there is to report about the tokens of a layout that begins at `base`. -/
def diagnostics (base : Location) : Layout → List Diagnostic
  | ⟨_, []⟩ => []
  | ⟨lead, (t, gap) :: items⟩ =>
    (t.fault?.map (⟨base.after lead, ·⟩)).toList ++
      diagnostics (base.after (lead ++ t.literal.toList)) ⟨gap, items⟩
termination_by y => y.items.length

section Equations
variable (gap lead before : List Char) (t : Token) (tail z : Layout) (base : Location)

@[simp] theorem tokens_blank : (blank gap).tokens = [] := rfl

@[simp] theorem tokens_cons : (cons lead t tail).tokens = t :: tail.tokens := rfl

@[simp] theorem text_blank : (blank gap).text = gap := List.append_nil gap

@[simp] theorem text_cons :
    (cons lead t tail).text = lead ++ (t.literal.toList ++ tail.text) := by
  simp only [cons, text, List.flatMap_cons, List.append_assoc]

theorem text_single : (cons lead t (blank [])).text = lead ++ t.literal.toList := by
  rw [text_cons, text_blank, List.append_nil]

@[simp] theorem blank_append_blank (gap' : List Char) :
    (blank gap).append (blank gap') = blank (gap ++ gap') := by
  rw [blank, append]
  rfl

@[simp] theorem blank_append_cons :
    (blank gap).append (cons lead t tail) = cons (gap ++ lead) t tail := by
  rw [blank, append]
  rfl

@[simp] theorem cons_append : (cons lead t tail).append z = cons lead t (tail.append z) := by
  rw [cons, append]

@[simp] theorem occurrences_blank : (blank gap).occurrences before = [] := by
  rw [blank, occurrences]

@[simp] theorem occurrences_cons : (cons lead t tail).occurrences before =
    (before ++ lead, t) :: tail.occurrences (before ++ lead ++ t.literal.toList) := by
  rw [cons, occurrences]

@[simp] theorem diagnostics_blank : (blank gap).diagnostics base = [] := by
  rw [blank, diagnostics]

@[simp] theorem diagnostics_cons : (cons lead t tail).diagnostics base =
    (t.fault?.map (⟨base.after lead, ·⟩)).toList ++
      tail.diagnostics (base.after (lead ++ t.literal.toList)) := by
  rw [cons, diagnostics]

end Equations

section Append
variable (y z : Layout) (base : Location)

@[simp] theorem tokens_append : (y.append z).tokens = y.tokens ++ z.tokens := by
  induction y using induction with
  | blank gap => cases z using induction <;> simp
  | cons lead t tail ih => simp [ih]

@[simp] theorem text_append : (y.append z).text = y.text ++ z.text := by
  induction y using induction with
  | blank gap => cases z using induction <;> simp
  | cons lead t tail ih => simp [ih]

theorem diagnostics_append : (y.append z).diagnostics base =
    y.diagnostics base ++ z.diagnostics (base.after y.text) := by
  induction y using induction generalizing base with
  | blank gap => cases z using induction <;> simp [Location.after_append]
  | cons lead t tail ih => simp [ih, Location.after_append]

end Append

theorem diagnostics_rebase (base l : Location) (y : Layout) :
    y.diagnostics (base.rebase l) = (y.diagnostics l).map (Diagnostic.rebase base) := by
  induction y using induction generalizing l with
  | blank gap => simp
  | cons lead t tail ih =>
      rw [diagnostics_cons, diagnostics_cons, Location.rebase_after, Location.rebase_after, ih,
        List.map_append]
      cases t.fault? <;> rfl

theorem merge_iff {t u : Token} (ht : WellFormed t) (hu : WellFormed u) :
    Merge t u ↔ ¬ Apart t.literal.toList u.literal.toList := by
  constructor
  · rintro (letters | digits)
    · exact Apart.not_of_forall joining_isLetter ht.literal_ne_nil hu.literal_ne_nil letters
    · exact Apart.not_of_forall joining_isDigit ht.literal_ne_nil hu.literal_ne_nil digits
  · intro joined
    simp only [Apart, not_forall, Bool.not_eq_false] at joined
    obtain ⟨c, hc, d, hd, joins⟩ := joined
    have spread {p : Char → Bool} (hp : Joining p) (pc : p c) (pd : p d) :
        ∀ e ∈ t.literal.toList ++ u.literal.toList, p e := by
      rw [List.forall_mem_append]
      exact ⟨ht.forall_of_mem hp (List.mem_of_getLast? hc) pc,
        hu.forall_of_mem hp (List.mem_of_head? hd) pd⟩
    rcases joins_iff.mp joins with ⟨cl, dl⟩ | ⟨cd, dd⟩
    · left; exact spread joining_isLetter cl dl
    · right; exact spread joining_isDigit cd dd

theorem proper_blank_iff {gap : List Char} : (blank gap).Proper ↔ ∀ c ∈ gap, isBlank c := by
  constructor
  · exact Proper.lead_blank
  · intro h
    exact ⟨h, List.forall_mem_nil _, List.forall_mem_nil _, trivial⟩

theorem proper_nil : (blank []).Proper := proper_blank_iff.mpr (List.forall_mem_nil _)

/-- Only a missing gap can let a token run on into what follows it. -/
theorem apart_text_iff {t u : Token} {gap : List Char} {tail : Layout}
    (ht : WellFormed t) (hu : WellFormed u) (hgap : ∀ c ∈ gap, isBlank c) :
    Apart t.literal.toList (cons gap u tail).text ↔ (Merge t u → gap ≠ []) := by
  rw [text_cons]
  cases gap with
  | nil =>
      rw [List.nil_append, Apart.append_right_iff hu.literal_ne_nil, merge_iff ht hu]
      simp only [ne_eq, not_true_eq_false, imp_false, not_not]
  | cons c gap =>
      have apart : Apart t.literal.toList (c :: gap) := Apart.of_blank_right hgap
      rw [Apart.append_right_iff (List.cons_ne_nil c gap)]
      exact iff_of_true apart fun _ => List.cons_ne_nil c gap

/-- A proper layout is a proper layout behind a well-formed token that ends where it begins. -/
theorem proper_cons_iff {lead : List Char} {t : Token} {tail : Layout} :
    (cons lead t tail).Proper ↔ (∀ c ∈ lead, isBlank c) ∧ WellFormed t ∧
      Apart t.literal.toList tail.text ∧ tail.Proper := by
  constructor
  · rintro ⟨lead_blank, gap_blank, wellFormed, separated⟩
    have ht := wellFormed _ List.mem_cons_self
    have tail_blank := gap_blank _ List.mem_cons_self
    have items_blank := fun item hitem => gap_blank item (List.mem_cons_of_mem _ hitem)
    have items_wellFormed := fun item hitem => wellFormed item (List.mem_cons_of_mem _ hitem)
    refine ⟨lead_blank, ht, ?_, tail_blank, items_blank, items_wellFormed, ?_⟩
    · cases tail using induction with
      | blank gap =>
          rw [text_blank]
          exact Apart.of_blank_right tail_blank
      | cons gap u tail =>
          have hu := items_wellFormed _ List.mem_cons_self
          exact (apart_text_iff ht hu tail_blank).mpr separated.1
    · cases tail using induction with
      | blank gap => trivial
      | cons gap u tail => exact separated.2
  · rintro ⟨lead_blank, ht, apart, tail_blank, items_blank, items_wellFormed, separated⟩
    refine ⟨lead_blank, List.forall_mem_cons.mpr ⟨tail_blank, items_blank⟩,
      List.forall_mem_cons.mpr ⟨ht, items_wellFormed⟩, ?_⟩
    cases tail using induction with
    | blank gap => trivial
    | cons gap u tail =>
        have hu := items_wellFormed _ List.mem_cons_self
        exact ⟨(apart_text_iff ht hu tail_blank).mp apart, separated⟩

theorem Proper.append {y z : Layout} (hy : y.Proper) (hz : z.Proper)
    (apart : Apart y.text z.text) : (y.append z).Proper := by
  induction y using induction with
  | blank gap =>
      have gap_blank := proper_blank_iff.mp hy
      cases z using induction with
      | blank gap' =>
          rw [blank_append_blank, proper_blank_iff]
          exact List.forall_mem_append.mpr ⟨gap_blank, proper_blank_iff.mp hz⟩
      | cons lead t tail =>
          obtain ⟨lead_blank, rest⟩ := proper_cons_iff.mp hz
          rw [blank_append_cons, proper_cons_iff]
          exact ⟨List.forall_mem_append.mpr ⟨gap_blank, lead_blank⟩, rest⟩
  | cons lead t tail ih =>
      obtain ⟨lead_blank, ht, apart_tail, htail⟩ := proper_cons_iff.mp hy
      rw [text_cons, ← List.append_assoc] at apart
      rw [cons_append, proper_cons_iff, text_append]
      refine ⟨lead_blank, ht, ?_, ih htail apart.of_append_left⟩
      apply apart_tail.append_right
      intro empty
      rw [empty, List.append_nil] at apart
      exact apart.of_append_left

theorem exists_proper (cs : List Char) : ∃ y : Layout, y.Proper ∧ y.text = cs := by
  induction h : cs.length using Nat.strong_induction_on generalizing cs with
  | h n ih =>
      rcases blank_or_token cs with blanks | ⟨lead, t, behind, lead_blank, ht, apart, split⟩
      · exact ⟨blank cs, proper_blank_iff.mpr blanks, text_blank cs⟩
      · have shorter : behind.length < n := by
          have nonempty := List.length_pos_iff.mpr ht.literal_ne_nil
          rw [← h, ← split, List.length_append, List.length_append]
          omega
        obtain ⟨tail, proper, rfl⟩ := ih _ shorter behind rfl
        exact ⟨cons lead t tail, proper_cons_iff.mpr ⟨lead_blank, ht, apart, proper⟩,
          (text_cons lead t tail).trans split⟩

end PlotLexer.Grammar.Layout
