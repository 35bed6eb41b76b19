import PlotLexer.Proofs.Tokenization

/-!
Cutting a plot in two. Apart sides are lexed as if the other were not there, but for the places
of the second. Sides that join share one token at the seam, which is classified afresh.
-/
namespace PlotLexer
open Grammar

/-- The token that two neighbours make when nothing stands between them. -/
def Grammar.fuse (t u : Token) : Token :=
  ⟨if (t.literal ++ u.literal).toList.all isDigit then .integer
    else (Keyword.ofSpelling? (t.literal ++ u.literal)).elim .identifier Keyword.kind,
    t.literal ++ u.literal⟩

theorem Grammar.WellFormed.fuse {t u : Token} (ht : WellFormed t) (merge : Layout.Merge t u) :
    WellFormed (fuse t u) := by
  have whole : t.literal ++ u.literal = String.ofList (t.literal.toList ++ u.literal.toList) := by
    rw [← String.toList_append, String.ofList_toList]
  have nonempty : t.literal.toList ++ u.literal.toList ≠ [] :=
    List.append_ne_nil_of_left_ne_nil ht.literal_ne_nil _
  rcases merge with letters | digits
  · have not_digits : ((t.literal ++ u.literal).toList.all isDigit) = false := by
      rw [String.toList_append, List.all_eq_false]
      refine ⟨_, List.head_mem nonempty, ?_⟩
      rw [isDigit_of_isLetter (letters _ (List.head_mem nonempty))]
      exact Bool.false_ne_true
    simp only [Grammar.fuse, not_digits, Bool.false_eq_true, ↓reduceIte]
    rw [whole, ← wordKind_eq]
    exact wellFormed_word nonempty letters
  · have all_digits : (t.literal ++ u.literal).toList.all isDigit = true := by
      rwa [String.toList_append, List.all_eq_true]
    simp only [Grammar.fuse, all_digits, ↓reduceIte]
    rw [whole]
    exact .integer _ nonempty digits

namespace Grammar.Layout

theorem tokens_eq_nil {y : Layout} (h : y.Proper) (empty : y.text = []) : y.tokens = [] := by
  cases y using induction with
  | blank gap => rfl
  | cons lead t tail =>
      rw [text_cons, List.append_eq_nil_iff, List.append_eq_nil_iff] at empty
      exact absurd empty.2.1 (proper_cons_iff.mp h).2.1.literal_ne_nil

theorem exists_fused_head {lead : List Char} {t : Token} {z : Layout}
    (lead_blank : ∀ c ∈ lead, isBlank c) (ht : WellFormed t) (hz : z.Proper)
    (joined : ¬ Apart t.literal.toList z.text) : ∃ (w : Layout) (u : Token) (us : List Token),
      w.Proper ∧ w.text = lead ++ (t.literal.toList ++ z.text) ∧ Merge t u ∧
        z.tokens = u :: us ∧ w.tokens = fuse t u :: us := by
  cases z using induction with
  | blank gap =>
      rw [text_blank] at joined
      exact absurd (Apart.of_blank_right (proper_blank_iff.mp hz)) joined
  | cons gap u tail =>
      obtain ⟨gap_blank, hu, apart, htail⟩ := proper_cons_iff.mp hz
      rw [apart_text_iff ht hu gap_blank, Classical.not_imp, not_not] at joined
      obtain ⟨merge, rfl⟩ := joined
      have fused : (fuse t u).literal.toList = t.literal.toList ++ u.literal.toList :=
        String.toList_append
      refine ⟨cons lead (fuse t u) tail, u, tail.tokens,
        proper_cons_iff.mpr ⟨lead_blank, ht.fuse merge, ?_, htail⟩, ?_, merge, rfl, rfl⟩
      · rw [fused]
        exact apart.append_left fun empty => absurd empty hu.literal_ne_nil
      · rw [text_cons, text_cons, fused, List.nil_append, List.append_assoc]

/-- Two layouts whose texts join make one in which the tokens at the seam are fused. -/
theorem exists_fused {y z : Layout} (hy : y.Proper) (hz : z.Proper)
    (joined : ¬ Apart y.text z.text) :
    ∃ (w : Layout) (ts : List Token) (t u : Token) (us : List Token), w.Proper ∧
      w.text = y.text ++ z.text ∧ Merge t u ∧ y.tokens = ts ++ [t] ∧ z.tokens = u :: us ∧
        w.tokens = ts ++ fuse t u :: us := by
  induction y using induction with
  | blank gap =>
      rw [text_blank] at joined
      exact absurd (Apart.of_blank_left (proper_blank_iff.mp hy)) joined
  | cons lead t tail ih =>
      obtain ⟨lead_blank, ht, apart, htail⟩ := proper_cons_iff.mp hy
      rw [text_cons, ← List.append_assoc] at joined
      -- The seam is behind `t` itself, or behind the last token of `tail`.
      by_cases last : tail.text = []
      · rw [last, List.append_nil, Apart.append_left_iff ht.literal_ne_nil] at joined
        obtain ⟨w, u, us, hw, text, merge, right, tokens⟩ :=
          exists_fused_head lead_blank ht hz joined
        refine ⟨w, [], t, u, us, hw, ?_, merge, ?_, right, tokens⟩
        · simp only [text_cons, text, last, List.append_nil, List.append_assoc]
        · rw [tokens_cons, tokens_eq_nil htail last, List.nil_append]
      · rw [Apart.append_left_iff last] at joined
        obtain ⟨w, ts, u, v, vs, hw, text, merge, left, right, tokens⟩ := ih htail joined
        refine ⟨cons lead t w, t :: ts, u, v, vs, proper_cons_iff.mpr ⟨lead_blank, ht, ?_, hw⟩,
          ?_, merge, ?_, right, ?_⟩
        · rwa [text, Apart.append_right_iff last]
        · simp only [text_cons, text, List.append_assoc]
        · rw [tokens_cons, left, List.cons_append]
        · rw [tokens_cons, tokens, List.cons_append]

end Grammar.Layout

namespace Lexer

/-- Apart texts are lexed one behind the other, and the diagnostics of the second are moved to
where it begins. Other texts share one token, made of the last of the first and the first of
the second, which are two words or two integers. -/
theorem finish_append (a b : String) :
    (Apart a.toList b.toList →
      (ofString (a ++ b)).finish.1 = (ofString a).finish.1 ++ (ofString b).finish.1 ∧
      (ofString (a ++ b)).finish.2 = (ofString a).finish.2 ++
        (ofString b).finish.2.map (Diagnostic.rebase (ofString a).drain.2.location)) ∧
    (¬ Apart a.toList b.toList → ∃ ts t u us, Layout.Merge t u ∧
      (ofString a).finish.1 = ts ++ [t] ∧ (ofString b).finish.1 = u :: us ∧
        (ofString (a ++ b)).finish.1 = ts ++ fuse t u :: us) := by
  obtain ⟨y, hy, ytext, ydrained⟩ := exists_layout a
  obtain ⟨z, hz, ztext, -⟩ := exists_layout b
  rw [finish_ofString hy ytext, finish_ofString hz ztext, ← ytext, ← ztext]
  constructor
  · intro apart
    have text : (y.append z).text = (a ++ b).toList := by
      rw [Layout.text_append, ytext, ztext, String.toList_append]
    have base : (ofString a).drain.2.location = .behind y.text := by
      rw [ydrained]
      rfl
    rw [finish_ofString (hy.append hz apart) text, Layout.tokens_append, Layout.diagnostics_append,
      base, ← Layout.diagnostics_rebase, Location.start_after, Location.rebase_start]
    exact ⟨rfl, rfl⟩
  · intro joined
    obtain ⟨w, ts, t, u, us, hw, wtext, merge, left, right, tokens⟩ :=
      Layout.exists_fused hy hz joined
    have text : w.text = (a ++ b).toList := by
      rw [wtext, ytext, ztext, String.toList_append]
    rw [finish_ofString hw text]
    exact ⟨ts, t, u, us, merge, left, right, tokens⟩

theorem finish_append_at_seams :
    (Apart "x\n".toList "y #".toList ∧
      (ofString ("x\n" ++ "y #")).finish.2 = [⟨⟨4, 1, 2⟩, .illegalCharacter '#'⟩]) ∧
    (¬ Apart "fu".toList "nc".toList ∧
      (ofString ("fu" ++ "nc")).finish.1 = [⟨.illegal, "func"⟩]) ∧
    ¬ Apart "func".toList "s".toList ∧
      (ofString ("func" ++ "s")).finish.1 = [⟨.identifier, "funcs"⟩] := by
  have fused {a b : String} {t u : Token} (joined : ¬ Apart a.toList b.toList)
      (ha : (ofString a).finish.1 = [t]) (hb : (ofString b).finish.1 = [u]) :
      (ofString (a ++ b)).finish.1 = [fuse t u] := by
    obtain ⟨ts, t', u', us, -, left, right, whole⟩ := (finish_append a b).2 joined
    rw [ha] at left
    rw [hb] at right
    obtain ⟨rfl, rfl⟩ := List.cons.inj right
    obtain ⟨rfl, same⟩ | ⟨-, none⟩ := List.singleton_eq_append_iff.mp left
    · rw [whole, List.nil_append, ← List.singleton_inj.mp same]
    · cases none
  refine ⟨⟨by decide, ?_⟩, ⟨by decide, ?_⟩, by decide, ?_⟩
  · rw [((finish_append "x\n" "y #").1 (by decide)).2]
    decide +kernel
  · have left : (ofString "fu").finish.1 = [⟨.identifier, "fu"⟩] := by decide +kernel
    have right : (ofString "nc").finish.1 = [⟨.identifier, "nc"⟩] := by decide +kernel
    exact fused (by decide) left right
  · have left : (ofString "func").finish.1 = [⟨.illegal, "func"⟩] := by decide +kernel
    have right : (ofString "s").finish.1 = [⟨.identifier, "s"⟩] := by decide +kernel
    exact fused (by decide) left right

end Lexer
end PlotLexer
