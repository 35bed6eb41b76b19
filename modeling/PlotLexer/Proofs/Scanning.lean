import PlotLexer.Lexer
import PlotLexer.Proofs.Layouts

/-!
A lexer over the text of a proper layout. Each scan passes one gap and takes one token, so
draining the lexer takes exactly the tokens of the layout and reports its diagnostics.
-/
namespace PlotLexer.Lexer
open Grammar

variable {gap lead behind : List Char} {t : Token}

theorem record_eq (ds : Array Diagnostic) (x : Lexeme) :
    record ds x = ds ++ x.diagnostic?.toList.toArray := by
  unfold record
  cases x.diagnostic? with
  | none => exact Array.append_empty.symm
  | some d => exact Array.push_eq_append

theorem skipWhile_append {rest : List Char} (h : ∀ c ∈ gap, isBlank c)
    (stop : ∀ c ∈ rest.head?, isBlank c = false) (loc : Location) :
    Cursor.skipWhile isBlank ⟨gap ++ rest, loc⟩ = ⟨rest, loc.after gap⟩ := by
  have kept : rest.dropWhile isBlank = rest := by
    cases rest with
    | nil => rfl
    | cons c rest =>
        have hc : isBlank c = false := stop c rfl
        exact List.dropWhile_cons_of_neg (Bool.eq_false_iff.mp hc)
  have passed : (gap ++ rest).takeWhile isBlank = gap := by
    have cut := List.takeWhile_append_dropWhile (p := isBlank) (l := gap ++ rest)
    rw [List.dropWhile_append_of_pos h, kept] at cut
    exact List.append_cancel_right cut
  have location := Cursor.skipWhile_location isBlank ⟨gap ++ rest, loc⟩
  have left := Cursor.skipWhile_rest isBlank ⟨gap ++ rest, loc⟩
  rw [passed] at location
  rw [List.dropWhile_append_of_pos h, kept] at left
  exact congrArg₂ Cursor.mk left location

theorem read?_blank (h : ∀ c ∈ gap, isBlank c) (loc : Location) (ds : Array Diagnostic) :
    read? ⟨⟨gap, loc⟩, ds⟩ = (none, ⟨⟨[], loc.after gap⟩, ds⟩) := by
  have stop : ∀ c ∈ ([] : List Char).head?, isBlank c = false := by
    intro c hc
    cases hc
  have skipped := skipWhile_append h stop loc
  rw [List.append_nil] at skipped
  simp only [read?, skipped, Lexeme.read?_eq_none_iff.mpr]

theorem read?_token (h : ∀ c ∈ lead, isBlank c) (ht : WellFormed t)
    (apart : Apart t.literal.toList behind) (loc : Location) (ds : Array Diagnostic) :
    read? ⟨⟨lead ++ (t.literal.toList ++ behind), loc⟩, ds⟩ =
      (some ⟨t, loc.after lead, t.fault?⟩, ⟨⟨behind, loc.after (lead ++ t.literal.toList)⟩,
        ds ++ (t.fault?.map (⟨loc.after lead, ·⟩)).toList.toArray⟩) := by
  have stop : ∀ c ∈ (t.literal.toList ++ behind).head?, isBlank c = false := by
    intro c hc
    rw [List.head?_append_of_ne_nil _ ht.literal_ne_nil] at hc
    exact ht.isBlank_of_mem c (List.mem_of_head? hc)
  simp only [read?, skipWhile_append h stop, Lexeme.read?_of_wellFormed ht apart, record_eq,
    Lexeme.diagnostic?, Location.after_append]

theorem isEndOfInput_of_wellFormed (ht : WellFormed t) : t.isEndOfInput = false :=
  beq_false_of_ne ht.kind_ne_endOfInput

theorem scan_blank (h : ∀ c ∈ gap, isBlank c) (loc : Location) (ds : Array Diagnostic) :
    scan ⟨⟨gap, loc⟩, ds⟩ = (.endOfInput, ⟨⟨[], loc.after gap⟩, ds⟩) := by
  simp only [scan, read?_blank h]

theorem next?_blank (h : ∀ c ∈ gap, isBlank c) (loc : Location) (ds : Array Diagnostic) :
    next? ⟨⟨gap, loc⟩, ds⟩ = (none, ⟨⟨[], loc.after gap⟩, ds⟩) := by
  simp only [next?, scan_blank h, Token.isEndOfInput_endOfInput, ↓reduceIte]

theorem next?_token (h : ∀ c ∈ lead, isBlank c) (ht : WellFormed t)
    (apart : Apart t.literal.toList behind) (loc : Location) (ds : Array Diagnostic) :
    next? ⟨⟨lead ++ (t.literal.toList ++ behind), loc⟩, ds⟩ =
      (some t, ⟨⟨behind, loc.after (lead ++ t.literal.toList)⟩,
        ds ++ (t.fault?.map (⟨loc.after lead, ·⟩)).toList.toArray⟩) := by
  simp only [next?, scan, read?_token h ht apart, isEndOfInput_of_wellFormed ht,
    Bool.false_eq_true, ↓reduceIte]

theorem drain_of_none {l m : Lexer} (h : l.next? = (none, m)) : l.drain = ([], m) := by
  rw [drain]
  split
  · next h' => cases h'.symm.trans h; rfl
  · next h' => cases h'.symm.trans h

theorem drain_of_some {l m : Lexer} (h : l.next? = (some t, m)) :
    l.drain = (t :: m.drain.1, m.drain.2) := by
  rw [drain]
  split
  · next h' => cases h'.symm.trans h
  · next h' => cases h'.symm.trans h; rfl

/-- Draining takes the tokens of the layout, whatever blanks are between them. -/
theorem drain_of_proper {y : Layout} (h : y.Proper) (loc : Location) (ds : Array Diagnostic) :
    drain ⟨⟨y.text, loc⟩, ds⟩ =
      (y.tokens, ⟨⟨[], loc.after y.text⟩, ds ++ (y.diagnostics loc).toArray⟩) := by
  induction y using Layout.induction generalizing loc ds with
  | blank gap =>
      rw [Layout.text_blank, drain_of_none (next?_blank (Layout.proper_blank_iff.mp h) loc ds)]
      simp
  | cons lead t tail ih =>
      obtain ⟨lead_blank, ht, apart, htail⟩ := Layout.proper_cons_iff.mp h
      rw [Layout.text_cons, drain_of_some (next?_token lead_blank ht apart loc ds), ih htail]
      simp only [Layout.tokens_cons, Layout.diagnostics_cons, ← List.append_assoc,
        Location.after_append _ (lead ++ t.literal.toList), ← List.append_toArray,
        Array.append_assoc]

theorem finish_of_proper {y : Layout} (h : y.Proper) (loc : Location) (ds : Array Diagnostic) :
    finish ⟨⟨y.text, loc⟩, ds⟩ = (y.tokens, y.diagnostics loc) := by
  simp [finish, drain_of_proper h]

end PlotLexer.Lexer
