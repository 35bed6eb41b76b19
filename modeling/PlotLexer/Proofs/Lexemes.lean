import PlotLexer.Lexeme
import PlotLexer.Proofs.Tokens

/-!
Reading a lexeme takes a well-formed token off the head of the text, exactly as long as longest
match makes it. Its fault is a function of the token alone.
-/
namespace PlotLexer

/-- What an illegal token is at fault for: the keyword it spells, or else the character it is. -/
def Token.fault? (t : Token) : Option Fault :=
  if t.kind = .illegal then
    match Keyword.ofSpelling? t.literal, t.literal.toList with
    | some k, _ => some (.reservedKeyword k)
    | none, [c] => some (.illegalCharacter c)
    | none, _ => none
  else none

theorem Keyword.ofSpelling?_singleton {c : Char} (h : isLetter c = false) :
    ofSpelling? (String.singleton c) = none := by
  rw [ofSpelling?_eq_none_iff]
  intro k hk
  have letter := k.isLetter_of_mem_spelling c
  rw [hk, String.toList_singleton] at letter
  exact Bool.eq_false_iff.mp h (letter (List.mem_singleton_self c))

namespace Token

@[simp] theorem fault?_keyword (k : Keyword) :
    fault? ⟨.illegal, k.spelling⟩ = some (.reservedKeyword k) := by
  simp only [fault?, Keyword.ofSpelling?_spelling, ↓reduceIte]

theorem fault?_singleton {c : Char} (h : isLetter c = false) :
    fault? ⟨.illegal, String.singleton c⟩ = some (.illegalCharacter c) := by
  simp only [fault?, Keyword.ofSpelling?_singleton h, String.toList_singleton, ↓reduceIte]

end Token

namespace Cursor

theorem readRun_cons (p : Char → Bool) (c : Char) (cs : List Char) (l : Location) :
    readRun p ⟨c :: cs, l⟩ =
      (c :: cs.takeWhile p, ⟨cs.dropWhile p, l.after (c :: cs.takeWhile p)⟩) := by
  have rest := splitRun_rest p cs (l.past c)
  have location := splitRun_location p cs (l.past c)
  rw [splitRun_fst] at location
  simp only [readRun, splitRun_fst, Location.after_cons, ← rest, ← location]

theorem readRun_of_pos {p : Char → Bool} {c : Char} (h : p c) (cs : List Char) (l : Location) :
    readRun p ⟨c :: cs, l⟩ = ((c :: cs).takeWhile p,
      ⟨(c :: cs).dropWhile p, l.after ((c :: cs).takeWhile p)⟩) := by
  rw [readRun_cons, List.takeWhile_cons_of_pos h, List.dropWhile_cons_of_pos h]

end Cursor

namespace Lexeme
open Grammar
variable {c : Char} {cs : List Char}

theorem word_eq (l : Location) (run : List Char) : word l run =
    ⟨⟨wordKind run, String.ofList run⟩, l, Token.fault? ⟨wordKind run, String.ofList run⟩⟩ := by
  cases reserved : Keyword.ofSpelling? (String.ofList run) with
  | some k =>
      simp only [word, wordKind_eq, Token.fault?, reserved, Option.elim_some, k.kind_eq, ↓reduceIte]
  | none =>
      simp only [word, wordKind_eq, Token.fault?, reserved, Option.elim_none, reduceCtorEq,
        ↓reduceIte]

theorem single_eq (cs : List Char) (l : Location) (hl : isLetter c = false)
    (hd : isDigit c = false) :
    single l c = ⟨⟨(munch c cs).1, String.ofList (munch c cs).2⟩, l,
      Token.fault? ⟨(munch c cs).1, String.ofList (munch c cs).2⟩⟩ := by
  rw [munch_single hl hd, ← String.singleton_eq_ofList]
  cases mark : Symbol.ofChar? c with
  | some s => simp only [single, Token.Kind.ofSymbolChar?, mark, Option.map_some, Token.fault?,
      reduceCtorEq, ↓reduceIte]
  | none => simp only [single, Token.Kind.ofSymbolChar?, mark, Option.map_none, Token.fault?,
      Keyword.ofSpelling?_singleton hl, String.toList_singleton, ↓reduceIte]

/-- One step of the reader against longest match on the characters that are left. -/
theorem read?_cons (c : Char) (cs : List Char) (l : Location) : read? ⟨c :: cs, l⟩ =
    some (⟨⟨(munch c cs).1, String.ofList (munch c cs).2⟩, l,
        Token.fault? ⟨(munch c cs).1, String.ofList (munch c cs).2⟩⟩,
      ⟨(c :: cs).drop (munch c cs).2.length, l.after (munch c cs).2⟩) := by
  have run_drop (p : Char → Bool) :
      (c :: cs).drop ((c :: cs).takeWhile p).length = (c :: cs).dropWhile p := by
    have cut := List.prefix_iff_eq_append.mp (List.takeWhile_prefix (l := c :: cs) p)
    exact List.append_cancel_left (cut.trans List.takeWhile_append_dropWhile.symm)
  by_cases hl : isLetter c
  · simp only [read?, Cursor.current?, List.head?_cons, hl, ↓reduceIte, Cursor.readRun_of_pos hl,
      word_eq, munch_of_isLetter hl, run_drop]
  · by_cases hd : isDigit c
    · simp only [read?, Cursor.current?, List.head?_cons, hl, hd, ↓reduceIte,
        Cursor.readRun_of_pos hd, integer, munch_of_isDigit hd, run_drop, Token.fault?,
        reduceCtorEq, Bool.false_eq_true]
    · have hl' := Bool.eq_false_iff.mpr hl
      have hd' := Bool.eq_false_iff.mpr hd
      simp only [read?, Cursor.current?, List.head?_cons, hl, hd, Bool.false_eq_true, ↓reduceIte,
        single_eq cs l hl' hd']
      rw [munch_single hl' hd']
      rfl

/-- A well-formed token that is apart from the rest is read back whole. -/
theorem read?_of_wellFormed {t : Token} {behind : List Char} (h : WellFormed t)
    (apart : Apart t.literal.toList behind) (l : Location) :
    read? ⟨t.literal.toList ++ behind, l⟩ =
      some (⟨t, l, t.fault?⟩, ⟨behind, l.after t.literal.toList⟩) := by
  cases split : t.literal.toList ++ behind with
  | nil => exact absurd (List.append_eq_nil_iff.mp split).1 h.literal_ne_nil
  | cons c cs =>
      rw [read?_cons, munch_of_wellFormed h split apart, String.ofList_toList, ← split,
        List.drop_left]

end Lexeme
end PlotLexer
