import PlotLexer.Grammar

/-!
Symbols and keywords are tables without gaps or repetitions, so looking an entry up by its
character or its spelling finds exactly the entry that has it.
-/
namespace PlotLexer

/-- In a complete table, the entry found by a key is the only one with that key. -/
theorem find?_key_eq_some_iff {α β : Type} [DecidableEq β] {table : List α} {key : α → β}
    (complete : ∀ a, a ∈ table) (injective : ∀ a b, key a = key b → a = b) {a : α} {b : β} :
    table.find? (fun a => decide (key a = b)) = some a ↔ key a = b := by
  have sound {a : α} (found : table.find? (fun a => decide (key a = b)) = some a) : key a = b := by
    have kept := List.find?_some found
    exact of_decide_eq_true kept
  constructor
  · exact sound
  · intro same
    cases found : table.find? (fun a => decide (key a = b)) with
    | none =>
        have absent := List.find?_eq_none.mp found a (complete a)
        exact absurd (decide_eq_true same) absent
    | some a' => rw [injective a' a ((sound found).trans same.symm)]

namespace Symbol

theorem char_injective (s s' : Symbol) (h : s.char = s'.char) : s = s' :=
  Option.some.inj (by rw [← ofChar?_char s, h, ofChar?_char])

theorem find?_char (c : Char) : all.find? (fun s => decide (s.char = c)) = ofChar? c := by
  ext s
  exact (find?_key_eq_some_iff mem_all char_injective).trans ofChar?_eq_some_iff.symm

theorem ofChar?_eq_none_iff {c : Char} : ofChar? c = none ↔ ∀ s : Symbol, s.char ≠ c := by
  simp only [Option.eq_none_iff_forall_ne_some, ne_eq, ofChar?_eq_some_iff]

@[simp] theorem isBlank_char (s : Symbol) : isBlank s.char = false := by cases s <;> rfl

@[simp] theorem isLetter_char (s : Symbol) : isLetter s.char = false := by cases s <;> rfl

@[simp] theorem isDigit_char (s : Symbol) : isDigit s.char = false := by cases s <;> rfl

end Symbol

namespace Keyword

theorem spelling_injective (k k' : Keyword) (h : k.spelling = k'.spelling) : k = k' := by
  cases k; cases k'; rfl

theorem ofSpelling?_eq_some_iff {word : String} {k : Keyword} :
    ofSpelling? word = some k ↔ k.spelling = word :=
  find?_key_eq_some_iff mem_all spelling_injective

@[simp] theorem ofSpelling?_spelling (k : Keyword) : ofSpelling? k.spelling = some k :=
  ofSpelling?_eq_some_iff.mpr rfl

theorem ofSpelling?_eq_none_iff {word : String} :
    ofSpelling? word = none ↔ ∀ k : Keyword, k.spelling ≠ word := by
  simp only [Option.eq_none_iff_forall_ne_some, ne_eq, ofSpelling?_eq_some_iff]

theorem find?_spelling (word : List Char) :
    all.find? (fun k => decide (k.spelling.toList = word)) = ofSpelling? (String.ofList word) := by
  ext k
  have injective (k k' : Keyword) (h : k.spelling.toList = k'.spelling.toList) : k = k' :=
    spelling_injective k k' (String.toList_inj.mp h)
  rw [find?_key_eq_some_iff mem_all injective, ofSpelling?_eq_some_iff, ← String.toList_inj,
    String.toList_ofList]

@[simp] theorem kind_eq (k : Keyword) : k.kind = .illegal := by cases k; rfl

theorem isLetter_of_mem_spelling (k : Keyword) : ∀ c ∈ k.spelling.toList, isLetter c := by
  rw [← List.all_eq_true]
  cases k; decide

theorem spelling_ne_nil (k : Keyword) : k.spelling.toList ≠ [] := by
  cases k; decide

end Keyword

/-- A word is classified by the keyword it spells, if any. -/
theorem Grammar.wordKind_eq (word : List Char) :
    wordKind word = (Keyword.ofSpelling? (String.ofList word)).elim .identifier Keyword.kind := by
  rw [wordKind, Keyword.find?_spelling]
  cases Keyword.ofSpelling? (String.ofList word) <;> rfl

/-- A stray character is what is left when no class and no symbol takes it. -/
theorem Grammar.isStray_iff {c : Char} :
    IsStray c ↔ isBlank c = false ∧ isLetter c = false ∧ isDigit c = false ∧
      Symbol.ofChar? c = none := by
  rw [Symbol.ofChar?_eq_none_iff, IsStray]

end PlotLexer
