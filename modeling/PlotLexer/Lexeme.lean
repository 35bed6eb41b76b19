import PlotLexer.Cursor
import PlotLexer.Diagnostic

/-!
One token as it stands in a text: where it begins, and what is wrong with it. The first
character decides what is read: a letter a word, a digit an integer, anything else itself.
-/
namespace PlotLexer

structure Lexeme where
  token : Token
  start : Location
  fault? : Option Fault
  deriving DecidableEq

namespace Lexeme

/-- A whole run of letters, which is an identifier unless it spells a keyword. -/
def word (start : Location) (run : List Char) : Lexeme :=
  match Keyword.ofSpelling? (String.ofList run) with
  | some keyword => ⟨⟨keyword.kind, String.ofList run⟩, start, some (.reservedKeyword keyword)⟩
  | none => ⟨⟨.identifier, String.ofList run⟩, start, none⟩

def integer (start : Location) (run : List Char) : Lexeme :=
  ⟨⟨.integer, String.ofList run⟩, start, none⟩

def single (start : Location) (c : Char) : Lexeme :=
  match Token.Kind.ofSymbolChar? c with
  | some kind => ⟨⟨kind, String.singleton c⟩, start, none⟩
  | none => ⟨⟨.illegal, String.singleton c⟩, start, some (.illegalCharacter c)⟩

/-- The lexeme that begins with the current character, and the cursor behind it. -/
def read? (k : Cursor) : Option (Lexeme × Cursor) :=
  match k.current? with
  | none => none
  | some c =>
    if isLetter c then
      let (run, behind) := k.readRun isLetter
      some (word k.location run, behind)
    else if isDigit c then
      let (run, behind) := k.readRun isDigit
      some (integer k.location run, behind)
    else some (single k.location c, k.advance)

def diagnostic? (x : Lexeme) : Option Diagnostic :=
  x.fault?.map (⟨x.start, ·⟩)

theorem length_rest_read?_lt {k behind : Cursor} {x : Lexeme}
    (h : read? k = some (x, behind)) : behind.rest.length < k.rest.length := by
  unfold read? at h
  split at h
  · cases h
  · next c hc =>
    split at h
    · cases h
      exact Cursor.length_rest_readRun_lt _ hc
    · split at h
      · cases h
        exact Cursor.length_rest_readRun_lt _ hc
      · cases h
        exact Cursor.length_rest_advance_lt hc

theorem read?_eq_none_iff {k : Cursor} : read? k = none ↔ k.rest = [] := by
  obtain ⟨rest, l⟩ := k
  cases rest with
  | nil => simp only [read?, Cursor.current?, List.head?_nil]
  | cons c cs =>
    simp only [read?, Cursor.current?, List.head?_cons, reduceCtorEq, iff_false]
    split
    · exact Option.some_ne_none _
    · split <;> exact Option.some_ne_none _

end Lexeme
end PlotLexer
