/-!
The alphabet of a plot: blanks, letters and digits, and eleven punctuation marks, each of which is
one fixed character. All of it is ASCII; any other character is of no class.
-/
namespace PlotLexer

/-- What separates tokens and belongs to none. -/
def isBlank (c : Char) : Bool :=
  c == ' ' || c == '\t' || c == '\n' || c == '\r'

/-- Digits are not part of a word. -/
def isLetter (c : Char) : Bool :=
  c.isAlpha || c == '_'

def isDigit (c : Char) : Bool :=
  c.isDigit

/-- Whether two neighbours belong to one token. -/
def joins (c d : Char) : Bool :=
  isLetter c && isLetter d || isDigit c && isDigit d

inductive Symbol where
  | equal
  | plus
  | comma
  | semicolon
  | dot
  | leftParen
  | rightParen
  | leftBrace
  | rightBrace
  | leftBracket
  | rightBracket
  deriving DecidableEq

namespace Symbol

def all : List Symbol :=
  [.equal, .plus, .comma, .semicolon, .dot, .leftParen, .rightParen,
    .leftBrace, .rightBrace, .leftBracket, .rightBracket]

def char : Symbol → Char
  | .equal => '='
  | .plus => '+'
  | .comma => ','
  | .semicolon => ';'
  | .dot => '.'
  | .leftParen => '('
  | .rightParen => ')'
  | .leftBrace => '\x7b'
  | .rightBrace => '\x7d'
  | .leftBracket => '['
  | .rightBracket => ']'

def ofChar? (c : Char) : Option Symbol :=
  match c with
  | '=' => some .equal
  | '+' => some .plus
  | ',' => some .comma
  | ';' => some .semicolon
  | '.' => some .dot
  | '(' => some .leftParen
  | ')' => some .rightParen
  | '\x7b' => some .leftBrace
  | '\x7d' => some .rightBrace
  | '[' => some .leftBracket
  | ']' => some .rightBracket
  | _ => none

theorem mem_all (s : Symbol) : s ∈ all := by
  cases s <;> decide

@[simp] theorem ofChar?_char (s : Symbol) : ofChar? s.char = some s := by
  cases s <;> rfl

theorem char_of_ofChar? {c : Char} {s : Symbol} (h : ofChar? c = some s) : s.char = c := by
  unfold ofChar? at h
  split at h <;> cases h <;> rfl

theorem ofChar?_eq_some_iff {c : Char} {s : Symbol} : ofChar? c = some s ↔ s.char = c :=
  ⟨char_of_ofChar?, fun h => h ▸ ofChar?_char s⟩

end Symbol

end PlotLexer
