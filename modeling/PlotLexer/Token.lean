import PlotLexer.Alphabet
import PlotLexer.Text.Quoted

/-!
Tokens, their kinds, and the reserved words. Every kind has a name, by which it is found again; a word
that spells a keyword is never an identifier. The text of a token is the name of its kind, a space,
and the quoted literal, and `ofText?` reads that text back.
-/
namespace PlotLexer

namespace Token

inductive Kind where
  | illegal
  | endOfInput
  | identifier
  | integer
  | symbol (s : Symbol)
  deriving DecidableEq

inductive KindError where
  | unknownName
  deriving DecidableEq

def KindError.message : KindError → String
  | .unknownName => "Matching variant not found"

namespace Kind

def all : List Kind :=
  [.illegal, .endOfInput, .identifier, .integer] ++ Symbol.all.map .symbol

def symbol? : Kind → Option Symbol
  | .symbol s => some s
  | _ => none

def name : Kind → String
  | .illegal => "ILLEGAL"
  | .endOfInput => "EOF"
  | .identifier => "IDENT"
  | .integer => "INT"
  | .symbol .equal => "="
  | .symbol .plus => "+"
  | .symbol .comma => ","
  | .symbol .semicolon => ";"
  | .symbol .dot => "."
  | .symbol .leftParen => "("
  | .symbol .rightParen => ")"
  | .symbol .leftBrace => "\x7b"
  | .symbol .rightBrace => "\x7d"
  | .symbol .leftBracket => "["
  | .symbol .rightBracket => "]"

/-- The kind of a name. Names are matched exactly. -/
def ofName (name : String) : Except KindError Kind :=
  match all.find? (·.name == name) with
  | some kind => .ok kind
  | none => .error .unknownName

def ofSymbolChar? (c : Char) : Option Kind :=
  (Symbol.ofChar? c).map .symbol

theorem mem_all (kind : Kind) : kind ∈ all := by
  cases kind with
  | symbol s =>
    exact List.mem_append_right _ (List.mem_map.mpr ⟨s, s.mem_all, rfl⟩)
  | _ => decide

/-- The table of names and that of the marks agree: a symbol is named by its character. -/
theorem name_symbol (s : Symbol) : name (.symbol s) = String.singleton s.char := by
  cases s <;> rfl

end Kind
end Token

inductive Keyword where
  | func
  deriving DecidableEq

namespace Keyword

def all : List Keyword := [.func]

def spelling : Keyword → String
  | .func => "func"

/-- The keyword with exactly this spelling. -/
def ofSpelling? (word : String) : Option Keyword :=
  all.find? (·.spelling == word)

/-- Functions are reserved but not usable yet, so their keyword is illegal. -/
def kind : Keyword → Token.Kind
  | .func => .illegal

theorem mem_all (k : Keyword) : k ∈ all := by
  cases k; decide

end Keyword

structure Token where
  kind : Token.Kind
  literal : String
  deriving DecidableEq

namespace Token

def endOfInput : Token := ⟨.endOfInput, ""⟩

/-- Looks at the kind alone. -/
def isEndOfInput (t : Token) : Bool :=
  t.kind == .endOfInput

def identifier? (t : Token) : Option String :=
  match t.kind with
  | .identifier => some t.literal
  | _ => none

def text (t : Token) : String :=
  t.kind.name ++ " " ++ String.ofList (Text.Quoted.encode .double t.literal.toList)

/-- The kind is named before the first space, the literal is quoted behind it. -/
def ofText? (s : String) : Option Token :=
  let (name, rest) := s.toList.span (· != ' ')
  match Kind.ofName (String.ofList name), Text.Quoted.decode .double rest.tail with
  | .ok kind, some literal => some ⟨kind, String.ofList literal⟩
  | _, _ => none

@[simp] theorem isEndOfInput_endOfInput : endOfInput.isEndOfInput = true := rfl

end Token
end PlotLexer
