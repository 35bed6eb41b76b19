import PlotLexer.Token
import PlotLexer.Location

/-!
What the lexer objects to, and where. A diagnostic is reported as one line: its location, the
name of the fault, and the message.
-/
namespace PlotLexer

inductive Fault where
  | illegalCharacter (c : Char)
  | reservedKeyword (k : Keyword)
  deriving DecidableEq

namespace Fault

def name : Fault → String
  | .illegalCharacter _ => "IllegalCharacter"
  | .reservedKeyword _ => "ReservedKeyword"

/-- The character is shown raw, the keyword by its spelling. -/
def message : Fault → String
  | .illegalCharacter c => "Illegal character `" ++ String.singleton c ++ "`"
  | .reservedKeyword k => "`" ++ k.spelling ++ "` is a reserved word and can't be used yet"

@[simp] theorem name_illegalCharacter (c : Char) : name (.illegalCharacter c) = "IllegalCharacter" :=
  rfl

@[simp] theorem name_reservedKeyword (k : Keyword) : name (.reservedKeyword k) = "ReservedKeyword" :=
  rfl

@[simp] theorem message_illegalCharacter (c : Char) :
    message (.illegalCharacter c) = "Illegal character `" ++ String.singleton c ++ "`" := rfl

@[simp] theorem message_reservedKeyword (k : Keyword) : message (.reservedKeyword k) =
    "`" ++ k.spelling ++ "` is a reserved word and can't be used yet" := rfl

end Fault

/-- The location is that of the first character of the token at fault. -/
structure Diagnostic where
  location : Location
  fault : Fault
  deriving DecidableEq

namespace Diagnostic

/-- A diagnostic of a text that begins at `base` of another. -/
def rebase (base : Location) (d : Diagnostic) : Diagnostic :=
  { d with location := base.rebase d.location }

def message (d : Diagnostic) : String :=
  d.fault.message

def report (d : Diagnostic) : Except Location.TextError String := do
  return (← d.location.text) ++ ": " ++ d.fault.name ++ ": " ++ d.message

end Diagnostic
end PlotLexer
