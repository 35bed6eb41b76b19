import PlotLexer.Lexer

/-!
Several lexers side by side. A step of a session addresses one lexer by its index and leaves the
others alone. Finishing a lexer uses it up: later steps find no lexer at its index.
-/
namespace PlotLexer

/-- What can be asked at an index of a session. -/
inductive Command where
  | action (a : Action)
  | finish
  deriving DecidableEq

inductive Answer where
  /-- The index is out of range, or its lexer is used up. -/
  | noLexer
  | finished (tokens : List Token) (diagnostics : List Diagnostic)
  /-- The reply, and the location and the number of diagnostics after it. -/
  | replied (reply : Reply) (location : Location) (diagnosticCount : Nat)
  deriving DecidableEq

/-- One place per input; it is empty once its lexer is used up. -/
structure Session where
  lexers : List (Option Lexer)
  deriving DecidableEq

namespace Session

structure Step where
  index : Nat
  command : Command
  deriving DecidableEq

def ofInputs (inputs : List String) : Session :=
  ⟨inputs.map fun input => some (.ofString input)⟩

def step (s : Session) (st : Step) : Answer × Session :=
  match s.lexers[st.index]?.join, st.command with
  | none, _ => (.noLexer, s)
  | some l, .finish =>
    let (ts, ds) := l.finish
    (.finished ts ds, ⟨s.lexers.set st.index none⟩)
  | some l, .action a =>
    let (reply, l') := l.perform a
    (.replied reply l'.location l'.diagnostics.size, ⟨s.lexers.set st.index (some l')⟩)

def run (s : Session) : List Step → List Answer × Session
  | [] => ([], s)
  | st :: sts =>
    let (answer, s) := s.step st
    let (answers, s) := s.run sts
    (answer :: answers, s)

end Session
end PlotLexer
