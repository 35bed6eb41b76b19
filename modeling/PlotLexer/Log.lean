import PlotLexer.Lexer

/-!
What a lexer logs while it runs. A fault is logged before the token it belongs to, and every
token but the end of input is logged. Verbosity decides at each entry whether it is kept.
-/
namespace PlotLexer

/-- From the gravest to the most detailed. -/
inductive Severity where
  | error
  | warn
  | info
  | debug
  | trace
  deriving DecidableEq

def Severity.rank : Severity → Nat
  | .error => 1
  | .warn => 2
  | .info => 3
  | .debug => 4
  | .trace => 5

/-- The most detailed severity that is still logged, if any is. -/
inductive Verbosity where
  | off
  | upTo (most : Severity)
  deriving DecidableEq

def Verbosity.admits : Verbosity → Severity → Bool
  | .off, _ => false
  | .upTo most, s => s.rank ≤ most.rank

inductive LogEntry where
  | fault (d : Diagnostic)
  | lexed (t : Token)
  deriving DecidableEq

namespace LogEntry

def severity : LogEntry → Severity
  | .fault _ => .debug
  | .lexed _ => .trace

/-- An illegal character is quoted here, unlike in the message of its diagnostic. -/
def message : LogEntry → Except Location.TextError String
  | .fault ⟨l, .illegalCharacter c⟩ => do
    let quoted := String.ofList (Text.Quoted.encode .single [c])
    return "Illegal character " ++ quoted ++ " at " ++ (← l.text)
  | .fault ⟨l, .reservedKeyword k⟩ => do
    return "Reserved keyword `" ++ k.spelling ++ "` at " ++ (← l.text)
  | .lexed t => .ok ("Lexed " ++ t.text)

end LogEntry

structure Log where
  verbosity : Verbosity
  entries : Array LogEntry

namespace Log

def empty (v : Verbosity) : Log := ⟨v, #[]⟩

def emit (log : Log) (e : LogEntry) : Log :=
  if log.verbosity.admits e.severity then { log with entries := log.entries.push e } else log

def emitLexeme (log : Log) (x : Lexeme) : Log :=
  match x.diagnostic? with
  | some d => (log.emit (.fault d)).emit (.lexed x.token)
  | none => log.emit (.lexed x.token)

end Log

namespace Lexer

def runLogged (log : Log) (l : Lexer) : List Token × Log :=
  match _h : l.read? with
  | (none, _) => ([.endOfInput], log)
  | (some x, l') =>
    let (ts, log') := runLogged (log.emitLexeme x) l'
    (x.token :: ts, log')
termination_by l.cursor.rest.length
decreasing_by exact length_rest_read?_lt _h

end Lexer

def tokenizeLogged (v : Verbosity) (input : String) : List Token × List LogEntry :=
  let (ts, log) := (Lexer.ofString input).runLogged (.empty v)
  (ts, log.entries.toList)

end PlotLexer
