import PlotLexer.Lexeme

/-!
A lexer is a cursor in a plot and the diagnostics found so far. Each scan passes the blanks
before the next lexeme, reads it, and records its diagnostic. At the end of the text every
scan gives the end of input again.

The ways to consume a lexer ask `next?` for one token after another, stop at the first that is
missing or not wanted, and leave the lexer behind the last one asked for. A history of actions leads
from a fresh lexer to each lexer that is ever seen, and takes some tokens from it on the way.
-/
namespace PlotLexer

structure Lexer where
  cursor : Cursor
  diagnostics : Array Diagnostic
  deriving DecidableEq

namespace Lexer

def ofString (input : String) : Lexer :=
  ⟨.ofString input, #[]⟩

/-- The place of the character that the next scan looks at first. -/
def location (l : Lexer) : Location :=
  l.cursor.location

def record (diagnostics : Array Diagnostic) (x : Lexeme) : Array Diagnostic :=
  match x.diagnostic? with
  | some d => diagnostics.push d
  | none => diagnostics

/-- The next lexeme, or none when only blanks are left. The blanks are passed either way. -/
def read? (l : Lexer) : Option Lexeme × Lexer :=
  let k := l.cursor.skipWhile isBlank
  match Lexeme.read? k with
  | some (x, behind) => (some x, ⟨behind, record l.diagnostics x⟩)
  | none => (none, ⟨k, l.diagnostics⟩)

/-- The next token, which is the end of input when there is no lexeme left. -/
def scan (l : Lexer) : Token × Lexer :=
  match l.read? with
  | (some x, l) => (x.token, l)
  | (none, l) => (.endOfInput, l)

/-- Like `scan`, with no token in place of the end of input. -/
def next? (l : Lexer) : Option Token × Lexer :=
  let (t, l) := l.scan
  (if t.isEndOfInput then none else some t, l)

theorem length_rest_read?_lt {l m : Lexer} {x : Lexeme} (h : l.read? = (some x, m)) :
    m.cursor.rest.length < l.cursor.rest.length := by
  unfold read? at h
  dsimp only at h
  split at h
  · next behind hx =>
    cases h
    exact Nat.lt_of_lt_of_le (Lexeme.length_rest_read?_lt hx)
      (Cursor.length_rest_skipWhile_le _ _)
  · cases h

theorem length_rest_scan_lt {l m : Lexer} {t : Token} (h : l.scan = (t, m))
    (ht : t.isEndOfInput = false) : m.cursor.rest.length < l.cursor.rest.length := by
  unfold scan at h
  split at h
  · next hx =>
    cases h
    exact length_rest_read?_lt hx
  · cases h
    cases ht

theorem length_rest_next?_lt {l m : Lexer} {t : Token} (h : l.next? = (some t, m)) :
    m.cursor.rest.length < l.cursor.rest.length := by
  unfold next? at h
  dsimp only at h
  split at h
  · cases h
  · next ht =>
    cases h
    exact length_rest_scan_lt rfl (Bool.eq_false_iff.mpr ht)

/-- Up to `n` tokens. None is asked for beyond the last one returned, except at the end. -/
def take : Nat → Lexer → List Token × Lexer
  | 0, l => ([], l)
  | n + 1, l =>
    match l.next? with
    | (none, l) => ([], l)
    | (some t, l) =>
      let (ts, l) := take n l
      (t :: ts, l)

/-- The token behind `n` dropped ones. -/
def nth? : Nat → Lexer → Option Token × Lexer
  | 0, l => l.next?
  | n + 1, l =>
    match l.next? with
    | (none, l) => (none, l)
    | (some _, l) => nth? n l

/-- The tokens before the first one that satisfies `stop`, which is dropped. -/
def takeUntil (stop : Token → Bool) (l : Lexer) : List Token × Lexer :=
  match _h : l.next? with
  | (none, l') => ([], l')
  | (some t, l') =>
    if stop t then ([], l')
    else
      let (ts, l'') := takeUntil stop l'
      (t :: ts, l'')
termination_by l.cursor.rest.length
decreasing_by exact length_rest_next?_lt _h

def drain (l : Lexer) : List Token × Lexer :=
  match _h : l.next? with
  | (none, l') => ([], l')
  | (some t, l') =>
    let (ts, l'') := drain l'
    (t :: ts, l'')
termination_by l.cursor.rest.length
decreasing_by exact length_rest_next?_lt _h

def count (l : Lexer) : Nat × Lexer :=
  let (ts, l) := l.drain
  (ts.length, l)

/-- All the tokens that are left, and the diagnostics found on the way to them alone. -/
def finish (l : Lexer) : List Token × List Diagnostic :=
  let (ts, l') := l.drain
  (ts, l'.diagnostics.toList.drop l.diagnostics.size)

/-- Every token up to and including the end of input, with the location behind it. -/
def walk (l : Lexer) : List (Token × Location) :=
  match _h : l.scan with
  | (t, l') =>
    if _ht : t.isEndOfInput then [(t, l'.location)]
    else (t, l'.location) :: walk l'
termination_by l.cursor.rest.length
decreasing_by exact length_rest_scan_lt _h (Bool.eq_false_iff.mpr _ht)

end Lexer

def tokenize (input : String) : List Token :=
  let (ts, l) := (Lexer.ofString input).drain
  ts ++ [l.scan.1]

inductive Action where
  | scan
  | next
  | nth (n : Nat)
  | take (n : Nat)
  | takeUntil (kind : Token.Kind)
  | count
  | location
  | diagnostics
  deriving DecidableEq

inductive Reply where
  | token (t : Token)
  | token? (t? : Option Token)
  | tokens (ts : List Token)
  | count (n : Nat)
  | location (l : Location)
  | diagnostics (ds : List Diagnostic)
  deriving DecidableEq

namespace Lexer

def perform (l : Lexer) : Action → Reply × Lexer
  | .scan => let (t, l) := l.scan; (.token t, l)
  | .next => let (t?, l) := l.next?; (.token? t?, l)
  | .nth n => let (t?, l) := l.nth? n; (.token? t?, l)
  | .take n => let (ts, l) := l.take n; (.tokens ts, l)
  | .takeUntil kind => let (ts, l) := l.takeUntil (·.kind == kind); (.tokens ts, l)
  | .count => let (n, l) := l.count; (.count n, l)
  | .location => (.location l.location, l)
  | .diagnostics => (.diagnostics l.diagnostics.toList, l)

/-- The lexer behind a history of actions. -/
def performAll (l : Lexer) (as : List Action) : Lexer :=
  as.foldl (fun l a => (l.perform a).2) l

def replies (l : Lexer) : List Action → List Reply
  | [] => []
  | a :: as => (l.perform a).1 :: replies (l.perform a).2 as

/-- The tokens that an action takes, whether it returns or drops them. -/
def taken (l : Lexer) : Action → List Token
  | .scan => (l.take 1).1
  | .next => (l.take 1).1
  | .nth n => (l.take (n + 1)).1
  | .take n => (l.take n).1
  | .takeUntil kind => (l.take ((l.takeUntil (·.kind == kind)).1.length + 1)).1
  | .count => l.drain.1
  | .location => []
  | .diagnostics => []

def takenAll (l : Lexer) : List Action → List Token
  | [] => []
  | a :: as => l.taken a ++ takenAll (l.perform a).2 as

end Lexer
end PlotLexer
