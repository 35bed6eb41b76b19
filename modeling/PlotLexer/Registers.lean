import PlotLexer.Diagnostic

/-!
A lexer that does not hold the text ahead. Its registers look each character up by byte offset, its
loops advance them one character at a time, and its literals are cut out of the text between two
offsets. A call gives a token, unless a cut is not at character boundaries.
-/
namespace PlotLexer

/-- The character that begins at a byte offset. There is none at the end of the text, nor at an
offset that is no boundary. -/
def charAt? (input : String) (offset : Nat) : Option Char :=
  (input.pos? ⟨offset⟩).bind (·.get?)

/-- The part of a text between two byte offsets, which have to be boundaries in this order. -/
def slice? (input : String) (first last : Nat) : Option String := do
  let p ← input.pos? ⟨first⟩
  let q ← input.pos? ⟨last⟩
  let part ← input.slice? p q
  return part.copy

theorem lt_of_charAt?_eq_some {input : String} {offset : Nat} {c : Char}
    (h : charAt? input offset = some c) : offset < input.utf8ByteSize := by
  obtain ⟨p, found, here⟩ := Option.bind_eq_some_iff.mp h
  have place : p.offset = ⟨offset⟩ := by
    unfold String.pos? String.Slice.pos? at found
    split at found
    · cases found
      rfl
    · cases found
  have inside : p ≠ input.endPos := by
    rintro rfl
    rw [String.Pos.get?_endPos] at here
    cases here
  have before := String.Pos.offset_lt_rawEndPos_iff.mpr inside
  rw [place] at before
  exact before

def checkedAdd (a b : Nat) : Option Nat :=
  if a + b < UInt64.size then some (a + b) else none

/-- The current character begins at `position`, and the next one at `readPosition`. -/
structure Registers where
  position : Nat
  readPosition : Nat
  current? : Option Char
  line : Nat
  column : Nat
  deriving DecidableEq

namespace Registers

/-- Before the first character is looked up. -/
def initial : Registers := ⟨0, 0, none, 0, 0⟩

def location (r : Registers) : Location :=
  ⟨r.position, r.line, r.column⟩

/-- Counts the current character and looks up the next one. -/
def advance (input : String) (r : Registers) : Registers :=
  let next? := charAt? input r.readPosition
  let behind := r.readPosition + next?.elim 0 Char.utf8Size
  match r.current? with
  | some c =>
    if c = '\n' then ⟨r.readPosition, behind, next?, r.line + 1, 0⟩
    else ⟨r.readPosition, behind, next?, r.line, r.column + 1⟩
  | none => ⟨r.readPosition, behind, next?, r.line, r.column⟩

/-- Advances where every sum has to be a word. -/
def advanceChecked? (input : String) (r : Registers) : Option Registers := do
  let next? := charAt? input r.readPosition
  let (line, column) ← match r.current? with
    | some c =>
      if c = '\n' then (checkedAdd r.line 1).map (·, 0)
      else (checkedAdd r.column 1).map (r.line, ·)
    | none => some (r.line, r.column)
  let behind ← checkedAdd r.readPosition (next?.elim 0 Char.utf8Size)
  return ⟨r.readPosition, behind, next?, line, column⟩

theorem current?_advance (input : String) (r : Registers) :
    (r.advance input).current? = charAt? input r.readPosition := by
  fun_cases advance <;> rfl

theorem position_advance (input : String) (r : Registers) :
    (r.advance input).position = r.readPosition := by
  fun_cases advance <;> rfl

theorem readPosition_advance (input : String) (r : Registers) : (r.advance input).readPosition =
    r.readPosition + (charAt? input r.readPosition).elim 0 Char.utf8Size := by
  fun_cases advance <;> rfl

theorem left_advance_lt {input : String} {r : Registers} {c : Char}
    (h : charAt? input r.readPosition = some c) :
    input.utf8ByteSize - (r.advance input).readPosition < input.utf8ByteSize - r.readPosition := by
  have inside := lt_of_charAt?_eq_some h
  have wide := c.utf8Size_pos
  rw [readPosition_advance, h, Option.elim_some]
  omega

/-- Advances while the next character is in `p`. -/
def readWhile (input : String) (p : Char → Bool) (r : Registers) : Registers :=
  match _h : charAt? input r.readPosition with
  | some c => if p c then (r.advance input).readWhile input p else r
  | none => r
termination_by input.utf8ByteSize - r.readPosition
decreasing_by exact left_advance_lt _h

/-- Advances while the current character is in `p`. -/
def skipWhile (input : String) (p : Char → Bool) (r : Registers) : Registers :=
  match _h : r.current? with
  | some c => if p c then (r.advance input).skipWhile input p else r
  | none => r
termination_by input.utf8ByteSize - r.readPosition + r.current?.elim 0 fun _ => 1
decreasing_by
  rw [_h, Option.elim_some, current?_advance]
  cases next : charAt? input r.readPosition with
  | none =>
    rw [readPosition_advance, next]
    exact Nat.lt_succ_self _
  | some d => exact Nat.add_lt_add_right (left_advance_lt next) 1

theorem readWhile_eq (input : String) (p : Char → Bool) (r : Registers) : r.readWhile input p =
    if (charAt? input r.readPosition).any p then (r.advance input).readWhile input p else r := by
  rw [readWhile]
  split
  · next c ahead =>
    rw [ahead]
    rfl
  · next ended =>
    rw [ended]
    rfl

theorem skipWhile_eq (input : String) (p : Char → Bool) (r : Registers) : r.skipWhile input p =
    if r.current?.any p then (r.advance input).skipWhile input p else r := by
  rw [skipWhile]
  split
  · next c here =>
    rw [here]
    rfl
  · next ended =>
    rw [ended]
    rfl

/-- The current character, which is not tested, and the run of `p` behind it. The registers advance
once more when the run has ended. -/
def readRun? (input : String) (p : Char → Bool) (r : Registers) : Option (String × Registers) := do
  let last := r.readWhile input p
  let literal ← slice? input r.position last.readPosition
  return (literal, last.advance input)

end Registers

/-- The registers of a lexer, and the diagnostics it has found. -/
structure Machine where
  registers : Registers
  diagnostics : Array Diagnostic
  deriving DecidableEq

namespace Machine
variable (input : String)

def ofString : Machine :=
  ⟨Registers.initial.advance input, #[]⟩

def report (m : Machine) (d : Diagnostic) : Machine :=
  { m with diagnostics := m.diagnostics.push d }

def readSingle? (kind : Token.Kind) (m : Machine) : Option (Token × Machine) := do
  let literal ← slice? input m.registers.position m.registers.readPosition
  return (⟨kind, literal⟩, { m with registers := m.registers.advance input })

def readStray? (c : Char) (m : Machine) : Option (Token × Machine) :=
  (m.report ⟨m.registers.location, .illegalCharacter c⟩).readSingle? input .illegal

def readWord? (m : Machine) : Option (Token × Machine) := do
  let (literal, registers) ← m.registers.readRun? input isLetter
  match Keyword.ofSpelling? literal with
  | some k =>
    let reported := m.report ⟨m.registers.location, .reservedKeyword k⟩
    return (⟨k.kind, literal⟩, { reported with registers })
  | none => return (⟨.identifier, literal⟩, { m with registers })

def readInteger? (m : Machine) : Option (Token × Machine) := do
  let (literal, registers) ← m.registers.readRun? input isDigit
  return (⟨.integer, literal⟩, { m with registers })

/-- The next token, if all its cuts can be made. -/
def scan? (m : Machine) : Option (Token × Machine) :=
  let m := { m with registers := m.registers.skipWhile input isBlank }
  match m.registers.current? with
  | none => some (.endOfInput, m)
  | some c =>
    if isLetter c then m.readWord? input
    else if isDigit c then m.readInteger? input
    else
      match Token.Kind.ofSymbolChar? c with
      | some kind => m.readSingle? input kind
      | none => m.readStray? input c

def scans? : Nat → Machine → Option (List Token × Machine)
  | 0, m => some ([], m)
  | n + 1, m => do
    let (t, m) ← m.scan? input
    let (ts, m) ← scans? n m
    return (t :: ts, m)

end Machine
end PlotLexer
