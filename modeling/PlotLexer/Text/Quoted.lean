import PlotLexer.Text.Unprintable

/-!
Quoted text. A text stands between two equal marks; the mark itself, the backslash and every
unprintable character are escaped, all else stands as it is. `encode` writes the quoted form
and `decode` reads it back.
-/
namespace PlotLexer.Text.Quoted

/-- The mark around the text is the one that is escaped inside it. -/
inductive Mark where
  | single
  | double
  deriving DecidableEq

def Mark.char : Mark → Char
  | .single => '\x27'
  | .double => '\x22'

/-- The letter behind the backslash, for the characters with a short escape. -/
def shortEscape? (m : Mark) (c : Char) : Option Char :=
  if c = '\x00' then some '0'
  else if c = '\t' then some 't'
  else if c = '\n' then some 'n'
  else if c = '\r' then some 'r'
  else if c = '\\' then some '\\'
  else if c = m.char then some m.char
  else none

/-- The code point in lower-case hexadecimal, without leading zeros. -/
def codeEscape (c : Char) : List Char :=
  ['\\', 'u', '\x7b'] ++ Nat.toDigits 16 c.toNat ++ ['\x7d']

def escape (m : Mark) (c : Char) : List Char :=
  match shortEscape? m c with
  | some letter => ['\\', letter]
  | none => if isUnprintable c then codeEscape c else [c]

def encode (m : Mark) (cs : List Char) : List Char :=
  m.char :: (cs.flatMap (escape m) ++ [m.char])

def ofShortEscape? (m : Mark) (letter : Char) : Option Char :=
  if letter = '0' then some '\x00'
  else if letter = 't' then some '\t'
  else if letter = 'n' then some '\n'
  else if letter = 'r' then some '\r'
  else if letter = '\\' then some '\\'
  else if letter = m.char then some m.char
  else none

def hexValue? (c : Char) : Option Nat :=
  if c.isDigit then some (c.toNat - '0'.toNat)
  else if 'a' ≤ c ∧ c ≤ 'f' then some (c.toNat - 'a'.toNat + 10)
  else none

def ofCode? (code : Nat) : Option Char :=
  if h : code.isValidChar then some (Char.ofNatAux code h) else none

/-- Reads the text behind the opening mark up to the closing one, which must come last. The
number is what has been read so far of a code point escape. -/
def decodeBody (m : Mark) : Option Nat → List Char → Option (List Char)
  | _, [] => none
  | some code, '\x7d' :: cs => do return (← ofCode? code) :: (← decodeBody m none cs)
  | some code, c :: cs => do decodeBody m (some (16 * code + (← hexValue? c))) cs
  | none, '\\' :: 'u' :: '\x7b' :: cs => decodeBody m (some 0) cs
  | none, '\\' :: letter :: cs => do
    return (← ofShortEscape? m letter) :: (← decodeBody m none cs)
  | none, c :: cs =>
    if c = m.char then if cs.isEmpty then some [] else none
    else (decodeBody m none cs).map (c :: ·)

def decode (m : Mark) : List Char → Option (List Char)
  | [] => none
  | c :: cs => if c = m.char then decodeBody m none cs else none

end PlotLexer.Text.Quoted
