/-!
Places in a text. A location counts the bytes before it, the line breaks before it, and the
characters since the last line break. Locations are ordered by offset, then line, then column.
Their text is one-based and is refused when a one-based number exceeds a 64-bit word.
-/
namespace PlotLexer

/-- All three counts start at zero. -/
structure Location where
  offset : Nat
  line : Nat
  column : Nat
  deriving DecidableEq

namespace Location

inductive TextError where
  | overflow
  deriving DecidableEq

def TextError.message : TextError → String
  | .overflow => "attempt to add with overflow"

def start : Location := ⟨0, 0, 0⟩

/-- The place behind a character that stands at `l`. Only a line feed ends a line. -/
def past (l : Location) (c : Char) : Location :=
  if c = '\n' then ⟨l.offset + c.utf8Size, l.line + 1, 0⟩
  else ⟨l.offset + c.utf8Size, l.line, l.column + 1⟩

/-- The place behind a run of characters that begins at `l`. -/
def after (l : Location) (cs : List Char) : Location :=
  cs.foldl past l

/-- Where a place of one text lies when that text begins at `base` of another. -/
def rebase (base l : Location) : Location :=
  ⟨base.offset + l.offset, base.line + l.line,
    if l.line = 0 then base.column + l.column else l.column⟩

def lineColumn (l : Location) : Nat × Nat :=
  (l.line, l.column)

instance : Ord Location where
  compare a b :=
    (compare a.offset b.offset).then
      ((compare a.line b.line).then (compare a.column b.column))

/-- Ascending; equal locations stay as they are. -/
def sort (ls : List Location) : List Location :=
  ls.mergeSort fun a b => (compare a b).isLE

/-- A count from one, as long as it fits a 64-bit word. -/
def oneBased (n : Nat) : Except TextError Nat :=
  if n + 1 < UInt64.size then .ok (n + 1) else .error .overflow

def text (l : Location) : Except TextError String := do
  let line ← oneBased l.line
  let column ← oneBased l.column
  return toString line ++ ":" ++ toString column

@[simp] theorem after_nil (l : Location) : l.after [] = l := rfl

@[simp] theorem after_cons (l : Location) (c : Char) (cs : List Char) :
    l.after (c :: cs) = (l.past c).after cs := rfl

theorem after_append (l : Location) (cs ds : List Char) :
    l.after (cs ++ ds) = (l.after cs).after ds :=
  List.foldl_append

@[simp] theorem offset_past (l : Location) (c : Char) :
    (l.past c).offset = l.offset + c.utf8Size := by
  unfold past
  split <;> rfl

end Location
end PlotLexer
