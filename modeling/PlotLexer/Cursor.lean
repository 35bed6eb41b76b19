import PlotLexer.Location

/-!
A place in a text together with all that is left of the text there. Cursors only move forward,
over one character or over a run of characters.
-/
namespace PlotLexer

structure Cursor where
  rest : List Char
  location : Location
  deriving DecidableEq

namespace Cursor

def ofString (input : String) : Cursor :=
  ⟨input.toList, .start⟩

def current? (k : Cursor) : Option Char :=
  k.rest.head?

/-- The byte offset behind the current character. At the end it is the offset of the cursor. -/
def nextOffset (k : Cursor) : Nat :=
  match k.current? with
  | some c => k.location.offset + c.utf8Size
  | none => k.location.offset

def advance : Cursor → Cursor
  | ⟨[], l⟩ => ⟨[], l⟩
  | ⟨c :: cs, l⟩ => ⟨cs, l.past c⟩

/-- The longest run of characters in `p` at the head of a text, and the cursor behind it. -/
def splitRun (p : Char → Bool) : List Char → Location → List Char × Cursor
  | [], l => ([], ⟨[], l⟩)
  | c :: cs, l =>
    if p c then
      let (run, k) := splitRun p cs (l.past c)
      (c :: run, k)
    else ([], ⟨c :: cs, l⟩)

def skipWhile (p : Char → Bool) (k : Cursor) : Cursor :=
  (splitRun p k.rest k.location).2

/-- Reads the current character, which is not tested, and the run of `p` behind it. -/
def readRun (p : Char → Bool) : Cursor → List Char × Cursor
  | ⟨[], l⟩ => ([], ⟨[], l⟩)
  | ⟨c :: cs, l⟩ =>
    let (run, k) := splitRun p cs (l.past c)
    (c :: run, k)

theorem splitRun_location (p : Char → Bool) (cs : List Char) (l : Location) :
    (splitRun p cs l).2.location = l.after (splitRun p cs l).1 := by
  induction cs generalizing l with
  | nil => rfl
  | cons c cs ih =>
    unfold splitRun
    split
    · simp only [ih, Location.after_cons]
    · rfl

theorem splitRun_fst (p : Char → Bool) (cs : List Char) (l : Location) :
    (splitRun p cs l).1 = cs.takeWhile p := by
  induction cs generalizing l with
  | nil => rfl
  | cons c cs ih =>
    unfold splitRun
    split
    · next h => simp only [ih, List.takeWhile_cons_of_pos h]
    · next h => simp only [List.takeWhile_cons_of_neg h]

theorem splitRun_rest (p : Char → Bool) (cs : List Char) (l : Location) :
    (splitRun p cs l).2.rest = cs.dropWhile p := by
  induction cs generalizing l with
  | nil => rfl
  | cons c cs ih =>
    unfold splitRun
    split
    · next h => simp only [ih, List.dropWhile_cons_of_pos h]
    · next h => simp only [List.dropWhile_cons_of_neg h]

theorem skipWhile_rest (p : Char → Bool) (k : Cursor) :
    (k.skipWhile p).rest = k.rest.dropWhile p :=
  splitRun_rest p k.rest k.location

theorem skipWhile_location (p : Char → Bool) (k : Cursor) :
    (k.skipWhile p).location = k.location.after (k.rest.takeWhile p) := by
  rw [skipWhile, splitRun_location, splitRun_fst]

theorem length_rest_skipWhile_le (p : Char → Bool) (k : Cursor) :
    (k.skipWhile p).rest.length ≤ k.rest.length := by
  rw [skipWhile_rest]
  exact (List.dropWhile_suffix p).length_le

theorem length_rest_advance_lt {k : Cursor} {c : Char} (h : k.current? = some c) :
    k.advance.rest.length < k.rest.length := by
  obtain ⟨rest, l⟩ := k
  cases rest with
  | nil => cases h
  | cons d cs => exact Nat.lt_succ_self _

theorem length_rest_readRun_lt (p : Char → Bool) {k : Cursor} {c : Char}
    (h : k.current? = some c) : (k.readRun p).2.rest.length < k.rest.length := by
  obtain ⟨rest, l⟩ := k
  cases rest with
  | nil => cases h
  | cons d cs =>
    simp only [readRun, splitRun_rest, List.length_cons]
    exact Nat.lt_succ_of_le (List.dropWhile_suffix p).length_le

end Cursor
end PlotLexer
