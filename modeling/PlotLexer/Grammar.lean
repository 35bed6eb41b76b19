import PlotLexer.Diagnostic
import PlotLexer.Location.Count

/-!
What a plot says, told of its characters alone, without a cursor. Longest match reads its tokens from
front to back. A layout writes the literals of its tokens in order with blanks around them; blanks
may be missing wherever the neighbours do not join. The places of a text that deserve a diagnostic
are those of its stray characters and keywords.
-/
namespace PlotLexer.Grammar

def wordKind (word : List Char) : Token.Kind :=
  match Keyword.all.find? (·.spelling.toList = word) with
  | some k => k.kind
  | none => .identifier

/-- The longest literal at the head of a text that begins with `c`, with its kind. -/
def munch (c : Char) (cs : List Char) : Token.Kind × List Char :=
  if isLetter c then
    let word := (c :: cs).takeWhile isLetter
    (wordKind word, word)
  else if isDigit c then (.integer, (c :: cs).takeWhile isDigit)
  else
    match Symbol.all.find? (·.char = c) with
    | some s => (.symbol s, [c])
    | none => (.illegal, [c])

theorem munch_ne_nil (c : Char) (cs : List Char) : (munch c cs).2 ≠ [] := by
  unfold munch
  split
  · next h =>
    rw [List.takeWhile_cons_of_pos h]
    exact List.cons_ne_nil _ _
  · split
    · next h =>
      rw [List.takeWhile_cons_of_pos h]
      exact List.cons_ne_nil _ _
    · split <;> exact List.cons_ne_nil _ _

/-- Every token of a text up to the end of input. -/
def tokens (cs : List Char) : List Token :=
  match _h : cs.dropWhile isBlank with
  | [] => [.endOfInput]
  | c :: rest =>
    let longest := munch c rest
    ⟨longest.1, String.ofList longest.2⟩ :: tokens ((c :: rest).drop longest.2.length)
termination_by cs.length
decreasing_by
  have shorter : (c :: rest).length ≤ cs.length := by
    rw [← _h]
    exact (List.dropWhile_suffix _).length_le
  have nonempty := List.length_pos_iff.mpr (munch_ne_nil c rest)
  rw [List.length_drop]
  simp only [List.length_cons] at shorter ⊢
  omega

def IsStray (c : Char) : Prop :=
  isBlank c = false ∧ isLetter c = false ∧ isDigit c = false ∧ ∀ s : Symbol, s.char ≠ c

inductive WellFormed : Token → Prop where
  | identifier (word : List Char) (nonempty : word ≠ []) (letters : ∀ c ∈ word, isLetter c)
      (free : ∀ k : Keyword, k.spelling.toList ≠ word) :
      WellFormed ⟨.identifier, String.ofList word⟩
  | keyword (k : Keyword) : WellFormed ⟨.illegal, k.spelling⟩
  | integer (digits : List Char) (nonempty : digits ≠ []) (decimal : ∀ c ∈ digits, isDigit c) :
      WellFormed ⟨.integer, String.ofList digits⟩
  | symbol (s : Symbol) : WellFormed ⟨.symbol s, String.singleton s.char⟩
  | stray (c : Char) (unclassed : IsStray c) : WellFormed ⟨.illegal, String.singleton c⟩

/-- The blanks before the first token, and each token with the blanks behind it. -/
structure Layout where
  lead : List Char
  items : List (Token × List Char)

namespace Layout

def tokens (y : Layout) : List Token :=
  y.items.map Prod.fst

def text (y : Layout) : List Char :=
  y.lead ++ y.items.flatMap fun (t, gap) => t.literal.toList ++ gap

/-- Two literals that would be read as one if nothing stood between them. -/
def Merge (t u : Token) : Prop :=
  (∀ c ∈ t.literal.toList ++ u.literal.toList, isLetter c) ∨
    ∀ c ∈ t.literal.toList ++ u.literal.toList, isDigit c

/-- Neighbours that would merge have a blank between them. -/
def Separated : List (Token × List Char) → Prop
  | (t, gap) :: (u, gap') :: items =>
    (Merge t u → gap ≠ []) ∧ Separated ((u, gap') :: items)
  | _ => True

structure Proper (y : Layout) : Prop where
  lead_blank : ∀ c ∈ y.lead, isBlank c
  gap_blank : ∀ item ∈ y.items, ∀ c ∈ item.2, isBlank c
  wellFormed : ∀ item ∈ y.items, WellFormed item.1
  separated : Separated y.items

end Layout

/-- A text offends at every stray character, and at every keyword with no letter on either side. -/
inductive Offends : List Char → Diagnostic → Prop where
  | stray (before behind : List Char) (c : Char) (unclassed : IsStray c) :
      Offends (before ++ c :: behind) ⟨.behind before, .illegalCharacter c⟩
  | keyword (before behind : List Char) (k : Keyword)
      (free_left : ∀ c, before.getLast? = some c → isLetter c = false)
      (free_right : ∀ c, behind.head? = some c → isLetter c = false) :
      Offends (before ++ k.spelling.toList ++ behind) ⟨.behind before, .reservedKeyword k⟩

end PlotLexer.Grammar
