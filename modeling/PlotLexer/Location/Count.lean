import PlotLexer.Location

/-!
A location counted afresh from all the text before it. Moving a location along the text one
character at a time arrives at the same counts, and commutes with rebasing it, so the locations of a
text that begins inside another need to be counted only once.
-/
namespace PlotLexer.Location

def byteCount : List Char → Nat
  | [] => 0
  | c :: cs => c.utf8Size + byteCount cs

/-- The place behind `before`, where `before` is all the text from the start. -/
def behind (before : List Char) : Location where
  offset := byteCount before
  line := before.count '\n'
  column := (before.reverse.takeWhile (· != '\n')).length

@[simp] theorem behind_nil : behind [] = start := rfl

@[simp] theorem byteCount_append (cs ds : List Char) :
    byteCount (cs ++ ds) = byteCount cs + byteCount ds := by
  induction cs with
  | nil => simp only [List.nil_append, byteCount, Nat.zero_add]
  | cons c cs ih => simp only [List.cons_append, byteCount, ih, Nat.add_assoc]

theorem byteCount_pos {cs : List Char} (h : cs ≠ []) : 0 < byteCount cs := by
  cases cs with
  | nil => exact absurd rfl h
  | cons c cs => exact Nat.add_pos_left c.utf8Size_pos _

/-- Of two beginnings of one text, the one with fewer bytes begins the other. -/
theorem exists_append_of_byteCount_lt {part shared text : List Char} (front : part <+: text)
    (front' : shared <+: text) (fewer : byteCount part < byteCount shared) :
    ∃ more, more ≠ [] ∧ part ++ more = shared := by
  rcases List.prefix_or_prefix_of_prefix front front' with ⟨more, rfl⟩ | ⟨excess, rfl⟩
  · refine ⟨more, ?_, rfl⟩
    rintro rfl
    rw [List.append_nil] at fewer
    exact Nat.lt_irrefl _ fewer
  · rw [byteCount_append] at fewer
    omega

theorem eq_nil_of_byteCount_eq_zero {cs : List Char} (h : byteCount cs = 0) : cs = [] := by
  cases cs with
  | nil => rfl
  | cons c cs => exact absurd h (Nat.ne_of_gt (byteCount_pos (List.cons_ne_nil c cs)))

theorem eq_of_byteCount_eq {part shared text : List Char} (front : part <+: text)
    (front' : shared <+: text) (same : byteCount part = byteCount shared) : part = shared := by
  rcases List.prefix_or_prefix_of_prefix front front' with ⟨more, rfl⟩ | ⟨more, rfl⟩
  · rw [byteCount_append] at same
    have none : more = [] := eq_nil_of_byteCount_eq_zero (by omega)
    rw [none, List.append_nil]
  · rw [byteCount_append] at same
    have none : more = [] := eq_nil_of_byteCount_eq_zero (by omega)
    rw [none, List.append_nil]

theorem utf8ByteSize_ofList (cs : List Char) : (String.ofList cs).utf8ByteSize = byteCount cs := by
  induction cs with
  | nil => rfl
  | cons c cs ih =>
    rw [String.ofList_cons, String.utf8ByteSize_append, String.utf8ByteSize_singleton, ih, byteCount]

theorem byteCount_toList (s : String) : byteCount s.toList = s.utf8ByteSize := by
  rw [← utf8ByteSize_ofList, String.ofList_toList]

theorem past_behind (before : List Char) (c : Char) :
    (behind before).past c = behind (before ++ [c]) := by
  unfold past
  split
  · next h => simp [behind, h, byteCount]
  · next h => simp [behind, h, byteCount]

theorem after_behind (before cs : List Char) :
    (behind before).after cs = behind (before ++ cs) := by
  induction cs generalizing before with
  | nil => rw [after_nil, List.append_nil]
  | cons c cs ih => rw [after_cons, past_behind, ih, List.append_assoc, List.singleton_append]

theorem start_after (cs : List Char) : start.after cs = behind cs :=
  after_behind [] cs

theorem offset_after (l : Location) (cs : List Char) :
    (l.after cs).offset = l.offset + byteCount cs := by
  induction cs generalizing l with
  | nil => rfl
  | cons c cs ih => simp only [after_cons, ih, offset_past, byteCount, Nat.add_assoc]

theorem after_of_forall_ne (l : Location) {cs : List Char} (h : ∀ c ∈ cs, c ≠ '\n') :
    l.after cs = ⟨l.offset + byteCount cs, l.line, l.column + cs.length⟩ := by
  induction cs generalizing l with
  | nil => rfl
  | cons c cs ih =>
      obtain ⟨here, later⟩ := List.forall_mem_cons.mp h
      have step : l.past c = ⟨l.offset + c.utf8Size, l.line, l.column + 1⟩ := if_neg here
      rw [after_cons, ih _ later, step, byteCount, List.length_cons]
      simp only [Nat.add_assoc, Nat.add_comm 1]

section Rebase
variable (base l : Location)

@[simp] theorem rebase_start : base.rebase start = base := rfl

theorem rebase_past (c : Char) : (base.rebase l).past c = base.rebase (l.past c) := by
  unfold past
  split
  · next newline =>
      simp only [rebase, Nat.add_assoc, Nat.add_eq_zero_iff, Nat.one_ne_zero, and_false, ↓reduceIte]
  · next same_line =>
      unfold rebase
      by_cases first : l.line = 0
      · simp only [first, ↓reduceIte, Nat.add_assoc]
      · simp only [first, ↓reduceIte, Nat.add_assoc]

theorem rebase_after (cs : List Char) : (base.rebase l).after cs = base.rebase (l.after cs) := by
  induction cs generalizing l with
  | nil => rfl
  | cons c cs ih => rw [after_cons, rebase_past, ih, after_cons]

end Rebase

end PlotLexer.Location
