import Mathlib.Order.Defs.LinearOrder
import PlotLexer.Proofs.Positions

/-!
The order of locations. Over one text the bytes before a place and its line and column tell the
same order, which is also the order in which locations are sorted. So whatever a lexer reports
comes in order, and its places can be told apart by line and column alone.
-/
namespace PlotLexer
namespace Location
variable {input : String} {p q : Location} {ls : List Location}

instance : Std.TransOrd Location :=
  inferInstanceAs (Std.TransCmp (compareLex (compareOn offset)
    (compareLex (compareOn line) (compareOn column))))

instance : Std.LawfulEqOrd Location where
  eq_of_compare := by
    intro a b same
    obtain ⟨offset, rest⟩ := Ordering.then_eq_eq.mp same
    obtain ⟨line, column⟩ := Ordering.then_eq_eq.mp rest
    rw [Nat.compare_eq_eq] at offset line column
    obtain ⟨o, l, c⟩ := a
    exact congr (congrArg₂ Location.mk offset line) column

/-- By line, and on one line by column. -/
def Precedes (p q : Location) : Prop :=
  Prod.Lex (· < ·) (· < ·) p.lineColumn q.lineColumn

/-- A place of a text is behind some beginning of it. -/
def IsIn (input : String) (l : Location) : Prop :=
  ∃ before, before <+: input.toList ∧ l = behind before

/-- Two places in the same order by bytes, by line and column, and by comparison. -/
structure OrdersAgree (p q : Location) : Prop where
  offset_iff : p.offset < q.offset ↔ p.Precedes q
  precedes_iff : p.Precedes q ↔ compare p q = .lt
  eq_iff : p.offset = q.offset ↔ p.lineColumn = q.lineColumn

/-- Places in the order that sorting gives them, whatever order they are in before, and no two of
them at the same line and column. -/
structure InOrder (ls : List Location) : Prop where
  ascending : ls.Pairwise fun p q => compare p q = .lt
  sort_eq : ∀ ls' : List Location, ls'.Perm ls → sort ls' = ls
  nodup : (ls.map lineColumn).Nodup

theorem Precedes.iff_line_column :
    p.Precedes q ↔ p.line < q.line ∨ p.line = q.line ∧ p.column < q.column :=
  Prod.lex_def

theorem Precedes.trans {r : Location} (h : p.Precedes q) (h' : q.Precedes r) : p.Precedes r := by
  rw [Precedes.iff_line_column] at *
  omega

theorem Precedes.asymm (h : p.Precedes q) : ¬ q.Precedes p := by
  rw [Precedes.iff_line_column] at *
  omega

theorem Precedes.irrefl (p : Location) : ¬ p.Precedes p :=
  fun h => h.asymm h

theorem Precedes.lineColumn_ne (h : p.Precedes q) : p.lineColumn ≠ q.lineColumn := by
  intro same
  rw [Precedes, same] at h
  exact Precedes.irrefl q h

theorem compare_eq_lt_iff :
    compare p q = .lt ↔ p.offset < q.offset ∨ p.offset = q.offset ∧ p.Precedes q := by
  rw [Precedes.iff_line_column, ← Nat.compare_eq_lt (a := p.offset),
    ← Nat.compare_eq_lt (a := p.line), ← Nat.compare_eq_lt (a := p.column),
    ← Nat.compare_eq_eq (a := p.offset), ← Nat.compare_eq_eq (a := p.line), ← Ordering.then_eq_lt,
    ← Ordering.then_eq_lt]
  rfl

theorem precedes_past (l : Location) (c : Char) : l.Precedes (l.past c) := by
  rw [Precedes.iff_line_column]
  unfold past
  split
  · left
    exact Nat.lt_succ_self _
  · right
    exact ⟨rfl, Nat.lt_succ_self _⟩

theorem precedes_after (l : Location) {cs : List Char} (h : cs ≠ []) : l.Precedes (l.after cs) := by
  induction cs generalizing l with
  | nil => exact absurd rfl h
  | cons c cs ih =>
      cases cs with
      | nil => exact l.precedes_past c
      | cons d cs => exact (l.precedes_past c).trans (ih _ (List.cons_ne_nil d cs))

theorem offset_lt_after (l : Location) {cs : List Char} (h : cs ≠ []) :
    l.offset < (l.after cs).offset := by
  rw [offset_after]
  exact Nat.lt_add_of_pos_right (byteCount_pos h)

theorem IsIn.cases (hp : p.IsIn input) (hq : q.IsIn input) :
    (p.offset < q.offset ∧ p.Precedes q) ∨ p = q ∨ (q.offset < p.offset ∧ q.Precedes p) := by
  have further (before more : List Char) : behind before = behind (before ++ more) ∨
      (behind before).offset < (behind (before ++ more)).offset ∧
        (behind before).Precedes (behind (before ++ more)) := by
    rw [← after_behind]
    by_cases h : more = []
    · left
      rw [h, after_nil]
    · right
      exact ⟨offset_lt_after _ h, precedes_after _ h⟩
  obtain ⟨before, front, rfl⟩ := hp
  obtain ⟨before', front', rfl⟩ := hq
  rcases List.prefix_or_prefix_of_prefix front front' with ⟨more, rfl⟩ | ⟨more, rfl⟩
  · rcases further before more with same | less
    · exact .inr (.inl same)
    · exact .inl less
  · rcases further before' more with same | less
    · exact .inr (.inl same.symm)
    · exact .inr (.inr less)

theorem IsIn.ordersAgree (hp : p.IsIn input) (hq : q.IsIn input) : OrdersAgree p q := by
  rcases hp.cases hq with ⟨bytes, before⟩ | rfl | ⟨bytes, before⟩
  · have less : compare p q = .lt := compare_eq_lt_iff.mpr (.inl bytes)
    exact ⟨iff_of_true bytes before, iff_of_true before less,
      iff_of_false (Nat.ne_of_lt bytes) before.lineColumn_ne⟩
  · have apart : ¬ compare p p = .lt := by
      rw [Std.compare_self]
      exact Ordering.noConfusion
    have unmoved := Precedes.irrefl p
    exact ⟨iff_of_false (Nat.lt_irrefl _) unmoved, iff_of_false unmoved apart,
      iff_of_true rfl rfl⟩
  · have unordered : ¬ compare p q = .lt := by
      rw [compare_eq_lt_iff]
      rintro (less | ⟨same, -⟩) <;> omega
    exact ⟨iff_of_false (Nat.lt_asymm bytes) before.asymm, iff_of_false before.asymm unordered,
      iff_of_false (Nat.ne_of_gt bytes) before.lineColumn_ne.symm⟩

/-- There is one order in which some locations can ascend. -/
theorem sort_of_perm {ls' : List Location} (h : ls.Pairwise fun p q => compare p q = .lt)
    (perm : ls'.Perm ls) : sort ls' = ls := by
  have sorted : (sort ls').Pairwise fun p q => (compare p q).isLE := by
    apply List.pairwise_mergeSort
    · intro a b c
      exact Std.TransCmp.isLE_trans
    · intro a b
      rw [Std.OrientedOrd.eq_swap (a := b)]
      cases compare a b <;> rfl
  have ascending : ls.Pairwise fun p q => (compare p q).isLE := by
    apply h.imp
    intro p q less
    rw [less]
    rfl
  apply List.Perm.eq_of_pairwise _ sorted ascending ((List.mergeSort_perm ls' _).trans perm)
  intro a b _ _ le ge
  exact Std.LawfulEqOrd.eq_of_compare (Std.OrientedCmp.isLE_antisymm le ge)

theorem inOrder_of_offsets (inside : ∀ p ∈ ls, p.IsIn input)
    (h : ls.Pairwise fun p q => p.offset < q.offset) : InOrder ls := by
  have ascending : ls.Pairwise fun p q => compare p q = .lt := by
    apply h.imp
    intro p q less
    exact compare_eq_lt_iff.mpr (.inl less)
  refine ⟨ascending, fun ls' => sort_of_perm ascending, ?_⟩
  apply List.pairwise_map.mpr
  apply h.imp_of_mem
  intro p q first second less
  have agree := (inside p first).ordersAgree (inside q second)
  exact (agree.offset_iff.mp less).lineColumn_ne

theorem isIn_ofPos (p : input.Pos) : (ofPos p).IsIn input := by
  obtain ⟨before, rest, cut, splits⟩ := exists_cut p
  exact ⟨before, ⟨rest, cut.symm⟩, ofPos_of_splits splits⟩

end Location

namespace Lexer
open Grammar Location

theorem isIn_of_mem_finish {input : String} {d : Diagnostic}
    (found : d ∈ (ofString input).finish.2) : d.location.IsIn input := by
  obtain ⟨p, stands⟩ := exists_pos_of_mem_finish found
  rw [stands]
  exact isIn_ofPos p

/-- What has been found and what is still to be found are all that there is to find. -/
theorem diagnostics_append_finish (input : String) (as : List Action) :
    ((ofString input).performAll as).diagnostics.toList ++
      ((ofString input).performAll as).finish.2 = (ofString input).finish.2 :=
  (congrArg Prod.snd (finish_performAll input as)).symm

theorem isIn_of_mem_locations {input : String} {as : List Action} {l : Location}
    (named : l ∈ ((ofString input).performAll as).locations) : l.IsIn input := by
  rcases List.mem_cons.mp named with here | found
  · obtain ⟨p, stands, -⟩ := exists_pos_performAll input as
    rw [here, stands]
    exact isIn_ofPos p
  · obtain ⟨d, member, rfl⟩ := List.mem_map.mp found
    rw [diagnostics_append_finish] at member
    exact isIn_of_mem_finish member

theorem pairwise_offset_finish (input : String) :
    (ofString input).finish.2.Pairwise fun d e => d.location.offset < e.location.offset := by
  obtain ⟨y, proper, text⟩ := Layout.exists_proper input.toList
  rw [finish_ofString proper text, ← behind_nil]
  exact Layout.pairwise_diagnostics proper (Apart.nil_left _)

theorem inOrder_of_sublist {input : String} {ds : List Diagnostic}
    (sub : ds.Sublist (ofString input).finish.2) : InOrder (ds.map Diagnostic.location) := by
  have inside : ∀ l ∈ ds.map Diagnostic.location, l.IsIn input := by
    intro l named
    obtain ⟨d, member, rfl⟩ := List.mem_map.mp named
    exact isIn_of_mem_finish (sub.subset member)
  have ascending := (pairwise_offset_finish input).sublist sub
  exact inOrder_of_offsets inside (List.pairwise_map.mpr ascending)

/-- Whatever two locations are named over one text, after whatever histories, bytes, line and
column, and comparison put them in the same order. What a history has found is in that order, as is
what is still to be found. -/
theorem orders_agree_of_histories (input : String) (as bs : List Action) :
    (∀ p ∈ ((ofString input).performAll as).locations,
      ∀ q ∈ ((ofString input).performAll bs).locations, OrdersAgree p q) ∧
    InOrder (((ofString input).performAll as).diagnostics.toList.map Diagnostic.location) ∧
    InOrder (((ofString input).performAll as).finish.2.map Diagnostic.location) := by
  have whole := diagnostics_append_finish input as
  refine ⟨?_, ?_, ?_⟩
  · intro p hp q hq
    exact (isIn_of_mem_locations hp).ordersAgree (isIn_of_mem_locations hq)
  · apply inOrder_of_sublist
    rw [← whole]
    exact List.sublist_append_left _ _
  · apply inOrder_of_sublist
    rw [← whole]
    exact List.sublist_append_right _ _

theorem orders_agree_across_line_feed :
    (⟨4, 1, 0⟩ : Location) ∈ ((ofString "é#\n€ func").performAll [.nth 1, .scan]).locations ∧
    (⟨8, 1, 2⟩ : Location) ∈ ((ofString "é#\n€ func").performAll [.next]).locations ∧
    OrdersAgree ⟨4, 1, 0⟩ ⟨8, 1, 2⟩ := by
  have first : (⟨4, 1, 0⟩ : Location) ∈
      ((ofString "é#\n€ func").performAll [.nth 1, .scan]).locations := by
    decide +kernel
  have second : (⟨8, 1, 2⟩ : Location) ∈
      ((ofString "é#\n€ func").performAll [.next]).locations := by
    decide +kernel
  exact ⟨first, second, (orders_agree_of_histories _ _ _).1 _ first _ second⟩

end Lexer
end PlotLexer
