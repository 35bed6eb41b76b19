import PlotLexer.Proofs.Histories
import PlotLexer.Proofs.Occurrences
import PlotLexer.Proofs.Tokenization

/-!
Locations as positions of the text. A position lies on a character boundary inside its text, and
the text up to it can be cut off and counted. Every location that a lexer names, in whatever state
it is, counts the text up to one such position. The text from there on decides what is left to take
and to find, so a run may be broken off anywhere and taken up by a fresh lexer over the rest.
-/
namespace PlotLexer
namespace Location

/-- The bytes up to a position, the line feeds among them, and the characters behind the last. -/
def ofPos {text : String} (p : text.Pos) : Location where
  offset := p.offset.byteIdx
  line := (text.sliceTo p).copy.toList.count '\n'
  column := ((text.sliceTo p).copy.toList.reverse.takeWhile (· != '\n')).length

theorem exists_splits {text : String} {before rest : List Char}
    (cut : text.toList = before ++ rest) :
    ∃ p : text.Pos, p.Splits (String.ofList before) (String.ofList rest) := by
  have whole : text = String.ofList before ++ String.ofList rest := by
    rw [← String.ofList_append, ← cut, String.ofList_toList]
  have boundary : (String.ofList before).rawEndPos.IsValid text := by
    rw [whole]
    exact String.Pos.Raw.isValid_rawEndPos.append_right _
  exact ⟨⟨_, boundary⟩, whole, rfl⟩

theorem exists_cut {text : String} (p : text.Pos) : ∃ before rest,
    text.toList = before ++ rest ∧ p.Splits (String.ofList before) (String.ofList rest) := by
  refine ⟨(text.sliceTo p).copy.toList, (text.sliceFrom p).copy.toList, ?_, ?_⟩
  · rw [← String.toList_append, ← p.splits.eq_append]
  · rw [String.ofList_toList, String.ofList_toList]
    exact p.splits

theorem offset_of_splits {text : String} {p : text.Pos} {before rest : List Char}
    (h : p.Splits (String.ofList before) (String.ofList rest)) :
    p.offset = ⟨byteCount before⟩ := by
  rw [h.offset_eq_rawEndPos]
  exact String.Pos.Raw.ext (utf8ByteSize_ofList before)

theorem ofPos_of_splits {text : String} {p : text.Pos} {before rest : List Char}
    (h : p.Splits (String.ofList before) (String.ofList rest)) : ofPos p = behind before := by
  have left : (text.sliceTo p).copy = String.ofList before := p.splits.eq_left h
  rw [ofPos, offset_of_splits h, left, String.toList_ofList]
  rfl

end Location

namespace Lexer
open Grammar

/-- Every location that a lexer names: its own, and those of the diagnostics that it has found or
has yet to find. -/
def locations (l : Lexer) : List Location :=
  l.location :: (l.diagnostics.toList ++ l.finish.2).map Diagnostic.location

theorem exists_pos_performAll (input : String) (as : List Action) : ∃ p : input.Pos,
    ((ofString input).performAll as).location = .ofPos p ∧
      (input.sliceFrom p).copy = String.ofList ((ofString input).performAll as).cursor.rest := by
  obtain ⟨y, passed, -⟩ := Passes.performAll (ofString input) as
  obtain ⟨p, splits⟩ := Location.exists_splits passed.rest
  refine ⟨p, ?_, p.splits.eq_right splits⟩
  rw [Location.ofPos_of_splits splits, passed.location]
  exact Location.start_after y.text

theorem exists_pos_of_mem_finish {input : String} {d : Diagnostic}
    (found : d ∈ (ofString input).finish.2) : ∃ p : input.Pos, d.location = .ofPos p := by
  obtain ⟨y, proper, text⟩ := Layout.exists_proper input.toList
  rw [finish_ofString proper text, ← Location.behind_nil] at found
  obtain ⟨place, t, occurs, here, -⟩ := Layout.mem_diagnostics_iff.mp found
  obtain ⟨passed, behind, rfl, split, -⟩ :=
    (Layout.mem_occurrences_iff proper (Apart.nil_left _)).mp occurs
  obtain ⟨p, splits⟩ := Location.exists_splits (text.symm.trans split)
  exact ⟨p, here.trans (Location.ofPos_of_splits splits).symm⟩

/-- After any history, every location that the lexer names is the count of the text up to some
position. Only a line feed starts a line, and any other character is one column. -/
theorem exists_ofPos_of_mem_locations (input : String) (as : List Action) :
    ∀ l ∈ ((ofString input).performAll as).locations, ∃ p : input.Pos, l = .ofPos p := by
  intro l named
  rcases List.mem_cons.mp named with here | found
  · obtain ⟨p, stands, -⟩ := exists_pos_performAll input as
    exact ⟨p, here.trans stands⟩
  · obtain ⟨d, member, rfl⟩ := List.mem_map.mp found
    have whole := congrArg Prod.snd (finish_performAll input as)
    exact exists_pos_of_mem_finish (whole ▸ member)

theorem exists_ofPos_behind_wide_characters :
    ⟨9, 1, 3⟩ ∈ ((ofString "é\r\n\t€#func").performAll [.take 2, .count]).locations ∧
      ∃ p : String.Pos "é\r\n\t€#func", ⟨9, 1, 3⟩ = Location.ofPos p := by
  have named : ⟨9, 1, 3⟩ ∈
      ((ofString "é\r\n\t€#func").performAll [.take 2, .count]).locations := by
    decide +kernel
  exact ⟨named, exists_ofPos_of_mem_locations _ _ _ named⟩

theorem finish_eq_rebase (l : Lexer) :
    l.finish = ((ofString (String.ofList l.cursor.rest)).finish.1,
      (ofString (String.ofList l.cursor.rest)).finish.2.map (Diagnostic.rebase l.location)) := by
  obtain ⟨⟨rest, loc⟩, ds⟩ := l
  obtain ⟨y, proper, rfl⟩ := Layout.exists_proper rest
  have fresh : (String.ofList y.text).toList = y.text := String.toList_ofList
  rw [finish_of_proper proper, finish_ofString proper fresh.symm]
  dsimp only [location]
  rw [← Layout.diagnostics_rebase, Location.rebase_start]

/-- After any history of a fresh lexer, finishing it takes and finds exactly what is missing from
the whole run. It is also the run of a fresh lexer over the suffix at the lexer's offset, moved by
the lexer's location. -/
theorem finish_of_history (input : String) (as : List Action) :
    (ofString input).finish =
      ((ofString input).takenAll as ++ ((ofString input).performAll as).finish.1,
        ((ofString input).performAll as).diagnostics.toList ++
          ((ofString input).performAll as).finish.2) ∧
    ∃ p : input.Pos, p.offset.byteIdx = ((ofString input).performAll as).location.offset ∧
      ((ofString input).performAll as).finish =
        ((ofString (input.sliceFrom p).copy).finish.1,
          (ofString (input.sliceFrom p).copy).finish.2.map
            (Diagnostic.rebase ((ofString input).performAll as).location)) := by
  refine ⟨finish_performAll input as, ?_⟩
  obtain ⟨p, here, suffix⟩ := exists_pos_performAll input as
  refine ⟨p, congrArg Location.offset here.symm, ?_⟩
  rw [suffix]
  exact finish_eq_rebase _

end Lexer
end PlotLexer
