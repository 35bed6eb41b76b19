import Mathlib.Tactic.TFAE
import PlotLexer.Proofs.Progress
import PlotLexer.Proofs.Quoting

/-!
What a kind is called and how it is written. Every kind is found by its name and by no other text.
Where a kind is written as one fixed character, that character is also its name, and a plot of this
character alone lexes to this kind.
-/
namespace PlotLexer
open Grammar

namespace Token.Kind
variable {name : String} {kind : Kind} {s : Symbol} {c : Char}

theorem name_injective (kind kind' : Kind) (h : kind.name = kind'.name) : kind = kind' := by
  have found := ofName_name kind
  rw [h, ofName_name] at found
  exact (Except.ok.inj found).symm

theorem ofName_eq_ok_iff : ofName name = .ok kind ↔ kind.name = name := by
  constructor
  · intro found
    unfold ofName at found
    split at found
    · next entry =>
        cases found
        exact (find?_key_eq_some_iff mem_all name_injective).mp entry
    · cases found
  · rintro rfl
    exact ofName_name kind

/-- A text is refused exactly if it is no name. -/
theorem ofName_eq_error_iff :
    ofName name = .error .unknownName ↔ ∀ kind : Kind, kind.name ≠ name := by
  constructor
  · intro refused kind named
    rw [ofName_eq_ok_iff.mpr named] at refused
    cases refused
  · intro unnamed
    cases found : ofName name with
    | ok kind => exact absurd (ofName_eq_ok_iff.mp found) (unnamed kind)
    | error e => cases e; rfl

theorem ofSymbolChar?_eq_some_iff : ofSymbolChar? c = some (.symbol s) ↔ s.char = c := by
  rw [ofSymbolChar?, Option.map_eq_some_iff]
  constructor
  · rintro ⟨s', found, same⟩
    cases same
    exact Symbol.ofChar?_eq_some_iff.mp found
  · intro h
    exact ⟨s, Symbol.ofChar?_eq_some_iff.mpr h, rfl⟩

end Token.Kind

theorem tokenize_symbol (s : Symbol) : tokenize (String.singleton s.char) =
    [⟨.symbol s, String.singleton s.char⟩, .endOfInput] := by
  have proper : (Layout.cons [] ⟨.symbol s, String.singleton s.char⟩ (.blank [])).Proper :=
    Layout.proper_cons_iff.mpr
      ⟨List.forall_mem_nil _, .symbol s, Apart.nil_right _, Layout.proper_nil⟩
  exact tokenize_of_proper proper (Layout.text_single _ _)

theorem wellFormed_of_tokenize {input : String} {t : Token}
    (lexed : tokenize input = [t, .endOfInput]) : WellFormed t := by
  obtain ⟨y, proper, text⟩ := Layout.exists_proper input.toList
  rw [tokenize_of_proper proper text] at lexed
  have tokens : y.tokens = [t] := List.append_cancel_right lexed
  apply Layout.wellFormed_of_mem_tokens proper
  rw [tokens]
  exact List.mem_singleton_self t

theorem tokenize_eq_symbol_iff {text : String} {s : Symbol} :
    tokenize text = [⟨.symbol s, text⟩, .endOfInput] ↔ text = String.singleton s.char := by
  constructor
  · intro lexed
    cases wellFormed_of_tokenize lexed
    rfl
  · rintro rfl
    exact tokenize_symbol s

namespace Token.Kind

/-- The tables of the kinds and the lexer say the same of every text: it is the name of a kind and
found as such, or it is no name and refused. For a kind that is a symbol, being its name, being the
character that is looked up as this kind, being the character this kind is written as, and being
lexed as one token of this kind are all the same. -/
theorem tables_agree (text : String) :
    (∀ kind, ofName text = .ok kind ↔ text = kind.name) ∧
    (ofName text = .error .unknownName ↔ ∀ kind : Kind, text ≠ kind.name) ∧
    ∀ kind : Kind, kind.symbol?.isSome → [
      ofName text = .ok kind,
      ∃ c, text = String.singleton c ∧ ofSymbolChar? c = some kind,
      ∃ c, kind.symbol?.map Symbol.char = some c ∧ text = String.singleton c,
      tokenize text = [⟨kind, text⟩, .endOfInput]].TFAE := by
  refine ⟨fun kind => ofName_eq_ok_iff.trans eq_comm, ?_, ?_⟩
  · rw [ofName_eq_error_iff]
    exact forall_congr' fun kind => ne_comm
  · intro kind fixed
    cases kind with
    | symbol s =>
        tfae_have 1 ↔ 4 := by
          rw [ofName_eq_ok_iff, name_symbol, tokenize_eq_symbol_iff]
          exact eq_comm
        tfae_have 2 ↔ 4 := by
          simp only [ofSymbolChar?_eq_some_iff, tokenize_eq_symbol_iff, exists_eq_right']
        tfae_have 3 ↔ 4 := by
          simp only [symbol?, Option.map_some, Option.some.injEq, tokenize_eq_symbol_iff,
            exists_eq_left']
        tfae_finish
    | _ => cases fixed

theorem tables_agree_on_left_brace :
    (symbol .leftBrace).symbol?.isSome ∧
    ofName "\x7b" = .ok (symbol .leftBrace) ∧
    (∃ c, "\x7b" = String.singleton c ∧ ofSymbolChar? c = some (symbol .leftBrace)) ∧
    (∃ c, (symbol .leftBrace).symbol?.map Symbol.char = some c ∧ "\x7b" = String.singleton c) ∧
    tokenize "\x7b" = [⟨symbol .leftBrace, "\x7b"⟩, .endOfInput] := by
  have fixed : (symbol .leftBrace).symbol?.isSome := rfl
  obtain ⟨names, -, tables⟩ := tables_agree "\x7b"
  have agree := tables (symbol .leftBrace) fixed
  have named := (names (symbol .leftBrace)).mpr rfl
  exact ⟨fixed, named, (agree.out 0 1).mp named, (agree.out 0 2).mp named,
    (agree.out 0 3).mp named⟩

end Token.Kind
end PlotLexer
