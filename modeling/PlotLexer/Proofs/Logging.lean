import PlotLexer.Log
import PlotLexer.Proofs.Diagnostics

/-!
What a run logs. The tokens and the diagnostics of a plot tell its whole log, and verbosity only
leaves entries out: it changes neither the tokens nor the order of what is left.
-/
namespace PlotLexer
open Grammar

def Verbosity.keeps (v : Verbosity) (e : LogEntry) : Bool :=
  v.admits e.severity

/-- An entry as it is written: how grave it is, and its text. -/
def LogEntry.record (e : LogEntry) : Severity × Except Location.TextError String :=
  (e.severity, e.message)

/-- What the log says of a fault, before it says where. The character is quoted. -/
def Fault.notice : Fault → String
  | .illegalCharacter c => "Illegal character " ++ String.ofList (Text.Quoted.encode .single [c])
  | .reservedKeyword k => "Reserved keyword `" ++ k.spelling ++ "`"

@[simp] theorem Fault.notice_illegalCharacter (c : Char) : notice (.illegalCharacter c) =
    "Illegal character " ++ String.ofList (Text.Quoted.encode .single [c]) := rfl

@[simp] theorem Fault.notice_reservedKeyword (k : Keyword) :
    notice (.reservedKeyword k) = "Reserved keyword `" ++ k.spelling ++ "`" := rfl

/-- The records that tokens and their diagnostics call for: one for each token, and before that of
an illegal token one for the next diagnostic, which is about this token. -/
inductive Grammar.Narrates :
    List Token → List Diagnostic → List (Severity × Except Location.TextError String) → Prop
  | done : Narrates [] [] []
  | legal {t ts ds rs} (legal : t.kind ≠ .illegal) (rest : Narrates ts ds rs) :
      Narrates (t :: ts) ds ((.trace, .ok ("Lexed " ++ t.text)) :: rs)
  | illegal {t ts d ds rs} (illegal : t.kind = .illegal) (blames : Blames t d.fault)
      (rest : Narrates ts ds rs) :
      Narrates (t :: ts) (d :: ds)
        ((.debug, d.location.text.map fun place => d.fault.notice ++ " at " ++ place) ::
          (.trace, .ok ("Lexed " ++ t.text)) :: rs)

/-- There is only one way to tell the log from the tokens and the diagnostics. -/
theorem Grammar.Narrates.unique {ts : List Token} {ds : List Diagnostic}
    {rs rs' : List (Severity × Except Location.TextError String)} (h : Narrates ts ds rs)
    (h' : Narrates ts ds rs') : rs = rs' := by
  induction h generalizing rs' with
  | done =>
      cases h'
      rfl
  | legal legal rest ih =>
      cases h' with
      | legal _ rest' => rw [ih rest']
      | illegal illegal _ _ => exact absurd illegal legal
  | illegal illegal blames rest ih =>
      cases h' with
      | legal legal _ => exact absurd illegal legal
      | illegal _ _ rest' => rw [ih rest']

namespace LogEntry

theorem record_fault (d : Diagnostic) : record (.fault d) =
    (.debug, d.location.text.map fun place => d.fault.notice ++ " at " ++ place) := by
  obtain ⟨l, fault⟩ := d
  cases fault with
  | illegalCharacter c =>
      simp only [record, severity, message]
      cases l.text <;> rfl
  | reservedKeyword k =>
      simp only [record, severity, message]
      cases l.text <;> rfl

end LogEntry

def Lexeme.entries (x : Lexeme) : List LogEntry :=
  x.diagnostic?.toList.map .fault ++ [.lexed x.token]

namespace Log
variable (log : Log) (e : LogEntry) (es fs : List LogEntry)

def emitAll (log : Log) (es : List LogEntry) : Log :=
  es.foldl emit log

theorem emitAll_append : log.emitAll (es ++ fs) = (log.emitAll es).emitAll fs :=
  List.foldl_append

theorem emitLexeme_eq (x : Lexeme) : log.emitLexeme x = log.emitAll x.entries := by
  unfold emitLexeme Lexeme.entries
  cases x.diagnostic? <;> rfl

@[simp] theorem verbosity_emit : (log.emit e).verbosity = log.verbosity := by
  unfold emit
  split <;> rfl

theorem entries_emit : (log.emit e).entries.toList =
    log.entries.toList ++ [e].filter log.verbosity.keeps := by
  unfold emit
  split
  · next kept =>
      have keeps : log.verbosity.keeps e := kept
      rw [List.filter_cons_of_pos keeps, List.filter_nil, Array.toList_push]
  · next dropped =>
      have drops : ¬ log.verbosity.keeps e := dropped
      rw [List.filter_cons_of_neg drops, List.filter_nil, List.append_nil]

theorem entries_emitAll : (log.emitAll es).entries.toList =
    log.entries.toList ++ es.filter log.verbosity.keeps := by
  induction es generalizing log with
  | nil => exact (List.append_nil _).symm
  | cons e es ih =>
      have step : log.emitAll (e :: es) = (log.emit e).emitAll es := rfl
      rw [step, ih, entries_emit, verbosity_emit, List.append_assoc, ← List.filter_append]
      rfl

end Log

namespace Lexer
variable {l m : Lexer} {x : Lexeme}

theorem runLogged_of_none (h : l.read? = (none, m)) (log : Log) :
    l.runLogged log = ([.endOfInput], log) := by
  rw [runLogged]
  split
  · rfl
  · next h' => cases h'.symm.trans h

theorem runLogged_of_some (h : l.read? = (some x, m)) (log : Log) :
    l.runLogged log = (x.token :: (m.runLogged (log.emitAll x.entries)).1,
      (m.runLogged (log.emitAll x.entries)).2) := by
  rw [runLogged, ← Log.emitLexeme_eq]
  split
  · next h' => cases h'.symm.trans h
  · next h' => cases h'.symm.trans h; rfl

/-- The log of a layout is told by its tokens and diagnostics, whatever log it is added to. -/
theorem exists_entries {y : Layout} (h : y.Proper) (loc : Location) (ds : Array Diagnostic) :
    ∃ es : List LogEntry, Narrates y.tokens (y.diagnostics loc) (es.map LogEntry.record) ∧
      ∀ log, runLogged log ⟨⟨y.text, loc⟩, ds⟩ = (y.tokens ++ [.endOfInput], log.emitAll es) := by
  -- The entries are chosen before the log, so that one list of them serves every verbosity.
  induction y using Layout.induction generalizing loc ds with
  | blank gap =>
      refine ⟨[], ?_, ?_⟩
      · rw [Layout.diagnostics_blank]
        exact .done
      · intro log
        rw [Layout.text_blank, runLogged_of_none (read?_blank (Layout.proper_blank_iff.mp h) loc ds)]
        rfl
  | cons lead t tail ih =>
      obtain ⟨lead_blank, ht, apart, htail⟩ := Layout.proper_cons_iff.mp h
      have step := read?_token lead_blank ht apart loc ds
      obtain ⟨es, told, run⟩ := ih htail _ _
      refine ⟨Lexeme.entries ⟨t, loc.after lead, t.fault?⟩ ++ es, ?_, ?_⟩
      · rw [Layout.tokens_cons, Layout.diagnostics_cons, List.map_append]
        rcases ht.fault?_cases with ⟨legal, nothing⟩ | ⟨illegal, f, fault, blames⟩
        · rw [nothing]
          exact .legal legal told
        · rw [fault]
          have said : Narrates (t :: tail.tokens)
              (⟨loc.after lead, f⟩ :: tail.diagnostics (loc.after (lead ++ t.literal.toList)))
              (LogEntry.record (.fault ⟨loc.after lead, f⟩) :: LogEntry.record (.lexed t) ::
                es.map LogEntry.record) := by
            rw [LogEntry.record_fault]
            exact .illegal illegal blames told
          exact said
      · intro log
        rw [Layout.text_cons, runLogged_of_some step, run, Log.emitAll_append]
        rfl

end Lexer

theorem exists_entries_tokenizeLogged (input : String) : ∃ es : List LogEntry,
    Narrates (Lexer.ofString input).finish.1 (Lexer.ofString input).finish.2
      (es.map LogEntry.record) ∧
    ∀ v, tokenizeLogged v input = (tokenize input, es.filter v.keeps) := by
  obtain ⟨y, proper, text⟩ := Layout.exists_proper input.toList
  obtain ⟨es, told, run⟩ := Lexer.exists_entries proper .start #[]
  refine ⟨es, ?_, ?_⟩
  · rw [Lexer.finish_ofString proper text]
    exact told
  · intro v
    have kept := (Log.empty v).entries_emitAll es
    rw [tokenizeLogged, Lexer.ofString, Cursor.ofString, ← text, run, tokenize_of_proper proper text]
    exact congrArg (Prod.mk _) kept

theorem Verbosity.keeps_trace (e : LogEntry) : (upTo .trace).keeps e = true := by
  cases e <;> rfl

/-- At full verbosity the records of a plot are the ones that its tokens and diagnostics call for,
and no others. Any other verbosity drops the entries it does not admit, which are all of them unless
it admits faults, and has no influence on the tokens. -/
theorem tokenizeLogged_iff_narrates (input : String) :
    (∀ rs, Narrates (Lexer.ofString input).finish.1 (Lexer.ofString input).finish.2 rs ↔
      (tokenizeLogged (.upTo .trace) input).2.map LogEntry.record = rs) ∧
    (∀ v, tokenizeLogged v input =
      (tokenize input, (tokenizeLogged (.upTo .trace) input).2.filter v.keeps)) ∧
    (tokenizeLogged .off input).2 = [] ∧ (tokenizeLogged (.upTo .error) input).2 = [] ∧
    (tokenizeLogged (.upTo .warn) input).2 = [] ∧ (tokenizeLogged (.upTo .info) input).2 = [] := by
  obtain ⟨es, told, logged⟩ := exists_entries_tokenizeLogged input
  have full : (tokenizeLogged (.upTo .trace) input).2 = es := by
    rw [logged]
    exact List.filter_eq_self.mpr fun e _ => Verbosity.keeps_trace e
  have silent {v : Verbosity} (deaf : ∀ e, v.keeps e = false) : (tokenizeLogged v input).2 = [] := by
    rw [logged]
    exact List.filter_eq_nil_iff.mpr fun e _ => Bool.eq_false_iff.mp (deaf e)
  rw [full]
  refine ⟨fun rs => ⟨told.unique, ?_⟩, logged, silent ?_, silent ?_, silent ?_, silent ?_⟩
  · rintro rfl
    exact told
  all_goals
    intro e
    cases e <;> rfl

end PlotLexer
