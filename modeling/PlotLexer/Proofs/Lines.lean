import PlotLexer.Proofs.Offences
import PlotLexer.Proofs.Quoting
import PlotLexer.Proofs.Reports

/-!
Output that keeps to its line. Quoting leaves no control character as it is, so there is none in the
text of a token or in the log. A report shows the character at fault as it is, but a lexer objects to
no blank, so there is no line break in any report that a plot gives rise to.
-/
namespace PlotLexer
open Grammar

def isControl (c : Char) : Bool :=
  c.toNat < 0x20 || c.toNat == 0x7f

/-- A text is made, and all its characters satisfy `p`. If none is made, the number of a line or of a
column has overflowed, and the plot has 2 ^ 63 bytes or more. -/
def Prints (input : String) (p : Char → Prop) (made : Except Location.TextError String) : Prop :=
  (∃ s, made = .ok s ∧ ∀ c ∈ s.toList, p c) ∨
    made = .error .overflow ∧ 2 ^ 63 ≤ input.utf8ByteSize

theorem Prints.of_ok {input : String} {p : Char → Prop} {made : Except Location.TextError String}
    (fits : input.utf8ByteSize < 2 ^ 63 → ∃ s, made = .ok s)
    (chars : ∀ s, made = .ok s → ∀ c ∈ s.toList, p c) : Prints input p made := by
  cases made with
  | ok s => exact .inl ⟨s, rfl, chars s rfl⟩
  | error e =>
      cases e
      refine .inr ⟨rfl, Nat.le_of_not_lt fun small => ?_⟩
      obtain ⟨s, text⟩ := fits small
      cases text

theorem exists_of_map_eq_ok {ε α β : Type} {x : Except ε α} {f : α → β} {b : β}
    (h : x.map f = .ok b) : ∃ a, x = .ok a ∧ f a = b := by
  cases x with
  | ok a => exact ⟨a, rfl, Except.ok.inj h⟩
  | error e => cases h

/-- A fixed text is gone through by itself, lest the search goes through every character there
is. -/
theorem isControl_of_all {cs : List Char} (h : cs.all (!isControl ·)) :
    ∀ c ∈ cs, isControl c = false := by
  intro c member
  have plain := List.all_eq_true.mp h c member
  rwa [Bool.not_eq_true'] at plain

theorem isControl_of_isDigit {c : Char} (h : isDigit c) : isControl c = false := by
  have range := isDigit_iff_toNat.mp h
  have low : ¬ c.toNat < 0x20 := by omega
  have high : c.toNat ≠ 0x7f := by omega
  simp only [isControl, low, decide_false, Bool.false_or, beq_eq_false_iff_ne, ne_eq, high,
    not_false_eq_true]

theorem not_line_break {c : Char} (h : isControl c = false) : c ≠ '\n' ∧ c ≠ '\r' := by
  constructor
  · rintro rfl
    cases h
  · rintro rfl
    cases h

namespace Text
variable {c letter : Char}

theorem isUnprintable_of_isControl (h : isControl c) : isUnprintable c := by
  rw [isControl, Bool.or_eq_true, decide_eq_true_iff, beq_iff_eq] at h
  rcases h with low | delete
  · simp only [isUnprintable, low, decide_true, Bool.true_or]
  · rw [isUnprintable, delete]
    rfl

namespace Quoted
variable {m : Mark}

theorem exists_digit_of_mem_toDigits {b n : Nat} (hb : 1 < b) (h : c ∈ Nat.toDigits b n) :
    ∃ d, d < b ∧ c = d.digitChar := by
  induction n using Nat.strong_induction_on with
  | h n ih =>
      rw [Nat.toDigits_eq_if hb] at h
      split at h
      · next small => exact ⟨n, small, List.mem_singleton.mp h⟩
      · next large =>
          have less : n / b < n := Nat.div_lt_self (by omega) hb
          rcases List.mem_append.mp h with front | last
          · exact ih (n / b) less front
          · exact ⟨n % b, Nat.mod_lt n (by omega), List.mem_singleton.mp last⟩

theorem isControl_digitChar {d : Nat} (h : d < 16) : isControl d.digitChar = false := by
  revert d
  decide

theorem isControl_of_shortEscape? (h : shortEscape? m c = some letter) :
    isControl letter = false := by
  unfold shortEscape? at h
  split_ifs at h <;> cases h <;> cases m <;> decide

theorem isControl_of_mem_codeEscape {d : Char} (h : d ∈ codeEscape c) : isControl d = false := by
  rw [codeEscape, List.mem_append, List.mem_append] at h
  rcases h with (opening | digit) | closing
  · exact isControl_of_all (by decide) d opening
  · obtain ⟨value, small, rfl⟩ := exists_digit_of_mem_toDigits (by decide) digit
    exact isControl_digitChar small
  · exact isControl_of_all (by decide) d closing

/-- However a character is written, no control character is written for it. -/
theorem isControl_of_mem_escape {d : Char} (h : d ∈ escape m c) : isControl d = false := by
  unfold escape at h
  split at h
  · next short =>
      rcases List.mem_cons.mp h with rfl | letter
      · rfl
      · rw [List.mem_singleton.mp letter]
        exact isControl_of_shortEscape? short
  · split at h
    · exact isControl_of_mem_codeEscape h
    · next printable =>
        rw [List.mem_singleton.mp h, Bool.eq_false_iff]
        intro control
        exact printable (isUnprintable_of_isControl control)

theorem isControl_of_mem_encode {cs : List Char} :
    ∀ d ∈ encode m cs, isControl d = false := by
  have marked : isControl m.char = false := by cases m <;> rfl
  rw [encode, List.forall_mem_cons, List.forall_mem_append, List.forall_mem_singleton]
  refine ⟨marked, ?_, marked⟩
  intro d member
  obtain ⟨c, -, escaped⟩ := List.mem_flatMap.mp member
  exact isControl_of_mem_escape escaped

end Quoted
end Text

namespace Token

theorem Kind.isControl_of_mem_name (kind : Kind) :
    ∀ c ∈ kind.name.toList, isControl c = false := by
  apply isControl_of_all
  cases kind with
  | symbol s => cases s <;> decide
  | _ => decide

theorem isControl_of_mem_text (t : Token) : ∀ c ∈ t.text.toList, isControl c = false := by
  simp only [text, String.toList_append, List.forall_mem_append]
  refine ⟨⟨t.kind.isControl_of_mem_name, isControl_of_all (by decide)⟩, ?_⟩
  rw [String.toList_ofList]
  exact Text.Quoted.isControl_of_mem_encode

end Token

theorem Location.isControl_of_text {l : Location} {place : String} (h : l.text = .ok place) :
    ∀ c ∈ place.toList, isControl c = false := by
  have number (n : Nat) : ∀ c ∈ (toString n).toList, isControl c = false := by
    intro c member
    rw [Nat.toString_eq_repr, Nat.toList_repr] at member
    exact isControl_of_isDigit (Nat.isDigit_of_mem_toDigits (by decide) (by decide) member)
  rw [text_eq] at h
  split at h
  · cases h
    simp only [String.toList_append, List.forall_mem_append]
    exact ⟨⟨number _, isControl_of_all (by decide)⟩, number _⟩
  · cases h

theorem Keyword.isControl_of_mem_spelling (k : Keyword) :
    ∀ c ∈ k.spelling.toList, isControl c = false := by
  apply isControl_of_all
  cases k; decide

namespace Fault

theorem isControl_of_mem_name (f : Fault) : ∀ c ∈ f.name.toList, isControl c = false := by
  apply isControl_of_all
  cases f with
  | illegalCharacter c =>
      rw [name_illegalCharacter]
      decide
  | reservedKeyword k =>
      rw [name_reservedKeyword]
      decide

/-- The log quotes a character, or names a keyword by its spelling. -/
theorem isControl_of_mem_notice (f : Fault) : ∀ c ∈ f.notice.toList, isControl c = false := by
  cases f with
  | illegalCharacter c =>
      rw [notice_illegalCharacter]
      simp only [String.toList_append, List.forall_mem_append]
      refine ⟨isControl_of_all (by decide), ?_⟩
      rw [String.toList_ofList]
      exact Text.Quoted.isControl_of_mem_encode
  | reservedKeyword k =>
      rw [notice_reservedKeyword]
      simp only [String.toList_append, List.forall_mem_append]
      exact ⟨⟨isControl_of_all (by decide), k.isControl_of_mem_spelling⟩,
        isControl_of_all (by decide)⟩

/-- The only control character that a message can have is the character at fault. -/
theorem isControl_or_eq_of_mem_message (f : Fault) :
    ∀ c ∈ f.message.toList, isControl c = false ∨ f = .illegalCharacter c := by
  intro c member
  cases f with
  | illegalCharacter raw =>
      rw [message_illegalCharacter] at member
      simp only [String.toList_append, List.mem_append] at member
      rcases member with (opening | here) | closing
      · exact .inl (isControl_of_all (by decide) c opening)
      · rw [String.toList_singleton, List.mem_singleton] at here
        exact .inr (congrArg illegalCharacter here.symm)
      · exact .inl (isControl_of_all (by decide) c closing)
  | reservedKeyword k =>
      rw [message_reservedKeyword] at member
      simp only [String.toList_append, List.mem_append] at member
      rcases member with (opening | spelling) | closing
      · exact .inl (isControl_of_all (by decide) c opening)
      · exact .inl (k.isControl_of_mem_spelling c spelling)
      · exact .inl (isControl_of_all (by decide) c closing)

end Fault

theorem LogEntry.isControl_of_message {e : LogEntry} {s : String} (h : e.message = .ok s) :
    ∀ c ∈ s.toList, isControl c = false := by
  cases e with
  | fault d =>
      have told := congrArg Prod.snd (record_fault d)
      obtain ⟨l, place, rfl⟩ := exists_of_map_eq_ok (told.symm.trans h)
      simp only [String.toList_append, List.forall_mem_append]
      exact ⟨⟨d.fault.isControl_of_mem_notice, isControl_of_all (by decide)⟩,
        Location.isControl_of_text place⟩
  | lexed t =>
      cases h
      simp only [String.toList_append, List.forall_mem_append]
      exact ⟨isControl_of_all (by decide), t.isControl_of_mem_text⟩

theorem Diagnostic.isControl_or_eq_of_report {d : Diagnostic} {s : String} (h : d.report = .ok s) :
    ∀ c ∈ s.toList, isControl c = false ∨ d.fault = .illegalCharacter c := by
  intro c member
  rw [report_eq_map] at h
  obtain ⟨l, place, rfl⟩ := exists_of_map_eq_ok h
  simp only [String.toList_append, List.mem_append] at member
  rcases member with (((number | mark) | name) | mark) | message
  · exact .inl (Location.isControl_of_text place c number)
  · exact .inl (isControl_of_all (by decide) c mark)
  · exact .inl (d.fault.isControl_of_mem_name c name)
  · exact .inl (isControl_of_all (by decide) c mark)
  · exact d.fault.isControl_or_eq_of_mem_message c message

namespace Lexer
variable {input : String} {d : Diagnostic} {c : Char}

/-- Blanks are passed before anything is read, so no fault is found with one. -/
theorem isBlank_of_mem_finish (found : d ∈ (ofString input).finish.2)
    (stray : d.fault = .illegalCharacter c) : isBlank c = false := by
  obtain ⟨y, proper, text⟩ := Layout.exists_proper input.toList
  rw [finish_ofString proper text, Layout.mem_diagnostics_iff_offends proper] at found
  generalize y.text = cs at found
  cases found with
  | stray before behind c' unclassed =>
      cases stray
      exact unclassed.1
  | keyword before behind k free_left free_right => cases stray

theorem prints_report (found : d ∈ (ofString input).finish.2) :
    Prints input (fun c => c ≠ '\n' ∧ c ≠ '\r') d.report := by
  apply Prints.of_ok
  · intro small
    exact (Diagnostic.exists_message ((isIn_of_mem_finish found).text_eq small)).2
  · intro s told c member
    rcases Diagnostic.isControl_or_eq_of_report told c member with plain | raw
    · exact not_line_break plain
    · have marked := isBlank_of_mem_finish found raw
      constructor
      · rintro rfl
        cases marked
      · rintro rfl
        cases marked

theorem prints_message {v : Verbosity} {e : LogEntry} (logged : e ∈ (tokenizeLogged v input).2) :
    Prints input (fun c => isControl c = false) e.message :=
  .of_ok (fun small => exists_message_of_mem_tokenizeLogged small logged)
    fun _ told => LogEntry.isControl_of_message told

/-- Whatever a plot holds, it cannot break a line of output. No token has a control character in its
text, and none is in any message of the log. A report of what is found in the rest of a plot, after
any history, has no line break in it, although it shows a stray character as it is: such a character
is no blank. -/
theorem output_keeps_to_its_line (input : String) :
    (∀ kind literal, ∀ c ∈ (Token.text ⟨kind, literal⟩).toList, isControl c = false) ∧
    (∀ v, ∀ e ∈ (tokenizeLogged v input).2, Prints input (fun c => isControl c = false) e.message) ∧
    ∀ as, ∀ d ∈ ((ofString input).performAll as).finish.2,
      Prints input (fun c => c ≠ '\n' ∧ c ≠ '\r') d.report ∧
      ∀ c, d.fault = .illegalCharacter c → isBlank c = false ∧
        d.report = d.location.text.map fun place =>
          place ++ ": " ++ "IllegalCharacter" ++ ": " ++
            ("Illegal character `" ++ String.singleton c ++ "`") := by
  refine ⟨fun kind literal => Token.isControl_of_mem_text _, fun v e => prints_message, ?_⟩
  intro as d member
  have found : d ∈ (ofString input).finish.2 := by
    rw [← diagnostics_append_finish input as]
    exact List.mem_append_right _ member
  refine ⟨prints_report found, ?_⟩
  intro c raw
  refine ⟨isBlank_of_mem_finish found raw, ?_⟩
  rw [Diagnostic.report_eq_map, raw]
  rfl

theorem output_keeps_to_its_line_at_raw_null :
    ('n' ∈ (Token.text ⟨.illegal, "\n"⟩).toList ∧ isControl 'n' = false) ∧
    (.fault ⟨⟨3, 1, 0⟩, .illegalCharacter '\x00'⟩ ∈ (tokenizeLogged (.upTo .debug) "#\r\n\x00").2 ∧
      Prints "#\r\n\x00" (fun c => isControl c = false)
        (LogEntry.fault ⟨⟨3, 1, 0⟩, .illegalCharacter '\x00'⟩).message) ∧
    ⟨⟨3, 1, 0⟩, .illegalCharacter '\x00'⟩ ∈ ((ofString "#\r\n\x00").performAll [.next]).finish.2 ∧
    Prints "#\r\n\x00" (fun c => c ≠ '\n' ∧ c ≠ '\r')
      (Diagnostic.report ⟨⟨3, 1, 0⟩, .illegalCharacter '\x00'⟩) := by
  obtain ⟨tokens, log, reports⟩ := output_keeps_to_its_line "#\r\n\x00"
  have letter : 'n' ∈ (Token.text ⟨.illegal, "\n"⟩).toList := by decide +kernel
  have logged : .fault ⟨⟨3, 1, 0⟩, .illegalCharacter '\x00'⟩ ∈
      (tokenizeLogged (.upTo .debug) "#\r\n\x00").2 := by decide +kernel
  have found : ⟨⟨3, 1, 0⟩, .illegalCharacter '\x00'⟩ ∈
      ((ofString "#\r\n\x00").performAll [.next]).finish.2 := by decide +kernel
  exact ⟨⟨letter, tokens _ _ _ letter⟩, ⟨logged, log _ _ logged⟩, found,
    (reports _ _ found).1⟩

end Lexer
end PlotLexer
