import PlotLexer.Proofs.Iteration

/-!
Lexers over two texts that begin alike. Scans that stop before the place where the texts part
cannot tell them apart, since a scan looks at one character behind its token at most.
-/
namespace PlotLexer.Lexer
open Grammar Location
variable {l m : Lexer} {limit : Nat}

/-- A scan of either lexer reads the same lexeme, with its place and its fault, gives the same
token, and leaves the same location and the same diagnostics. -/
structure ScansAlike (l m : Lexer) : Prop where
  lexeme? : m.read?.1 = l.read?.1
  token : m.scan.1 = l.scan.1
  location : m.scan.2.location = l.scan.2.location
  diagnostics : m.scan.2.diagnostics = l.scan.2.diagnostics

/-- Two lexers at the same place, with the same diagnostics, and with the same text ahead up to
the byte offset `limit`. -/
structure AgreesUpTo (limit : Nat) (l m : Lexer) : Prop where
  ahead : ∃ shared, shared <+: l.cursor.rest ∧ shared <+: m.cursor.rest ∧
    l.location.offset + byteCount shared = limit
  location : m.location = l.location
  diagnostics : m.diagnostics = l.diagnostics

theorem agreesUpTo_ofString {input input' : String} {shared : List Char}
    (left : shared <+: input.toList) (right : shared <+: input'.toList) :
    AgreesUpTo (byteCount shared) (ofString input) (ofString input') :=
  ⟨⟨shared, left, right, Nat.zero_add _⟩, rfl, rfl⟩

theorem scan_eq (l : Lexer) :
    l.scan = (l.read?.1.elim .endOfInput Lexeme.token, l.read?.2) := by
  rw [scan]
  rcases l.read? with ⟨_ | x, m⟩ <;> rfl

theorem ScansAlike.of_read? {x? : Option Lexeme} {rest rest' : List Char} {loc : Location}
    {ds : Array Diagnostic} (left : l.read? = (x?, ⟨⟨rest, loc⟩, ds⟩))
    (right : m.read? = (x?, ⟨⟨rest', loc⟩, ds⟩)) : ScansAlike l m := by
  constructor <;> simp only [scan_eq, left, right, Lexer.location]

theorem offset_scans_mono (l : Lexer) {n k : Nat} (h : n ≤ k) :
    (l.scans n).location.offset ≤ (l.scans k).location.offset := by
  obtain ⟨j, rfl⟩ := Nat.exists_eq_add_of_le h
  obtain ⟨y, passed, -⟩ := exists_passes_scans j (l.scans n)
  rw [scans_add, passed.location, offset_after]
  exact Nat.le_add_right _ _

/-- A literal is apart from what follows it as soon as the next character says so. -/
theorem scan_of_shared_next {t : Token} {lead more r : List Char}
    (lead_blank : ∀ c ∈ lead, isBlank c) (ht : WellFormed t) (more_ne_nil : more ≠ [])
    (apart : Apart t.literal.toList (more ++ r)) (loc : Location) (ds : Array Diagnostic)
    (hl : l = ⟨⟨lead ++ (t.literal.toList ++ (more ++ r)), loc⟩, ds⟩) (r' : List Char)
    (hm : m = ⟨⟨lead ++ (t.literal.toList ++ (more ++ r')), loc⟩, ds⟩) :
    ScansAlike l m ∧
      AgreesUpTo (loc.offset + byteCount (lead ++ t.literal.toList ++ more)) l.scan.2 m.scan.2 := by
  have apart' : Apart t.literal.toList (more ++ r') := by
    rwa [Apart.append_right_iff more_ne_nil] at apart ⊢
  have first := read?_token lead_blank ht apart loc ds
  have second := read?_token lead_blank ht apart' loc ds
  rw [← hl] at first
  rw [← hm] at second
  have ends : (loc.after (lead ++ t.literal.toList)).offset + byteCount more =
      loc.offset + byteCount (lead ++ t.literal.toList ++ more) := by
    rw [offset_after, byteCount_append (lead ++ t.literal.toList), Nat.add_assoc]
  refine ⟨.of_read? first second, ?_⟩
  rw [scan_eq, scan_eq, first, second]
  exact ⟨⟨more, List.prefix_append more r, List.prefix_append more r', ends⟩, rfl, rfl⟩

/-- A scan that stops before the limit has seen a character behind its literal that is in both
texts, and that is the last character that it sees. -/
theorem AgreesUpTo.scan (agrees : AgreesUpTo limit l m)
    (inside : l.scan.2.location.offset < limit) :
    ScansAlike l m ∧ AgreesUpTo limit l.scan.2 m.scan.2 := by
  obtain ⟨⟨rest, loc⟩, ds⟩ := l
  obtain ⟨⟨rest', loc'⟩, ds'⟩ := m
  obtain ⟨⟨shared, left, ⟨r', right⟩, rfl⟩, same, found⟩ := agrees
  obtain rfl : loc' = loc := same
  obtain rfl : ds' = ds := found
  obtain rfl : shared ++ r' = rest' := right
  rcases blank_or_token rest with blanks | ⟨lead, t, behind, lead_blank, ht, apart, rfl⟩
  · rw [scan_blank blanks] at inside
    have whole : (loc'.after rest).offset < loc'.offset + byteCount shared := inside
    obtain ⟨r, rfl⟩ : shared <+: rest := left
    rw [offset_after, byteCount_append] at whole
    omega
  · rw [scan_eq, read?_token lead_blank ht apart] at inside
    have passed : (loc'.after (lead ++ t.literal.toList)).offset < loc'.offset + byteCount shared :=
      inside
    rw [offset_after, Nat.add_lt_add_iff_left] at passed
    have front : lead ++ t.literal.toList <+: lead ++ (t.literal.toList ++ behind) :=
      ⟨behind, List.append_assoc _ _ _⟩
    obtain ⟨more, more_ne_nil, rfl⟩ := exists_append_of_byteCount_lt front left passed
    obtain ⟨r, cut⟩ : lead ++ t.literal.toList ++ more <+: lead ++ (t.literal.toList ++ behind) :=
      left
    simp only [List.append_assoc, List.append_cancel_left_eq] at cut
    subst cut
    apply scan_of_shared_next lead_blank ht more_ne_nil apart loc' ds' rfl r'
    rw [List.append_assoc, List.append_assoc]

theorem AgreesUpTo.scans (agrees : AgreesUpTo limit l m) (n : Nat)
    (inside : (l.scans n).location.offset < limit) :
    AgreesUpTo limit (l.scans n) (m.scans n) := by
  induction n generalizing l m with
  | zero => exact agrees
  | succ n ih =>
      have first : l.scan.2.location.offset < limit :=
        Nat.lt_of_le_of_lt (offset_scans_mono l.scan.2 (Nat.zero_le n)) inside
      rw [scans_succ, scans_succ]
      exact ih (agrees.scan first).2 inside

theorem AgreesUpTo.scansAlike (agrees : AgreesUpTo limit l m) {n k : Nat} (h : k < n)
    (inside : (l.scans n).location.offset < limit) : ScansAlike (l.scans k) (m.scans k) := by
  have before : (l.scans k).location.offset < limit :=
    Nat.lt_of_le_of_lt (offset_scans_mono l (Nat.le_of_lt h)) inside
  have next : l.scans (k + 1) = (l.scans k).scan.2 := scans_add l k 1
  have stops : (l.scans k).scan.2.location.offset < limit := by
    rw [← next]
    exact Nat.lt_of_le_of_lt (offset_scans_mono l h) inside
  exact ((agrees.scans k before).scan stops).1

/-- As long as the scans of a text stop before its last part, that part may be any other. Nor is
more than one character behind the last token needed: the text up to there decides already. -/
theorem scansAlike_of_shared_text (a b b' : String) (n : Nat)
    (inside : ((ofString (a ++ b)).scans n).location.offset < a.utf8ByteSize) :
    (∀ k < n, ScansAlike ((ofString (a ++ b)).scans k) ((ofString (a ++ b')).scans k)) ∧
    ∃ before c behind, (a ++ b).toList = before ++ c :: behind ∧
      byteCount before = ((ofString (a ++ b)).scans n).location.offset ∧
      ∀ behind', ∀ k < n, ScansAlike ((ofString (a ++ b)).scans k)
        ((ofString (String.ofList (before ++ c :: behind'))).scans k) := by
  have size : byteCount a.toList = a.utf8ByteSize := by
    rw [← utf8ByteSize_ofList, String.ofList_toList]
  constructor
  · intro k earlier
    have left : a.toList <+: (a ++ b).toList := ⟨b.toList, String.toList_append.symm⟩
    have right : a.toList <+: (a ++ b').toList := ⟨b'.toList, String.toList_append.symm⟩
    rw [← size] at inside
    exact (agreesUpTo_ofString left right).scansAlike earlier inside
  · obtain ⟨y, passed, -⟩ := exists_passes_scans n (ofString (a ++ b))
    have cut : (a ++ b).toList = y.text ++ ((ofString (a ++ b)).scans n).cursor.rest := passed.rest
    have place : ((ofString (a ++ b)).scans n).location.offset = byteCount y.text := by
      rw [passed.location, offset_after]
      exact Nat.zero_add _
    obtain ⟨c, behind, next⟩ : ∃ c behind,
        ((ofString (a ++ b)).scans n).cursor.rest = c :: behind := by
      apply List.exists_cons_of_ne_nil
      intro ended
      rw [ended, List.append_nil, String.toList_append] at cut
      rw [place, ← cut, byteCount_append, size] at inside
      omega
    rw [next] at cut
    refine ⟨y.text, c, behind, cut, place.symm, ?_⟩
    intro behind' k earlier
    have left : y.text ++ [c] <+: (a ++ b).toList :=
      ⟨behind, by rw [cut, List.append_assoc, List.singleton_append]⟩
    have right : y.text ++ [c] <+: (String.ofList (y.text ++ c :: behind')).toList :=
      ⟨behind', by rw [String.toList_ofList, List.append_assoc, List.singleton_append]⟩
    apply (agreesUpTo_ofString left right).scansAlike earlier
    rw [place, byteCount_append]
    exact Nat.lt_add_of_pos_right c.utf8Size_pos

theorem scansAlike_of_keyword_before_cut :
    ((ofString ("é func(" ++ "")).scans 2).location.offset < "é func(".utf8ByteSize ∧
    (∀ k < 2, ScansAlike ((ofString ("é func(" ++ "")).scans k)
      ((ofString ("é func(" ++ "tion\n√")).scans k)) ∧
    ((ofString ("é func(" ++ "tion\n√")).scans 1).read?.1 =
      some ⟨⟨.illegal, "func"⟩, ⟨3, 0, 2⟩, some (.reservedKeyword .func)⟩ := by
  have inside : ((ofString ("é func(" ++ "")).scans 2).location.offset <
      "é func(".utf8ByteSize := by
    decide +kernel
  have alike := (scansAlike_of_shared_text "é func(" "" "tion\n√" 2 inside).1
  have read : ((ofString ("é func(" ++ "")).scans 1).read?.1 =
      some ⟨⟨.illegal, "func"⟩, ⟨3, 0, 2⟩, some (.reservedKeyword .func)⟩ := by
    decide +kernel
  exact ⟨inside, alike, (alike 1 Nat.one_lt_two).lexeme?.trans read⟩

end PlotLexer.Lexer
