import PlotLexer.Proofs.Layouts

/-!
Where the tokens of a layout stand. A token stands wherever its literal is apart from the text on
either side of it, and nowhere else, so the text alone says what its tokens are and where.
-/
namespace PlotLexer.Grammar

/-- Between `before` and `behind` there is the token `t`, and neither side runs on into it. -/
structure Stands (before : List Char) (t : Token) (behind : List Char) : Prop where
  wellFormed : WellFormed t
  apart_before : Apart before (t.literal.toList ++ behind)
  apart_behind : Apart t.literal.toList behind

namespace WellFormed
variable {t u : Token} {behind behind' cs ds : List Char}

theorem eq_of_append (ht : WellFormed t) (hu : WellFormed u) (apart : Apart t.literal.toList behind)
    (apart' : Apart u.literal.toList behind')
    (same : t.literal.toList ++ behind = u.literal.toList ++ behind') :
    t = u ∧ behind = behind' := by
  obtain ⟨c, rest, split⟩ := List.exists_cons_of_ne_nil
    (List.append_ne_nil_of_left_ne_nil ht.literal_ne_nil behind)
  have longest := munch_of_wellFormed ht split apart
  have longest' := munch_of_wellFormed hu (same.symm.trans split) apart'
  obtain ⟨kind, literal⟩ := Prod.mk.inj (longest.symm.trans longest')
  rw [literal] at same
  refine ⟨?_, List.append_cancel_left same⟩
  obtain ⟨kind_t, literal_t⟩ := t
  obtain ⟨kind_u, literal_u⟩ := u
  exact congrArg₂ Token.mk kind (String.toList_inj.mp literal)

theorem not_apart (ht : WellFormed t) (split : cs ++ ds = t.literal.toList) (left : cs ≠ [])
    (right : ds ≠ []) : ¬ Apart cs ds := by
  have classes := ht.literal_cases
  rw [← split] at classes
  rcases classes with letters | digits | ⟨c, single, -⟩
  · exact Apart.not_of_forall joining_isLetter left right letters
  · exact Apart.not_of_forall joining_isDigit left right digits
  · have length := congrArg List.length single
    have left_pos := List.length_pos_iff.mpr left
    have right_pos := List.length_pos_iff.mpr right
    rw [List.length_append, List.length_singleton] at length
    omega

end WellFormed

namespace Layout
variable {y : Layout} {before passed behind lead rest place : List Char} {t u : Token}

theorem passed_cases (stands : Stands (before ++ passed) t behind)
    (lead_blank : ∀ c ∈ lead, isBlank c) (hu : WellFormed u)
    (split : lead ++ (u.literal.toList ++ rest) = passed ++ (t.literal.toList ++ behind)) :
    passed = lead ∨ ∃ more, passed = lead ++ (u.literal.toList ++ more) ∧
      rest = more ++ (t.literal.toList ++ behind) := by
  rcases List.append_eq_append_iff.mp split with ⟨inner, rfl, split'⟩ | ⟨gap, rfl, split'⟩
  · rcases List.append_eq_append_iff.mp split' with ⟨more, rfl, far⟩ | ⟨stub, literal, near⟩
    · exact .inr ⟨more, rfl, far⟩
    · by_cases first : inner = []
      · left
        rw [first, List.append_nil]
      · by_cases last : stub = []
        · rw [last, List.append_nil] at literal
          rw [last, List.nil_append] at near
          exact .inr ⟨[], by rw [literal, List.append_nil], near.symm⟩
        · have apart := stands.apart_before
          rw [near, ← List.append_assoc] at apart
          exact absurd apart.of_append_left.of_append_right (hu.not_apart literal.symm first last)
  · cases gap with
    | nil => exact .inl (List.append_nil passed).symm
    | cons c gap =>
        have blank := lead_blank c (List.mem_append_right _ List.mem_cons_self)
        have marked : isBlank c = false :=
          forall_head stands.wellFormed.literal_ne_nil stands.wellFormed.isBlank_of_mem split'
        rw [blank] at marked
        cases marked

/-- The first token of a layout stands behind the lead, if the text before does not run into it. -/
theorem stands_first (lead_blank : ∀ c ∈ lead, isBlank c) (hu : WellFormed u)
    (apart : Apart before (lead ++ (u.literal.toList ++ rest)))
    (apart_behind : Apart u.literal.toList rest) : Stands (before ++ lead) u rest := by
  refine ⟨hu, ?_, apart_behind⟩
  apply (Apart.of_blank_left lead_blank).append_left
  intro empty
  rwa [empty, List.nil_append] at apart

/-- The occurrences of a layout are the places of its text where a token stands. -/
theorem mem_occurrences_iff (h : y.Proper) (apart : Apart before y.text) :
    (place, t) ∈ y.occurrences before ↔ ∃ passed behind, place = before ++ passed ∧
      y.text = passed ++ (t.literal.toList ++ behind) ∧ Stands place t behind := by
  induction y using induction generalizing before with
  | blank gap =>
      rw [occurrences_blank, text_blank]
      constructor
      · intro nowhere
        cases nowhere
      · rintro ⟨passed, behind, -, rfl, stands⟩
        exact absurd (proper_blank_iff.mp h) (stands.wellFormed.not_blank passed behind)
  | cons lead u tail ih =>
      obtain ⟨lead_blank, hu, apart_behind, htail⟩ := proper_cons_iff.mp h
      rw [text_cons] at apart
      have apart_tail : Apart (before ++ lead ++ u.literal.toList) tail.text :=
        (Apart.append_left_iff hu.literal_ne_nil).mpr apart_behind
      rw [occurrences_cons, List.mem_cons, ih htail apart_tail, text_cons]
      constructor
      · rintro (first | ⟨passed, behind, rfl, text, stands⟩)
        · obtain ⟨rfl, rfl⟩ := Prod.mk.inj first
          exact ⟨lead, tail.text, rfl, rfl, stands_first lead_blank hu apart apart_behind⟩
        · refine ⟨lead ++ (u.literal.toList ++ passed), behind, ?_, ?_, stands⟩
          · simp only [List.append_assoc]
          · simp only [text, List.append_assoc]
      · rintro ⟨passed, behind, rfl, split, stands⟩
        rcases passed_cases stands lead_blank hu split with rfl | ⟨more, rfl, text⟩
        · obtain ⟨rfl, -⟩ := stands.wellFormed.eq_of_append hu stands.apart_behind apart_behind
            (List.append_cancel_left split).symm
          exact .inl rfl
        · right
          refine ⟨more, behind, ?_, text, stands⟩
          simp only [List.append_assoc]

theorem pairwise_occurrences (h : y.Proper) (apart : Apart before y.text) :
    (y.occurrences before).Pairwise
      fun o p => Location.byteCount o.1 < Location.byteCount p.1 := by
  induction y using induction generalizing before with
  | blank gap =>
      rw [occurrences_blank]
      exact .nil
  | cons lead u tail ih =>
      obtain ⟨-, hu, apart_behind, htail⟩ := proper_cons_iff.mp h
      have apart_tail : Apart (before ++ lead ++ u.literal.toList) tail.text :=
        (Apart.append_left_iff hu.literal_ne_nil).mpr apart_behind
      rw [occurrences_cons, List.pairwise_cons]
      refine ⟨?_, ih htail apart_tail⟩
      intro later member
      obtain ⟨passed, -, place, -⟩ := (mem_occurrences_iff htail apart_tail).mp member
      have literal := Location.byteCount_pos hu.literal_ne_nil
      simp only [place, Location.byteCount_append]
      omega

theorem diagnostics_eq_filterMap (y : Layout) (before : List Char) :
    y.diagnostics (.behind before) =
      (y.occurrences before).filterMap fun o => o.2.fault?.map (⟨.behind o.1, ·⟩) := by
  induction y using induction generalizing before with
  | blank gap =>
      rw [occurrences_blank, diagnostics_blank]
      rfl
  | cons lead u tail ih =>
      rw [diagnostics_cons, occurrences_cons, Location.after_behind, Location.after_behind,
        ← List.append_assoc, ih]
      cases fault : u.fault? with
      | none =>
          rw [List.filterMap_cons_none (by rw [fault]; rfl)]
          rfl
      | some f =>
          rw [List.filterMap_cons_some (by rw [fault]; rfl)]
          rfl

theorem mem_diagnostics_iff {d : Diagnostic} : d ∈ y.diagnostics (.behind before) ↔
    ∃ place t, (place, t) ∈ y.occurrences before ∧ d.location = .behind place ∧
      t.fault? = some d.fault := by
  obtain ⟨location, fault⟩ := d
  rw [diagnostics_eq_filterMap, List.mem_filterMap]
  constructor
  · rintro ⟨⟨place, t⟩, member, found⟩
    obtain ⟨f, blamed, same⟩ := Option.map_eq_some_iff.mp found
    obtain ⟨rfl, rfl⟩ := Diagnostic.mk.inj same
    exact ⟨place, t, member, rfl, blamed⟩
  · rintro ⟨place, t, member, rfl, blamed⟩
    exact ⟨(place, t), member, Option.map_eq_some_iff.mpr ⟨fault, blamed, rfl⟩⟩

theorem pairwise_diagnostics (h : y.Proper) (apart : Apart before y.text) :
    (y.diagnostics (.behind before)).Pairwise
      fun d e => d.location.offset < e.location.offset := by
  rw [diagnostics_eq_filterMap]
  refine (pairwise_occurrences h apart).filterMap _ ?_
  intro o p earlier d hd e he
  obtain ⟨f, -, rfl⟩ := Option.map_eq_some_iff.mp hd
  obtain ⟨g, -, rfl⟩ := Option.map_eq_some_iff.mp he
  exact earlier

end Layout
end PlotLexer.Grammar
