import StatementMapper.Proofs.Template.Segments
import StatementMapper.Proofs.Template.Tokens

set_option autoImplicit false

/-! A second scan finds the new contents exactly when no changed one has a brace in it or a backslash at its end. -/

namespace StatementMapper.Template

open Delimiters (placeholder gather addPlain)

def Segment.rename (answer : List Char → List Char) : Segment → Segment
  | literal text => literal text
  | token content => token (answer content)

theorem rename_add_plain (answer : List Char → List Char) (c : Char) (segments : List Segment) :
    (addPlain c segments).map (Segment.rename answer) = addPlain c (segments.map (Segment.rename answer)) := by
  cases segments with
  | nil => rfl
  | cons first rest => cases first <;> rfl

theorem rename_add_all (answer : List Char → List Char) (text : List Char) (segments : List Segment) :
    (text.foldr addPlain segments).map (Segment.rename answer) =
      text.foldr addPlain (segments.map (Segment.rename answer)) := by
  induction text with
  | nil => rfl
  | cons c rest ih => rw [List.foldr_cons, rename_add_plain, ih, List.foldr_cons]

theorem gather_rename (answer : List Char → List Char) (pieces : List Piece) :
    gather placeholder (pieces.map (Piece.rename answer)) = (gather placeholder pieces).map (Segment.rename answer) := by
  induction pieces with
  | nil => rfl
  | cons piece rest ih =>
      cases piece with
      | plain c => rw [gather, rename_add_plain, ← ih]; rfl
      | escaped => rw [gather, rename_add_all, ← ih]; rfl
      | token content raw => exact congrArg (List.cons (.token (answer content))) ih

theorem content_rename (answer : List Char → List Char) (segments : List Segment) :
    (segments.map (Segment.rename answer)).filterMap Segment.content? =
      (segments.filterMap Segment.content?).map answer := by
  induction segments with
  | nil => rfl
  | cons first rest ih =>
      cases first with
      | literal => exact ih
      | token content => exact congrArg (List.cons (answer content)) ih

-- A closing brace would have ended the content, or its backslash would have been dropped.
theorem body_braceless {text content raw more tail : List Char}
    (body : Delimiters.Body placeholder text content raw tail) (same : text = content ++ more) : '\x7d' ∉ content := by
  induction body with
  | closed => simp
  | escaped => exact nomatch (List.cons.inj same).1
  | @plain c rest content raw after unclosed unescaped later ih =>
      intro member
      rcases List.mem_cons.mp member with rfl | inside
      · exact nomatch unclosed
      · exact ih (List.cons.inj same).2 inside

-- A content that can be read back: its token is left as it was written, or needs no escape.
def Legible (answer : List Char → List Char) (content : List Char) : Prop :=
  answer content = content ∨ Tame (answer content)

theorem token_read (answer : List Char → List Char) {start content raw tail : List Char}
    (body : Delimiters.Body placeholder start content raw tail) (legible : Legible answer content) (more : List Char) :
    placeholder.scan (placeholder.mapPiece answer (.token content (placeholder.opening ++ raw)) ++ more) =
      .rename answer (.token content (placeholder.opening ++ raw)) :: placeholder.scan more := by
  rw [Delimiters.mapPiece, Piece.rename]
  by_cases same : answer content = content
  · simp only [if_pos same]
    rw [List.append_assoc, same]
    exact Delimiters.scan_token _ ((Text.after_some_iff _ _ _).mpr rfl) (Delimiters.body_local _ body more)
  · simp only [if_neg same]
    have tame := legible.resolve_left same
    rw [List.append_assoc, List.append_assoc]
    exact Delimiters.scan_token _ ((Text.after_some_iff _ _ _).mpr rfl) (body_of_tame _ more tame)

theorem legible_of_read (answer : List Char → List Char) {content raw more : List Char} {names : List (List Char)}
    (read : contents (placeholder.scan (placeholder.mapPiece answer (.token content raw) ++ more)) =
      answer content :: names) : Legible answer content := by
  by_cases same : answer content = content
  · exact Or.inl same
  · have opens : Text.after? placeholder.opening (placeholder.mapPiece answer (.token content raw) ++ more) =
        some (answer content ++ '\x7d' :: more) := by
      rw [Delimiters.mapPiece, if_neg same, Text.after_some_iff]
      simp [placeholder]
    cases found : placeholder.body? (answer content ++ '\x7d' :: more) with
    | none =>
        rw [Delimiters.scan_open _ opens found, contents_plain] at read
        cases read
    | some parts =>
        obtain ⟨second, slice, after⟩ := parts
        have body := (Delimiters.body_iff _ _ _ _ _).mp found
        rw [Delimiters.scan_token _ opens body] at read
        obtain ⟨same, _⟩ := List.cons.inj read
        rw [same] at body
        exact Or.inr (tame_of_body body (body_braceless body rfl))

theorem scan_mapped_plain (answer : List Char → List Char) {c : Char} {rest : List Char}
    (unopened : Text.after? placeholder.opening (c :: rest) = none)
    (unescaped : c = '\\' → Text.after? placeholder.opening rest = none) :
    placeholder.scan (c :: placeholder.mapTokens answer rest) =
      .plain c :: placeholder.scan (placeholder.mapTokens answer rest) := by
  have whole : placeholder.mapTokens answer (c :: rest) = c :: placeholder.mapTokens answer rest := by
    rw [Delimiters.mapTokens, Delimiters.scan_plain _ unopened unescaped]
    rfl
  refine Delimiters.scan_plain _ ?_ fun slash => mapped_unopened answer (unescaped slash)
  rw [← whole]
  exact mapped_unopened answer unopened

theorem scan_mapped_escaped (text : List Char) :
    placeholder.scan ('\\' :: (placeholder.opening ++ text)) = .escaped :: placeholder.scan text :=
  Delimiters.scan_escaped _ (unopened_of_differs _ fun _ same => nomatch (List.cons.inj same).1)
    ((Text.after_some_iff _ _ _).mpr rfl)

-- Nothing is opened that is not closed in the text, so what is left open stays as it is.
theorem mapped_plain (answer : List Char → List Char) (text : List Char) :
    (text.map Piece.plain).flatMap (placeholder.mapPiece answer) = text ∧
      (text.map Piece.plain).map (Piece.rename answer) = text.map Piece.plain := by
  constructor
  · simp [List.flatMap_map, Delimiters.mapPiece]
  · rw [List.map_map]
    rfl

theorem scan_renamed (answer : List Char → List Char) (text : List Char)
    (legible : ∀ content ∈ contents (placeholder.scan text), Legible answer content) :
    placeholder.scan (placeholder.mapTokens answer text) = (placeholder.scan text).map (.rename answer) := by
  rw [Delimiters.mapTokens]
  fun_induction Delimiters.scan placeholder text with
  | case1 => rw [List.flatMap_nil, Delimiters.scan]; rfl
  | case2 c rest start opened unclosed =>
      obtain ⟨same, renamed⟩ := mapped_plain answer (c :: rest)
      rw [same, renamed, Delimiters.scan_open _ opened unclosed]
  | case3 c rest start opened content raw tail found ih =>
      have body := (Delimiters.body_iff _ _ _ _ _).mp found
      have later := ih fun other member => legible other (List.mem_cons_of_mem _ member)
      rw [List.flatMap_cons, token_read answer body (legible content List.mem_cons_self), later, List.map_cons]
  | case4 c rest unopened tail escape ih =>
      exact (scan_mapped_escaped _).trans (congrArg _ (ih legible))
  | case5 c rest unopened unescaped ih =>
      have plain := scan_mapped_plain answer unopened fun slash => by simpa [slash] using unescaped
      exact plain.trans (congrArg _ (ih legible))

theorem renamed_legible (answer : List Char → List Char) (text : List Char)
    (read : contents (placeholder.scan (placeholder.mapTokens answer text)) =
      (contents (placeholder.scan text)).map answer) :
    ∀ content ∈ contents (placeholder.scan text), Legible answer content := by
  rw [Delimiters.mapTokens] at read
  revert read
  fun_induction Delimiters.scan placeholder text with
  | case1 => exact fun _ _ member => absurd member List.not_mem_nil
  | case2 c rest start opened unclosed =>
      intro _ content member
      rw [contents_plain] at member
      exact absurd member List.not_mem_nil
  | case3 c rest start opened content raw tail found ih =>
      intro read other member
      have body := (Delimiters.body_iff _ _ _ _ _).mp found
      have first := legible_of_read answer read
      rw [List.flatMap_cons, token_read answer body first] at read
      rcases List.mem_cons.mp member with rfl | later
      · exact first
      · exact ih (List.cons.inj read).2 other later
  | case4 c rest unopened tail escape ih =>
      intro read
      exact ih ((congrArg contents (scan_mapped_escaped _)).symm.trans read)
  | case5 c rest unopened unescaped ih =>
      intro read
      have plain := scan_mapped_plain answer unopened fun slash => by simpa [slash] using unescaped
      exact ih ((congrArg contents plain).symm.trans read)

theorem tokens_of_scan (text : List Char) : tokensOf text = contents (placeholder.scan text) :=
  (contents_gather _).symm

theorem segments_renamed_iff (answer : List Char → List Char) (text : List Char) :
    placeholder.segments (placeholder.mapTokens answer text) = (placeholder.segments text).map (Segment.rename answer) ↔
      ∀ content ∈ tokensOf text, Legible answer content := by
  rw [tokens_of_scan]
  constructor
  · intro same
    refine renamed_legible answer text ?_
    rw [← tokens_of_scan, ← tokens_of_scan, tokensOf, same, content_rename, tokensOf]
  · intro legible
    rw [Delimiters.segments, scan_renamed answer text legible, gather_rename, Delimiters.segments]

theorem tokens_renamed (answer : List Char → List Char) (text : List Char)
    (legible : ∀ content ∈ tokensOf text, Legible answer content) :
    tokensOf (placeholder.mapTokens answer text) = (tokensOf text).map answer := by
  rw [tokensOf, (segments_renamed_iff answer text).mpr legible, content_rename, tokensOf]

theorem tame_append {before content : List Char} (first : Tame before) (second : Tame content) :
    Tame (before ++ content) := by
  refine ⟨fun member => (List.mem_append.mp member).elim first.1 second.1, fun last => ?_⟩
  rw [List.getLast?_append] at last
  cases own : content.getLast? with
  | none => exact first.2 (by rwa [own] at last)
  | some c => exact second.2 (own.trans (by rwa [own] at last))

theorem legible_prefixed_iff (before content text : List Char) (tame : Tame before) (member : content ∈ tokensOf text) :
    Legible (before ++ ·) content ↔ before = [] ∨ '\x7d' ∉ content := by
  rw [Legible, List.append_left_eq_self]
  constructor
  · rintro (same | read)
    · exact Or.inl same
    · exact Or.inr fun inside => read.1 (List.mem_append_right _ inside)
  · rintro (empty | braceless)
    · exact Or.inl empty
    · exact Or.inr (tame_append tame (tame_contents text (tokens_of_scan text ▸ member) braceless))

theorem renamed_together (answers : List (List Char → List Char)) (text : List Char)
    (tame : ∀ answer ∈ answers, ∀ content, Tame content → Tame (answer content))
    (braceless : ∀ content ∈ tokensOf text, '\x7d' ∉ content) :
    placeholder.segments (answers.foldr placeholder.mapTokens text) =
        (placeholder.segments text).map (Segment.rename (answers.foldr (· ∘ ·) id)) ∧
      ∀ content ∈ tokensOf (answers.foldr placeholder.mapTokens text), Tame content := by
  induction answers with
  | nil =>
      refine ⟨?_, fun content member => tame_contents text (tokens_of_scan text ▸ member) (braceless content member)⟩
      have same : Segment.rename id = id := by
        funext segment
        cases segment <;> rfl
      rw [List.foldr_nil, List.foldr_nil, same, List.map_id]
  | cons answer rest ih =>
      obtain ⟨inner, tamed⟩ := ih fun other member => tame other (List.mem_cons_of_mem _ member)
      have keeps := tame answer List.mem_cons_self
      have legible : ∀ content ∈ tokensOf (rest.foldr placeholder.mapTokens text), Legible answer content :=
        fun content member => Or.inr (keeps content (tamed content member))
      refine ⟨?_, fun content member => ?_⟩
      · have composed : Segment.rename answer ∘ Segment.rename (rest.foldr (· ∘ ·) id) =
            Segment.rename (answer ∘ rest.foldr (· ∘ ·) id) := by
          funext segment
          cases segment <;> rfl
        rw [List.foldr_cons, (segments_renamed_iff answer _).mpr legible, inner, List.map_map, composed, List.foldr_cons]
      · rw [List.foldr_cons, tokens_renamed answer _ legible] at member
        obtain ⟨old, there, rfl⟩ := List.mem_map.mp member
        exact keeps old (tamed old there)

theorem prefixed_segments_iff (before : List Char) (tame : Tame before) (text : List Char) :
    (placeholder.segments (placeholder.mapTokens (before ++ ·) text) =
          (placeholder.segments text).map (Segment.rename (before ++ ·)) ↔
        before = [] ∨ ∀ content ∈ tokensOf text, '\x7d' ∉ content) ∧
      ∀ answers : List (List Char → List Char), (∀ answer ∈ answers, ∀ content, Tame content → Tame (answer content)) →
        (∀ content ∈ tokensOf text, '\x7d' ∉ content) →
        placeholder.segments (answers.foldr placeholder.mapTokens text) =
          (placeholder.segments text).map (Segment.rename (answers.foldr (· ∘ ·) id)) := by
  refine ⟨?_, fun answers kept braceless => (renamed_together answers text kept braceless).1⟩
  rw [segments_renamed_iff]
  constructor
  · intro legible
    by_cases empty : before = []
    · exact Or.inl empty
    · refine Or.inr fun content member => ?_
      exact ((legible_prefixed_iff before content text tame member).mp (legible content member)).resolve_left empty
  · intro either content member
    exact (legible_prefixed_iff before content text tame member).mpr (either.imp id fun all => all content member)

-- Behind an escaped brace nothing is read back; without a brace two names are, around an escaped placeholder.
theorem escaped_brace_misread :
    let item := "__frch_i_0.".toList
    let braced := "#\x7ba\\\x7db\x7d".toList
    let plain := "#\x7ba\x7d \\#\x7bb\x7d #\x7bc".toList
    let names := [("__frch_j_1.".toList ++ ·), (item ++ ·)]
    placeholder.segments braced = [.token "a\x7db".toList] ∧
      placeholder.segments (placeholder.mapTokens (item ++ ·) braced) =
        [.token "__frch_i_0.a".toList, .literal "b\x7d".toList] ∧
      ¬ (item = [] ∨ ∀ content ∈ tokensOf braced, '\x7d' ∉ content) ∧
      placeholder.segments (names.foldr placeholder.mapTokens plain) =
        (placeholder.segments plain).map (Segment.rename (names.foldr (· ∘ ·) id)) := by
  have item : Tame "__frch_i_0.".toList := ⟨by decide, by decide⟩
  have outer : Tame "__frch_j_1.".toList := ⟨by decide, by decide⟩
  refine ⟨by decide +kernel, by decide +kernel, fun either => ?_, ?_⟩
  · have same := (prefixed_segments_iff "__frch_i_0.".toList item _).1.mpr either
    exact absurd same (by decide +kernel)
  · refine (prefixed_segments_iff "__frch_i_0.".toList item _).2 _ ?_ (by decide +kernel)
    simp only [List.forall_mem_cons]
    exact ⟨fun _ => tame_append outer, fun _ => tame_append item, nofun⟩

end StatementMapper.Template
