import StatementMapper.Proofs.Expr.Spelling

set_option autoImplicit false

namespace StatementMapper

open StatementMapper.Expr
  (Glyph Token Ends doubled backticked backtickedPath segments isIdentifier isWordPart isWordStart spaced)

namespace Lexeme

theorem skip_blank (c : Char) (rest : List Char) (blank : Text.isBlank c = true) : skip? c rest = some (some rest) := by
  unfold skip?
  exact if_pos blank

theorem skip_solid (c : Char) (rest : List Char) (solid : Text.isBlank c = false) (minus : c ≠ '-') (slash : c ≠ '/') :
    skip? c rest = none := by
  unfold skip?
  rw [if_neg (by rw [solid]; decide)]
  split
  · exact absurd rfl minus
  · exact absurd rfl slash
  · rfl

theorem all_nil : all? [] = some [] := by
  rw [all?.eq_def]

theorem all_blank (c : Char) (rest : List Char) (blank : Text.isBlank c = true) : all? (c :: rest) = all? rest := by
  rw [all?.eq_def]
  simp only [skip_blank c rest blank, Nat.le_refl, if_true]

theorem all_taken (c : Char) (rest tail : List Char) (lexeme : Lexeme) (kept : skip? c rest = none)
    (taken : take? c rest = some (lexeme, tail)) (short : tail.length ≤ rest.length) :
    all? (c :: rest) = (all? tail).map (lexeme :: ·) := by
  rw [all?.eq_def]
  simp only [kept, taken, if_pos short]

theorem quoted_doubled (mark : Char) (content rest : List Char) (apart : ∀ c ∈ rest.head?, c ≠ mark) :
    quoted? mark (doubled mark content ++ mark :: rest) = some (content, rest) := by
  induction content with
  | nil =>
      cases rest with
      | nil => simp [doubled, quoted?]
      | cons c more => simp [doubled, quoted?, apart c rfl]
  | cons c more ih =>
      rw [doubled] at ih ⊢
      rw [List.flatMap_cons]
      by_cases same : c = mark
      · simp [same, quoted?, ih]
      · obtain ⟨next, later, shape⟩ := List.exists_cons_of_ne_nil
          (l := List.flatMap (fun c => if c = mark then [mark, mark] else [c]) more ++ mark :: rest) (by simp)
        rw [shape] at ih
        simp [same, quoted?, shape, ih]

theorem doubled_plain (mark : Char) (content : List Char) (absent : mark ∉ content) : doubled mark content = content := by
  induction content with
  | nil => rfl
  | cons c more ih =>
      have other : c ≠ mark := fun same => absent (by rw [same]; exact List.mem_cons_self)
      rw [doubled] at ih ⊢
      rw [List.flatMap_cons, ih fun member => absent (List.mem_cons_of_mem _ member), if_neg other]
      rfl

theorem all_text (content : String) (rest : List Char) (ends : Ends rest) :
    all? ('\'' :: (doubled '\'' content.toList ++ '\'' :: rest)) = (all? rest).map (.text content :: ·) := by
  have whole := quoted_doubled '\'' content.toList rest fun c member => by rw [ends c member]; decide
  refine all_taken _ _ _ _ (skip_solid _ _ (by decide) (by decide) (by decide)) ?_ ?_
  · simp [take?, takeQuoted?, whole]
  · simp; omega

theorem all_backticked (content rest : List Char) (absent : '`' ∉ content) (apart : ∀ c ∈ rest.head?, c ≠ '`') :
    all? (backticked content ++ rest) = (all? rest).map (Lexeme.word (String.ofList content) .backticks :: ·) := by
  have whole := quoted_doubled '`' content rest apart
  rw [doubled_plain _ _ absent] at whole
  rw [backticked, List.cons_append, List.append_assoc, List.singleton_append]
  refine all_taken _ _ _ _ (skip_solid _ _ (by decide) (by decide) (by decide)) ?_ ?_
  · simp [take?, takeQuoted?, whole]
  · simp; omega

theorem identifier_unticked (word : List Char) (identifier : isIdentifier word = true) : '`' ∉ word :=
  fun member => absurd (Expr.identifier_parts word identifier '`' member) (by decide)

theorem all_period (rest : List Char) (stop : ∀ c ∈ rest.head?, c.isDigit = false) :
    all? ('.' :: rest) = (all? rest).map (.mark .period :: ·) := by
  have fraction : rest.takeWhile Char.isDigit = [] := Text.take_run _ [] rest (fun c member => nomatch member) stop
  refine all_taken _ _ _ _ (skip_solid _ _ (by decide) (by decide) (by decide)) ?_ (Nat.le_refl _)
  simp [take?, takeNumber, fraction]

theorem take_number_digits (digits rest : List Char) (nonempty : digits ≠ []) (all : ∀ c ∈ digits, c.isDigit = true)
    (ends : Ends rest) : takeNumber (digits ++ rest) = (.number digits, rest) := by
  have stop := Expr.ends_stop rest ends Char.isDigit (by decide)
  rw [takeNumber, Text.take_run _ _ _ all stop, Text.drop_run _ _ _ all stop]
  cases rest with
  | nil => simp [takeExponent, nonempty]
  | cons c more =>
      rw [ends c rfl]
      simp [takeExponent, nonempty]

theorem all_number (digits rest : List Char) (nonempty : digits ≠ []) (all : ∀ c ∈ digits, c.isDigit = true)
    (ends : Ends rest) : all? (digits ++ rest) = (all? rest).map (.number digits :: ·) := by
  cases digits with
  | nil => exact absurd rfl nonempty
  | cons c more =>
      have digit := all c List.mem_cons_self
      have unmarked := Expr.digit_unmarked c digit
      simp only [Expr.isRegionMark, Expr.isQuotation, Bool.or_eq_false_iff, beq_eq_false_iff_ne] at unmarked
      have unsigned : c ≠ '-' ∧ c ≠ '/' := by
        constructor <;> (rintro rfl; exact absurd digit (by decide))
      have solid := Expr.part_solid c (Expr.digit_part c digit)
      rw [List.cons_append]
      refine all_taken _ _ _ _ (skip_solid c _ solid unsigned.1 unsigned.2) ?_ (by simp)
      unfold take?
      rw [if_neg unmarked.1.1, if_neg unmarked.1.2, if_neg unmarked.2, if_pos (by rw [digit, Bool.true_or]),
        ← List.cons_append, take_number_digits _ rest nonempty all ends]

def isWord : List Char → Bool
  | c :: rest => isNameStart c && rest.all isNamePart
  | [] => false

theorem word_start (word rest : List Char) (accepted : isWord word = true) :
    ∀ c ∈ (word ++ rest).head?, isNameStart c = true := by
  cases word with
  | nil => exact nomatch accepted
  | cons first more =>
      intro c member
      cases member
      exact (Bool.and_eq_true_iff.mp accepted).1

theorem all_word (word rest : List Char) (accepted : isWord word = true)
    (stop : ∀ c ∈ rest.head?, isNamePart c = false) :
    all? (word ++ rest) = (all? rest).map (.word (String.ofList word) .bare :: ·) := by
  cases word with
  | nil => exact nomatch accepted
  | cons c more =>
      obtain ⟨start, parts⟩ := Bool.and_eq_true_iff.mp accepted
      have letter : isWordStart c = true := start
      have later : ∀ other ∈ more, isNamePart other = true := List.all_eq_true.mp parts
      have unmarked := Expr.start_unmarked c letter
      simp only [Expr.isRegionMark, Expr.isQuotation, Bool.or_eq_false_iff, beq_eq_false_iff_ne] at unmarked
      have undotted : c ≠ '.' := by
        rintro rfl
        exact absurd letter (by decide)
      have unsigned : c ≠ '-' ∧ c ≠ '/' := by
        constructor <;> (rintro rfl; exact absurd letter (by decide))
      have solid := Expr.part_solid c (Expr.part_of_start c letter)
      have number : ¬ (c.isDigit || c == '.') = true := by simp [undotted, Expr.start_undigit c letter]
      rw [List.cons_append]
      refine all_taken _ _ _ _ (skip_solid c _ solid unsigned.1 unsigned.2) ?_ (by simp)
      unfold take?
      rw [if_neg unmarked.1.1, if_neg unmarked.1.2, if_neg unmarked.2, if_neg number, if_pos start, takeWord,
        Text.take_run _ _ _ later stop, Text.drop_run _ _ _ later stop]
      rfl

theorem all_mark (c : Char) (run rest : List Char) (mark : Mark) (ends : Ends rest)
    (alone : skip? c run = none ∧ take? c run = some (.mark mark, []))
    (spaced : ∀ more, skip? c (run ++ ' ' :: more) = none ∧
      take? c (run ++ ' ' :: more) = some (.mark mark, ' ' :: more)) :
    all? (c :: (run ++ rest)) = (all? rest).map (.mark mark :: ·) := by
  cases rest with
  | nil =>
      rw [List.append_nil]
      exact all_taken _ _ _ _ alone.1 alone.2 (Nat.zero_le _)
  | cons space more =>
      rw [ends space rfl]
      exact all_taken _ _ _ _ (spaced more).1 (spaced more).2 (by simp)

theorem all_spaced_word (word rest : List Char) (accepted : isWord word = true) :
    all? (' ' :: (word ++ [' ']) ++ rest) = (all? rest).map (.word (String.ofList word) .bare :: ·) := by
  have stop : ∀ c ∈ (' ' :: rest).head?, isNamePart c = false := fun c member => by cases member; decide
  rw [List.cons_append, all_blank ' ' _ rfl, List.append_assoc, List.singleton_append, all_word word _ accepted stop,
    all_blank ' ' _ rfl]

theorem all_glyph (sign : Glyph) (rest : List Char) (ends : Ends rest) :
    all? ((Token.glyph sign).respelled ++ rest) = (all? rest).map (sign.lexeme :: ·) := by
  cases sign with
  | equals =>
      change all? (' ' :: '=' :: ' ' :: rest) = _
      rw [all_blank ' ' _ rfl, ← List.nil_append (' ' :: rest),
        all_mark '=' [] _ .eq (Expr.ends_space rest) ⟨rfl, rfl⟩ fun more => ⟨rfl, rfl⟩, all_blank ' ' _ rfl]
      rfl
  | ampersands => exact all_spaced_word "AND".toList rest (by decide)
  | pipes => exact all_spaced_word "OR".toList rest (by decide)
  | bang => exact all_spaced_word "NOT".toList rest (by decide)
  | _ => exact all_mark _ _ rest _ ends ⟨rfl, rfl⟩ fun more => ⟨rfl, rfl⟩

theorem all_path (words : List (List Char)) (nonempty : words ≠ [])
    (identifiers : ∀ word ∈ words, isIdentifier word = true) (rest : List Char) (apart : ∀ c ∈ rest.head?, c ≠ '`') :
    all? (backtickedPath words ++ rest) = (all? rest).map (Expr.pathLexemes (words.map String.ofList) ++ ·) := by
  induction words with
  | nil => exact absurd rfl nonempty
  | cons word more ih =>
      have own := identifier_unticked word (identifiers word List.mem_cons_self)
      cases more with
      | nil =>
          rw [Expr.backticked_path_single]
          exact all_backticked word rest own apart
      | cons next later =>
          have following := ih (List.cons_ne_nil _ _) fun other member => identifiers other (List.mem_cons_of_mem _ member)
          have quoted : ∀ c ∈ (backtickedPath (next :: later) ++ rest).head?, c.isDigit = false := by
            rw [List.head?_append, Expr.backticked_path_front]
            intro c member
            cases member
            decide
          rw [Expr.backticked_path_cons, List.append_assoc,
            all_backticked word _ own (fun c member => by cases member; decide),
            List.cons_append, all_period _ quoted, following, Option.map_map, Option.map_map]
          rfl

end Lexeme

namespace Expr

open Lexeme (all? isNameStart isNamePart isWord)

theorem word_of_letters (word : List Char) (nonempty : word ≠ []) (letters : ∀ c ∈ word, c.isAlpha = true) :
    isWord word = true := by
  have part : ∀ c, c.isAlpha = true → isNamePart c = true := fun c letter => by
    simp [isNamePart, Text.letter_of_alpha c letter]
  cases word with
  | nil => exact absurd rfl nonempty
  | cons c more =>
      have start : isNameStart c = true := alpha_start c (letters c List.mem_cons_self)
      refine Bool.and_eq_true_iff.mpr ⟨start, List.all_eq_true.mpr fun other member => part other ?_⟩
      exact letters other (List.mem_cons_of_mem _ member)

theorem method_word (name : String) (method : Method) (found : Method.ofName? name = some method) :
    isWord name.toList = true := by
  have all : ∀ known ∈ methodNames, isWord known.toList = true := by decide
  exact all name (method_names name method found)

theorem Token.all_token (token : Token) (proper : token.isProper = true) (rest : List Char) (ends : Ends rest) :
    all? (token.prepared ++ rest) = (all? rest).map (token.lexemes ++ ·) := by
  have unquoted := ends_stop rest ends (· == '`') (by decide)
  cases token with
  | text content =>
      change all? ('\'' :: (doubled '\'' content.toList ++ ['\''] ++ rest)) = _
      rw [List.append_assoc]
      exact Lexeme.all_text content rest ends
  | number value => exact Lexeme.all_number _ rest (Text.number_nonempty value) (Text.digits_of_number value) ends
  | path name =>
      have identifiers := path_identifiers name (property_path name proper)
      exact Lexeme.all_path _ (segments_nonempty name) identifiers rest fun c member => by simpa using unquoted c member
  | call target method =>
      obtain ⟨accepted, known⟩ := Bool.and_eq_true_iff.mp proper
      obtain ⟨found, named⟩ := Option.isSome_iff_exists.mp known
      have spoken := method_word method found named
      have undigit : ∀ c ∈ (method.toList ++ '(' :: ')' :: rest).head?, c.isDigit = false :=
        fun c member => start_undigit c (Lexeme.word_start _ _ spoken c member)
      have front := Lexeme.all_path _ (segments_nonempty target) (path_identifiers target accepted)
        ('.' :: (method.toList ++ '(' :: ')' :: rest)) (fun c member => by cases member; decide)
      have word := Lexeme.all_word method.toList ('(' :: ')' :: rest) spoken fun c member => by cases member; decide
      have opening := Lexeme.all_taken '(' (')' :: rest) (')' :: rest) (.mark .opening) rfl rfl (Nat.le_refl _)
      have closing : all? (')' :: rest) = (all? rest).map (.mark .closing :: ·) :=
        Lexeme.all_mark ')' [] rest .closing ends ⟨rfl, rfl⟩ fun more => ⟨rfl, rfl⟩
      have shape : (call target method).prepared ++ rest =
          backtickedPath (segments target) ++ '.' :: (method.toList ++ '(' :: ')' :: rest) := by
        simp [prepared]
      rw [shape, front, Lexeme.all_period _ undigit, word, opening, closing]
      cases all? rest with
      | none => rfl
      | some others => simp [lexemes, names]
  | word letters =>
      obtain ⟨keyword, found⟩ := Option.isSome_iff_exists.mp proper
      obtain ⟨nonempty, alphabetic⟩ := word_of_keyword _ keyword found
      have accepted := word_of_letters _ nonempty alphabetic
      have whole := Lexeme.all_word letters.toList rest accepted (ends_stop rest ends _ (by decide))
      rwa [String.ofList_toList] at whole
  | glyph sign => exact Lexeme.all_glyph sign rest ends

theorem all_spaced (tokens : List Token) (proper : ∀ token ∈ tokens, token.isProper = true) :
    all? (spaced Token.prepared tokens) = some (tokens.flatMap Token.lexemes) := by
  induction tokens with
  | nil => rw [spaced, List.flatMap_nil, List.flatMap_nil, Lexeme.all_nil]
  | cons token more ih =>
      rw [spaced_cons, Lexeme.all_blank ' ' _ rfl, token.all_token (proper token List.mem_cons_self) _ (spaced_ends _ more),
        ih fun other member => proper other (List.mem_cons_of_mem _ member)]
      rfl

end Expr

end StatementMapper
