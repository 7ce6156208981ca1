import StatementMapper.Proofs.Expr.Numerals

set_option autoImplicit false

/-! A name between backticks is read as a property, but under the spelling it would have without them. -/

namespace StatementMapper.Expr

open Phrase (Operand Infix)

def track (quote : Option Char) (c : Char) : Option Char :=
  match quote with
  | some mark => if c = mark then none else some mark
  | none => if isQuotation c then some c else none

def leftOpen (text : List Char) : Option Char := text.foldl track none

-- Whether a text starts with a sign that is respelled. The second character of `!=` starts none.
def startsSign (last : Option Char) : List Char → Bool
  | [] => false
  | c :: rest =>
    if c = '!' then rest.head? != some '='
    else (c == '&' || c == '|' || c == '=' && last != some '!') && rest.head? == some c

def SignBehind (quote last : Option Char) (text : List Char) : Prop :=
  ∃ before after, text = before ++ after ∧ before.foldl track quote = none ∧
    startsSign (before.getLast?.or last) after = true

def SignOutside (text : List Char) : Prop :=
  ∃ before after, text = before ++ after ∧ leftOpen before = none ∧ startsSign before.getLast? after = true

theorem sign_outside_iff (text : List Char) : SignOutside text ↔ SignBehind none none text := by
  simp only [SignOutside, SignBehind, leftOpen, Option.or_none]

theorem sign_behind_nil (quote last : Option Char) : ¬ SignBehind quote last [] := by
  rintro ⟨before, after, shape, _, starts⟩
  obtain ⟨rfl, rfl⟩ := List.append_eq_nil_iff.mp shape.symm
  exact nomatch starts

theorem sign_behind_cons (quote last : Option Char) (c : Char) (rest : List Char) :
    SignBehind quote last (c :: rest) ↔
      quote = none ∧ startsSign last (c :: rest) = true ∨ SignBehind (track quote c) (some c) rest := by
  constructor
  · rintro ⟨before, after, shape, closed, starts⟩
    cases before with
    | nil =>
        rw [shape]
        exact Or.inl ⟨closed, starts⟩
    | cons first more =>
        obtain ⟨rfl, rfl⟩ := List.cons_eq_cons.mp shape
        refine Or.inr ⟨more, after, rfl, closed, ?_⟩
        cases more with
        | nil => exact starts
        | cons next later => simpa [List.getLast?_cons] using starts
  · rintro (⟨rfl, starts⟩ | ⟨before, after, rfl, closed, starts⟩)
    · exact ⟨[], c :: rest, rfl, rfl, starts⟩
    · refine ⟨c :: before, after, rfl, closed, ?_⟩
      cases before with
      | nil => exact starts
      | cons next later => simpa [List.getLast?_cons] using starts

theorem sign_behind_skipped (quote last : Option Char) (c : Char) (rest : List Char)
    (unsigned : quote = none → startsSign last (c :: rest) = false) :
    SignBehind quote last (c :: rest) ↔ SignBehind (track quote c) (some c) rest := by
  rw [sign_behind_cons, or_iff_right]
  rintro ⟨outside, starts⟩
  rw [unsigned outside] at starts
  cases starts

theorem sign_behind_changed (last : Option Char) (c : Char) (rest written : List Char) (solid : ' ' ≠ c)
    (starts : startsSign last (c :: rest) = true) :
    ' ' :: written = c :: rest ↔ ¬ SignBehind none last (c :: rest) := by
  refine iff_of_false (fun same => solid (List.cons_eq_cons.mp same).1) (not_not_intro ?_)
  exact (sign_behind_cons none last c rest).mpr (Or.inl ⟨rfl, starts⟩)

-- Outside quotation marks the character before is no exclamation mark, since one is taken with what follows it.
theorem respell_kept_iff (quote last : Option Char) (text : List Char) (marked : quote ≠ some '!')
    (apart : quote = none → last ≠ some '!') : respell quote text = text ↔ ¬ SignBehind quote last text := by
  fun_induction respell quote text generalizing last with
  | case1 quote => simp [sign_behind_nil]
  | case2 c rest mark ih =>
      have solid : mark ≠ '!' := fun same => marked (congrArg some same)
      rw [sign_behind_skipped (some mark) last c rest (fun outside => nomatch outside), List.cons_inj_right, track]
      by_cases closes : c = mark
      · simp only [closes, if_true] at ih ⊢
        exact ih (some mark) (by decide) fun _ => by simpa using solid
      · simp only [closes, if_false] at ih ⊢
        exact ih (some c) marked (fun outside => nomatch outside)
  | case3 c rest quotation ih =>
      have unmarked : c ≠ '!' := by
        rintro rfl
        exact absurd quotation (by decide)
      have opens : track none c = some c := if_pos quotation
      have unsigned : startsSign last (c :: rest) = false := by
        rcases Bool.or_eq_true_iff.mp quotation with same | same <;> simp [startsSign, eq_of_beq same]
      rw [sign_behind_skipped none last c rest (fun _ => unsigned), opens, List.cons_inj_right]
      exact ih (some c) (by simpa using unmarked) (fun outside => nomatch outside)
  | case4 tail => exact sign_behind_changed last '&' _ _ (by decide) rfl
  | case5 tail => exact sign_behind_changed last '|' _ _ (by decide) rfl
  | case6 tail => exact sign_behind_changed last '=' _ _ (by decide) (by simpa [startsSign] using apart)
  | case7 tail unquoted ih =>
      have second : startsSign (some '!') ('=' :: tail) = false := by simp [startsSign]
      rw [sign_behind_skipped none last '!' _ (fun _ => rfl), sign_behind_skipped _ _ _ _ (fun _ => second)]
      have next := ih (some '=') (by decide) (by decide)
      simpa [track, isQuotation] using next
  | case8 tail alone unquoted ih =>
      have starts : startsSign last ('!' :: tail) = true := by
        cases tail <;> simp_all [startsSign]
      exact sign_behind_changed last '!' _ _ (by decide) starts
  | case9 c rest ampersand pipe equal bangEqual bang unquoted ih =>
      have unsigned : startsSign last (c :: rest) = false := by
        rw [startsSign, if_neg bang]
        cases rest with
        | nil => exact Bool.and_false _
        | cons next tail =>
            by_cases same : next = c
            · have single : ∀ sign, (∀ more, c = sign → next :: tail = sign :: more → False) → c ≠ sign :=
                fun sign undoubled own => undoubled tail own (by rw [same, own])
              simp [single _ ampersand, single _ pipe, single _ equal]
            · simp [same]
      have closed : track none c = none := if_neg unquoted
      rw [sign_behind_skipped none last c rest (fun _ => unsigned), closed, List.cons_inj_right]
      exact ih (some c) (by decide) fun _ => by simpa using bang

def respelled (name : String) : String := String.ofList (respell none name.toList)

theorem respelled_kept_iff (name : String) : respelled name = name ↔ ¬ SignOutside name.toList := by
  rw [sign_outside_iff, ← respell_kept_iff none none name.toList (by decide) (by decide), respelled,
    ← String.toList_inj, String.toList_ofList]

theorem track_quotation (quote : Option Char) (c : Char) (known : ∀ mark ∈ quote, isQuotation mark = true) :
    ∀ mark ∈ track quote c, isQuotation mark = true := by
  cases quote with
  | none =>
      by_cases quotation : isQuotation c = true
      · simp [track, quotation]
      · simp [track, quotation]
  | some own =>
      have marked := known own rfl
      by_cases closes : c = own
      · simp [track, closes]
      · simp [track, closes, marked]

theorem open_quotation (quote : Option Char) (text : List Char) (known : ∀ mark ∈ quote, isQuotation mark = true) :
    ∀ mark ∈ text.foldl track quote, isQuotation mark = true := by
  induction text generalizing quote with
  | nil => exact known
  | cons c rest ih => exact ih _ (track_quotation quote c known)

theorem respell_unticked (quote : Option Char) (text : List Char) (absent : '`' ∉ text) : '`' ∉ respell quote text := by
  fun_induction respell quote text <;> simp_all

theorem undoubled_append (sign : Char) (rest after : List Char) (solid : sign ≠ '`')
    (undoubled : ∀ tail, rest = sign :: tail → False) (tail : List Char) : rest ++ '`' :: after ≠ sign :: tail := by
  intro same
  cases rest with
  | nil => exact solid (List.cons_eq_cons.mp same).1.symm
  | cons next more => exact undoubled more (by rw [(List.cons_eq_cons.mp same).1])

theorem respell_region (quote : Option Char) (name after : List Char) (absent : '`' ∉ name) (marked : quote ≠ some '`') :
    respell quote (name ++ '`' :: after) = respell quote name ++ '`' :: respell (name.foldl track quote) after := by
  fun_induction respell quote name with
  | case1 quote =>
      cases quote with
      | none => exact respell_plain '`' after (by decide)
      | some mark =>
          have other : '`' ≠ mark := fun same => marked (congrArg some same.symm)
          rw [List.nil_append, respell, if_neg other]
          rfl
  | case2 c rest mark ih =>
      have inner : (if c = mark then none else some mark) ≠ some '`' := by
        split
        · decide
        · exact marked
      have own := ih (fun member => absent (List.mem_cons_of_mem _ member)) inner
      rw [List.cons_append, respell, own]
      rfl
  | case3 c rest quotation ih =>
      have opens : track none c = some c := if_pos quotation
      have other : c ≠ '`' := fun same => absent (by rw [same]; exact List.mem_cons_self)
      have own := ih (fun member => absent (List.mem_cons_of_mem _ member)) (by simpa using other)
      rw [List.cons_append, respell_opened c _ quotation, own, List.foldl_cons, opens]
      rfl
  | case4 tail unquoted ih | case5 tail unquoted ih | case6 tail unquoted ih | case7 tail unquoted ih =>
      have own := ih (fun member => absent (by simp [member])) marked
      rw [List.cons_append, List.cons_append, respell, if_neg unquoted, own, List.append_assoc]
      rfl
  | case8 tail alone unquoted ih =>
      have own := ih (fun member => absent (by simp [member])) marked
      rw [List.cons_append, respell, if_neg unquoted, own, List.append_assoc]
      · rfl
      · exact undoubled_append '=' tail after (by decide) alone
  | case9 c rest ampersand pipe equal bangEqual bang unquoted ih =>
      have own := ih (fun member => absent (List.mem_cons_of_mem _ member)) marked
      have closed : track none c = none := if_neg unquoted
      rw [List.cons_append, respell, if_neg unquoted, own, List.foldl_cons, closed]
      · rfl
      · exact bang
      · exact fun tail same => undoubled_append '&' rest after (by decide) (fun more => ampersand more same) tail
      · exact fun tail same => undoubled_append '|' rest after (by decide) (fun more => pipe more same) tail
      · exact fun tail same => undoubled_append '=' rest after (by decide) (fun more => equal more same) tail
      · exact fun tail same => undoubled_append '=' rest after (by decide) (fun more => bangEqual more same) tail

theorem prepare_region (name after : List Char) (absent : '`' ∉ name) :
    prepare (backticked name ++ after) =
      backticked (respell none name) ++ quotePaths none (some '`') (respell (leftOpen name) after) := by
  have region := quote_paths_region '`' (by decide) (respell none name) (respell (leftOpen name) after) (some '`')
  rw [Lexeme.doubled_plain _ _ (respell_unticked none name absent)] at region
  rw [prepare, backticked, List.cons_append, List.append_assoc, List.singleton_append, respell_plain '`' _ (by decide),
    respell_region none name after absent (by decide), quotePaths, if_pos (by decide), ← leftOpen, region, backticked,
    List.cons_append, List.append_assoc, List.singleton_append]

theorem ends_prepared (quote last : Option Char) (after : List Char) (ends : Ends after) :
    Ends (quotePaths none last (respell quote after)) := by
  cases after with
  | nil =>
      rw [respell, quotePaths]
      exact ends
  | cons space more =>
      rw [ends space rfl]
      have front : ∃ rest, respell quote (' ' :: more) = ' ' :: rest := by
        cases quote with
        | none => exact ⟨_, respell_plain ' ' more (by decide)⟩
        | some mark => exact ⟨_, by rw [respell]⟩
      obtain ⟨rest, shape⟩ := front
      rw [shape, quote_paths_space]
      exact ends_space _

theorem respell_inside (mark : Char) (text : List Char) (absent : mark ∉ text) : respell (some mark) text = text := by
  induction text with
  | nil => rw [respell]
  | cons c rest ih =>
      have other : c ≠ mark := fun same => absent (by rw [same]; exact List.mem_cons_self)
      rw [respell, if_neg other, ih fun member => absent (List.mem_cons_of_mem _ member)]

theorem lexed_region (name after : List Char) (lexemes : List Lexeme) (absent : '`' ∉ name) (ends : Ends after)
    (behind : Lexeme.all? (quotePaths none (some '`') (respell (leftOpen name) after)) = some lexemes) :
    Lexeme.all? (prepare (backticked name ++ after)) =
      some (.word (String.ofList (respell none name)) .backticks :: lexemes) := by
  have spaced := ends_prepared (leftOpen name) (some '`') after ends
  have apart : ∀ c ∈ (quotePaths none (some '`') (respell (leftOpen name) after)).head?, c ≠ '`' := by
    intro c member
    rw [spaced c member]
    decide
  rw [prepare_region name after absent, Lexeme.all_backticked _ _ (respell_unticked none name absent) apart, behind]
  rfl

theorem name_operand (name : String) : Operand (.name name .backticks) [.word name .backticks] 1 :=
  Phrase.path_operand [name] (List.cons_ne_nil _ _)

theorem name_read (name : String) : ofPhrase (.name name .backticks) = .ok (property name) := by
  rw [ofPhrase]
  simp

theorem region_compared (name text : String) (after : List Char) (absent : '`' ∉ name.toList)
    (written : text.toList = backticked name.toList ++ after) (ends : Ends after) (sign : Lexeme) (operator : Operator)
    (limit : Nat) (binds : Infix sign operator limit) (phrase : Phrase) (value : Value) (lexemes : List Lexeme)
    (found : ofPhrase phrase = .ok (literal value)) (denoted : Operand phrase lexemes 1)
    (behind : Lexeme.all? (quotePaths none (some '`') (respell (leftOpen name.toList) after)) = some (sign :: lexemes)) :
    parse text = .ok (binary operator (property (respelled name)) (literal value)) := by
  have lexed := lexed_region name.toList after _ absent ends behind
  have whole := Phrase.binary_alone _ _ _ _ sign operator limit 1 1 binds (name_operand (respelled name)) denoted
  have read := whole Phrase.nestingLimit [] (by decide) fun next member => nomatch member
  rw [List.append_nil] at read
  refine parse_lexed text _ _ _ (by rw [written, lexed]; rfl) ?_ read
  rw [ofPhrase, name_read, found]
  rfl

theorem shown_lexed (name : List Char) (closed : leftOpen name = none) (tokens : List Token) (sound : Sound tokens) :
    Lexeme.all? (quotePaths none (some '`') (respell (leftOpen name) (spaced Token.characters tokens))) =
      some (tokens.flatMap Token.lexemes) := by
  rw [closed, respell_spaced tokens sound.1, quote_paths_spaced _ tokens sound.1 sound.2, all_spaced tokens sound.1]

def signAndNumber (sign : List Char) (value : Nat) : List Char := ' ' :: (sign ++ ' ' :: (toString value).toList)

theorem hidden_kept (mark : Char) (quotation : isQuotation mark = true) (sign : List Char)
    (signs : sign.all isSign = true) (value : Nat) :
    quotePaths none (some '`') (respell (some mark) (signAndNumber sign value)) = signAndNumber sign value := by
  have region : isRegionMark mark = true := by rw [isRegionMark, quotation, Bool.true_or]
  have nonempty := Text.number_nonempty value
  have digits := Text.digits_of_number value
  have absent : mark ∉ signAndNumber sign value := by
    simp only [signAndNumber, List.mem_cons, List.mem_append, not_or]
    refine ⟨?_, fun member => ?_, ?_, fun member => ?_⟩
    · rintro rfl
      exact absurd quotation (by decide)
    · have own := List.all_eq_true.mp signs mark member
      simp [isSign, region] at own
    · rintro rfl
      exact absurd quotation (by decide)
    · rw [digit_unmarked mark (digits mark member)] at region
      cases region
  rw [respell_inside mark _ absent, signAndNumber, quote_paths_space, quote_paths_signs _ sign _ signs (ends_space _),
    quote_paths_space, quote_paths_digits _ _ nonempty digits]

theorem hidden_lexed (name : List Char) (mark : Char) (left : leftOpen name = some mark) (sign : List Char)
    (signs : sign.all isSign = true) (lexeme : Lexeme)
    (taken : ∀ rest, Ends rest → Lexeme.all? (sign ++ rest) = (Lexeme.all? rest).map (lexeme :: ·)) (value : Nat) :
    Lexeme.all? (quotePaths none (some '`') (respell (leftOpen name) (signAndNumber sign value))) =
      some [lexeme, .number (toString value).toList] := by
  have quotation : isQuotation mark = true := open_quotation none name (fun _ none => nomatch none) mark left
  have digits := lexed_digits (toString value).toList (Text.number_nonempty value) (Text.digits_of_number value)
  rw [left, hidden_kept mark quotation sign signs value, signAndNumber, Lexeme.all_blank ' ' _ rfl, taken _ (ends_space _),
    Lexeme.all_blank ' ' _ rfl, digits]
  rfl

theorem equals_lexed (name : List Char) (value : Nat) :
    Lexeme.all? (quotePaths none (some '`') (respell (leftOpen name) (signAndNumber ['=', '='] value))) =
      some [.mark .eq, .number (toString value).toList] := by
  cases left : leftOpen name with
  | none =>
      have single := sound_single (.number value) rfl
      have sound := sound_join [] _ (.glyph .equals) sound_nil single rfl rfl (by decide)
      have lexed := shown_lexed name left _ sound
      simpa [spaced, signAndNumber, Token.characters, Glyph.characters, left, Token.lexemes, Glyph.lexeme] using lexed
  | some mark =>
      have taken : ∀ rest, Ends rest → Lexeme.all? (['=', '='] ++ rest) = (Lexeme.all? rest).map (.mark .eq :: ·) :=
        fun rest ends => Lexeme.all_mark '=' ['='] rest .eq ends ⟨rfl, rfl⟩ fun more => ⟨rfl, rfl⟩
      rw [← left]
      exact hidden_lexed name mark left _ (by decide) _ taken value

-- The sign of equality is read either way, so what the name leaves open makes no difference in front of it.
theorem backticked_read (name : String) (absent : '`' ∉ name.toList) :
    parse ("`" ++ name ++ "`") = .ok (property (respelled name)) ∧
      parse ("`" ++ name ++ "` == 1") = .ok (binary .eq (property (respelled name)) (literal (.integer 1))) ∧
      (respelled name = name ↔ ¬ SignOutside name.toList) := by
  refine ⟨?_, ?_, respelled_kept_iff name⟩
  · have written : ("`" ++ name ++ "`").toList = backticked name.toList ++ [] := by simp [backticked]
    have nothing : Lexeme.all? (quotePaths none (some '`') (respell (leftOpen name.toList) [])) = some [] := by
      rw [respell, quotePaths, Lexeme.all_nil]
    have lexed := lexed_region name.toList [] _ absent (fun c member => by cases member) nothing
    have alone := Phrase.operand_alone _ _ _ (name_operand (respelled name))
    have read := alone Phrase.nestingLimit [] (by decide) fun next member => by cases member
    exact parse_lexed _ _ _ _ (by rw [written, lexed]; rfl) (name_read _) read
  · have tail : signAndNumber ['=', '='] 1 = " == 1".toList := by decide
    have written : ("`" ++ name ++ "` == 1").toList = backticked name.toList ++ signAndNumber ['=', '='] 1 := by
      simp [backticked, tail]
    have equality := Phrase.infix_mark .eq .eq _ rfl (by decide) (by decide)
    have one : ofPhrase (.number (toString 1).toList) = .ok (literal (.integer 1)) := by
      rw [ofPhrase, number_literal 1 (by decide)]
      rfl
    exact region_compared name _ _ absent written (ends_space _) _ _ _ equality _ _ _ one (number_operand _)
      (equals_lexed name.toList 1)

theorem ampersands_respelled :
    '`' ∉ "a&&b".toList ∧ parse "`a&&b`" = .ok (property "a AND b") ∧
      parse "`a&&b` == 1" = .ok (binary .eq (property "a AND b") (literal (.integer 1))) ∧ SignOutside "a&&b".toList := by
  have absent : '`' ∉ "a&&b".toList := by decide
  have name : respelled "a&&b" = "a AND b" := by decide
  obtain ⟨alone, compared, kept⟩ := backticked_read "a&&b" absent
  rw [name] at alone compared kept
  exact ⟨absent, alone, compared, not_not.mp fun outside => absurd (kept.mpr outside) (by decide)⟩

theorem parse_left_over (text : String) (lexemes more : List Lexeme) (next : Lexeme) (phrase : Phrase)
    (lexed : Lexeme.all? (prepare text.toList) = some lexemes)
    (read : Phrase.read Phrase.nestingLimit 0 lexemes = some (phrase, next :: more)) :
    parse text = .error (.malformedExpression text) := by
  rw [parse]
  simp only [solid_of_read _ _ _ lexed read, Bool.false_eq_true, if_false, lexed, Option.bind_some, Phrase.all?, read]

theorem stray_taken (sign : Glyph) (joins : sign = .ampersands ∨ sign = .pipes) (rest : List Char) (ends : Ends rest) :
    Lexeme.all? (sign.characters ++ rest) = (Lexeme.all? rest).map (.mark .stray :: ·) := by
  rcases joins with rfl | rfl
  · exact Lexeme.all_mark '&' ['&'] rest .stray ends ⟨rfl, rfl⟩ fun more => ⟨rfl, rfl⟩
  · exact Lexeme.all_mark '|' ['|'] rest .stray ends ⟨rfl, rfl⟩ fun more => ⟨rfl, rfl⟩

theorem stray_left_over (name : String) (more : List Lexeme) :
    Phrase.read Phrase.nestingLimit 0 (.word name .backticks :: .mark .stray :: more) =
      some (.name name .backticks, .mark .stray :: more) := by
  have loose : Phrase.Loose (.mark .stray :: more) := fun next member => by cases member; decide
  have read := name_operand name Phrase.nestingLimit 0 (.mark .stray :: more) (by decide) loose
  have weak : Phrase.rank (.mark .stray :: more) ≤ 0 := Nat.le_refl 0
  rw [Phrase.climb, if_pos weak] at read
  exact read

-- Every operator is recognised behind a name that leaves no mark open; behind any other `&&` and `||` are not.
theorem operators_behind_name (name : String) (absent : '`' ∉ name.toList) :
    (leftOpen name.toList = none → ∀ (sign value : Token) (operator : Operator) (denoted : Value),
      sign.operator? = some operator → value.value? = some denoted →
        parse ("`" ++ name ++ "` " ++ source [sign, value]) =
          .ok (binary operator (property (respelled name)) (literal denoted))) ∧
      (leftOpen name.toList ≠ none → ∀ (sign : Glyph) (value : Nat), sign = .ampersands ∨ sign = .pipes →
        let text := "`" ++ name ++ "` " ++ source [.glyph sign, .number value]
        parse text = .error (.malformedExpression text)) := by
  have written : ∀ tokens, tokens ≠ [] →
      ("`" ++ name ++ "` " ++ source tokens).toList = backticked name.toList ++ spaced Token.characters tokens := by
    intro tokens nonempty
    rw [← source_spaced tokens nonempty]
    simp [backticked]
  constructor
  · intro closed sign value operator denoted spelled known
    obtain ⟨proper, unnamed, unopened⟩ := operator_token sign operator spelled
    have single := sound_single value (value_token value denoted known)
    have lexed := shown_lexed name.toList closed _ (sound_join [] _ sign sound_nil single proper unnamed unopened)
    obtain ⟨lexeme, limit, shape, binds⟩ := Phrase.operator_lexeme sign operator spelled
    obtain ⟨phrase, found, operand⟩ := literal_read value denoted known
    have tokens : [sign, value].flatMap Token.lexemes = lexeme :: value.lexemes := by simp [shape]
    exact region_compared name _ _ absent (written _ (by simp)) (spaced_ends _ _) lexeme _ _ binds phrase _ _ found operand
      (lexed.trans (congrArg some tokens))
  · intro unclosed sign value joins
    obtain ⟨mark, left⟩ := Option.ne_none_iff_exists'.mp unclosed
    have tokens : spaced Token.characters [.glyph sign, .number value] = signAndNumber sign.characters value := by
      simp [spaced, signAndNumber, Token.characters]
    have signs : sign.characters.all isSign = true := by
      rcases joins with rfl | rfl <;> decide
    have behind := hidden_lexed name.toList mark left sign.characters signs _ (stray_taken sign joins) value
    have lexed := lexed_region name.toList (signAndNumber sign.characters value) _ absent (ends_space _) behind
    have read := stray_left_over (respelled name) [.number (toString value).toList]
    exact parse_left_over _ _ _ _ _ (by rw [written _ (by simp), tokens, lexed]; rfl) read

end StatementMapper.Expr
