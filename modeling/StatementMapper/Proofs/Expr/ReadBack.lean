import StatementMapper.Proofs.Expr.Lexing
import StatementMapper.Proofs.Expr.Reading

set_option autoImplicit false

/-! Every writing of an expression is parsed as it, as long as it nests no deeper than phrases may. -/

namespace StatementMapper.Expr

open Phrase (Operand Alone Listed pathPhrase)

theorem number_literal (value : Nat) (small : value < Word.signedBound) :
    numberLiteral (toString value).toList = .ok (literal (.integer (Int64.ofNat value))) := by
  rw [numberLiteral, Text.bounded_number, if_pos small]

theorem literal_read (token : Token) (value : Value) (found : token.value? = some value) :
    ∃ phrase, ofPhrase phrase = .ok (literal value) ∧ Operand phrase token.lexemes 1 := by
  cases token with
  | text content =>
      cases found
      exact ⟨.text content, by simp [ofPhrase], Phrase.single_operand _ _ fun sub rest loose => by simp [Phrase.operand]⟩
  | number n =>
      simp only [Token.value?] at found
      by_cases small : n < Word.signedBound
      · rw [if_pos small] at found
        cases found
        refine ⟨.number (toString n).toList, ?_, Phrase.single_operand _ _ fun sub rest loose => by simp [Phrase.operand]⟩
        rw [ofPhrase, number_literal n small]
      · rw [if_neg small] at found
        cases found
  | word letters =>
      rw [Token.value?] at found
      · cases keyword : (Token.word letters).keyword? with
        | none => simp [keyword] at found
        | some word =>
            have read : Lexeme.keyword? (.word letters .bare) = some word := keyword
            cases word with
            | null =>
                simp only [keyword, Option.some.injEq] at found
                refine ⟨.null, by rw [← found, ofPhrase], Phrase.single_operand _ _ fun sub rest loose => ?_⟩
                simp [Phrase.operand, read]
            | true =>
                simp only [keyword, Option.some.injEq] at found
                refine ⟨.boolean true, by rw [← found, ofPhrase], Phrase.single_operand _ _ fun sub rest loose => ?_⟩
                simp [Phrase.operand, read]
            | false =>
                simp only [keyword, Option.some.injEq] at found
                refine ⟨.boolean false, by rw [← found, ofPhrase], Phrase.single_operand _ _ fun sub rest loose => ?_⟩
                simp [Phrase.operand, read]
            | _ => simp [keyword] at found
      all_goals simp
  | glyph sign => cases sign <;> cases found
  | _ => cases found

theorem names_characters (names : List String) : (dotted names).toList = ['.'].intercalate (names.map String.toList) :=
  String.toList_intercalate

theorem names_dotted (path : String) : dotted (names path) = path := by
  apply String.toList_inj.mp
  rw [names_characters, names, List.map_map, ← path_characters path]
  simp [Function.comp_def]

theorem names_nonempty (path : String) : names path ≠ [] := by
  simpa [names] using segments_nonempty path

theorem property_read (path : String) : ofPhrase (pathPhrase (names path)) = .ok (property path) := by
  have whole := names_dotted path
  cases names : names path with
  | nil => exact absurd names (names_nonempty path)
  | cons name more =>
      rw [names] at whole
      cases more with
      | nil =>
          rw [pathPhrase, ofPhrase, ← whole]
          · simp [dotted]
          · simp
      | cons next later =>
          rw [pathPhrase, ofPhrase, whole]
          simp

theorem dotted_append (names : List String) (name : String) (nonempty : names ≠ []) :
    (dotted (names ++ [name])).toList = (dotted names).toList ++ '.' :: name.toList := by
  induction names with
  | nil => exact absurd rfl nonempty
  | cons first more ih =>
      rw [names_characters, names_characters] at *
      cases more with
      | nil => simp [List.intercalate_cons_cons]
      | cons next later =>
          have following := ih (List.cons_ne_nil _ _)
          simp only [List.cons_append, List.map_cons, List.intercalate_cons_cons] at following ⊢
          rw [following]
          simp

theorem split_last (target method : List Char) (undotted : '.' ∉ method) :
    splitLast? (target ++ '.' :: method) = some (target, method) := by
  have shape : (target ++ '.' :: method).reverse = method.reverse ++ '.' :: target.reverse := by simp
  have inside : ∀ c ∈ method.reverse, (c != '.') = true := by
    intro c member
    simp only [bne_iff_ne]
    rintro rfl
    exact undotted (List.mem_reverse.mp member)
  have stop : ∀ c ∈ ('.' :: target.reverse).head?, (c != '.') = false := fun c member => by cases member; rfl
  rw [splitLast?, if_pos (by simp), shape, Text.take_run _ _ _ inside stop, Text.drop_run _ _ _ inside stop]
  simp

theorem call_read (target name : String) (method : Method) (found : Method.ofName? name = some method) :
    ofPhrase (.call (names target ++ [name]) false) = .ok (call target method) := by
  have undotted : '.' ∉ name.toList := by
    intro member
    exact absurd (identifier_parts _ (method_identifier name method found) '.' member) (by decide)
  rw [ofPhrase, ofCall, if_neg (by decide), dotted_append _ _ (names_nonempty target), names_dotted, split_last _ _ undotted]
  simp [found]

theorem spelled_lexemes (keywords : List Keyword) (words : List Token) (spelled : Spelled keywords words) :
    (∀ lexeme ∈ words.flatMap Token.lexemes, ∃ word, lexeme = .word word .bare) ∧
      (words.flatMap Token.lexemes).map Lexeme.keyword? = keywords.map some := by
  induction words generalizing keywords with
  | nil => exact ⟨fun lexeme member => (nomatch member), spelled⟩
  | cons token more ih =>
      cases keywords with
      | nil => exact nomatch spelled
      | cons keyword others =>
          simp only [Spelled, List.map_cons, List.cons.injEq] at spelled
          obtain ⟨word, single, found⟩ := Phrase.keyword_lexeme token keyword spelled.1
          obtain ⟨bare, later⟩ := ih others spelled.2
          rw [List.flatMap_cons, single]
          refine ⟨fun lexeme member => ?_, by simp [found, later]⟩
          cases member with
          | head => exact ⟨word, rfl⟩
          | tail _ inside => exact bare lexeme inside

-- What makes an expression readable where a whole phrase stands, and without parentheses as an operand.
def Readable (e : Expr) (tokens : List Token) : Prop :=
  ∃ phrase, ofPhrase phrase = .ok e ∧ Alone phrase (tokens.flatMap Token.lexemes) (nesting e) ∧
    (e.isCompound = false → Operand phrase (tokens.flatMap Token.lexemes) (nesting e))

theorem readable_operand (e : Expr) (tokens : List Token) (phrase : Phrase) (found : ofPhrase phrase = .ok e)
    (operand : Operand phrase (tokens.flatMap Token.lexemes) (nesting e)) : Readable e tokens :=
  ⟨phrase, found, Phrase.operand_alone _ _ _ operand, fun _ => operand⟩

theorem readable_compound (e : Expr) (tokens : List Token) (phrase : Phrase) (found : ofPhrase phrase = .ok e)
    (compound : e.isCompound = true) (alone : Alone phrase (tokens.flatMap Token.lexemes) (nesting e)) : Readable e tokens :=
  ⟨phrase, found, alone, fun simple => by rw [compound] at simple; exact nomatch simple⟩

theorem wrapped_operand (e : Expr) (tokens : List Token) (readable : ∀ inner, Written e inner → Readable e inner)
    (wrapped : Wrapped e.isCompound (Written e) tokens) :
    ∃ phrase, ofPhrase phrase = .ok e ∧
      Operand phrase (tokens.flatMap Token.lexemes) (wrappedNesting e.isCompound (nesting e)) := by
  rw [Wrapped] at wrapped
  cases compound : e.isCompound with
  | false =>
      rw [compound] at wrapped
      obtain ⟨phrase, found, _, operand⟩ := readable tokens wrapped
      exact ⟨phrase, found, operand compound⟩
  | true =>
      rw [compound] at wrapped
      obtain ⟨inner, written, rfl⟩ := wrapped
      obtain ⟨phrase, found, alone, _⟩ := readable inner written
      refine ⟨.group phrase, by rw [ofPhrase, found], ?_⟩
      have operand := Phrase.group_operand phrase _ _ alone
      simpa [wrappedNesting, Token.lexemes, Glyph.lexeme] using operand

theorem alone_deeper (phrase : Phrase) (lexemes : List Lexeme) (nesting deeper : Nat) (below : nesting ≤ deeper)
    (alone : Alone phrase lexemes nesting) : Alone phrase lexemes deeper :=
  fun depth rest deep stops => alone depth rest (Nat.le_trans below deep) stops

theorem item_alone (e : Expr) (tokens : List Token) (readable : ∀ inner, Written e inner → Readable e inner)
    (item : Written e tokens ∨ Wrapped e.isCompound (Written e) tokens) :
    ∃ phrase, ofPhrase phrase = .ok e ∧
      Alone phrase (tokens.flatMap Token.lexemes) (wrappedNesting e.isCompound (nesting e)) := by
  cases item with
  | inl written =>
      obtain ⟨phrase, found, alone, _⟩ := readable tokens written
      refine ⟨phrase, found, alone_deeper _ _ _ _ ?_ alone⟩
      unfold wrappedNesting
      split <;> omega
  | inr wrapped =>
      obtain ⟨phrase, found, operand⟩ := wrapped_operand e tokens readable wrapped
      exact ⟨phrase, found, Phrase.operand_alone _ _ _ operand⟩

mutual
theorem written_readable (e : Expr) (tokens : List Token) (written : Written e tokens) : Readable e tokens := by
  cases e with
  | literal value =>
      obtain ⟨token, found, rfl⟩ := written
      obtain ⟨phrase, read, operand⟩ := literal_read token value found
      exact readable_operand _ _ phrase read (by simpa [nesting] using operand)
  | property path =>
      cases written
      have operand := Phrase.path_operand (names path) (names_nonempty path)
      exact readable_operand _ _ _ (property_read path) (by simpa [nesting, Token.lexemes, names] using operand)
  | call target method =>
      obtain ⟨name, found, rfl⟩ := written
      have operand := Phrase.call_operand (names target) (names_nonempty target) name method found
      exact readable_operand _ _ _ (call_read target name method found)
        (by simpa [nesting, Token.lexemes, names] using operand)
  | binary operator left right =>
      obtain ⟨before, sign, behind, first, found, second, rfl⟩ := written
      obtain ⟨leftPhrase, leftFound, leftRead⟩ := wrapped_operand left before (written_readable left) first
      obtain ⟨rightPhrase, rightFound, rightRead⟩ := wrapped_operand right behind (written_readable right) second
      obtain ⟨lexeme, limit, single, infixed⟩ := Phrase.operator_lexeme sign operator found
      have alone := Phrase.binary_alone _ _ _ _ lexeme operator limit _ _ infixed leftRead rightRead
      refine readable_compound _ _ (.binary (some operator) leftPhrase rightPhrase) ?_ rfl ?_
      · simp [ofPhrase, leftFound, rightFound, bind, Except.bind]
      · simpa [nesting, single] using alone
  | not operand =>
      obtain ⟨sign, inner, found, wrapped, rfl⟩ := written
      obtain ⟨phrase, read, operandRead⟩ := wrapped_operand operand inner (written_readable operand) wrapped
      obtain ⟨word, single, keyword⟩ := Phrase.keyword_lexeme sign .not found
      have alone := Phrase.not_alone phrase word _ _ keyword operandRead
      refine readable_compound _ _ (.signed .not phrase) ?_ rfl ?_
      · simp [ofPhrase, read, bind, Except.bind]
      · simpa [nesting, single] using alone
  | negate operand =>
      obtain ⟨inner, wrapped, rfl⟩ := written
      obtain ⟨phrase, read, operandRead⟩ := wrapped_operand operand inner (written_readable operand) wrapped
      have alone := Phrase.minus_alone phrase _ _ operandRead
      refine readable_compound _ _ (.signed .minus phrase) ?_ rfl ?_
      · simp [ofPhrase, read, bind, Except.bind]
      · simpa [nesting, Token.lexemes, Glyph.lexeme] using alone
  | isNull operand negated =>
      obtain ⟨inner, words, wrapped, spelled, rfl⟩ := written
      obtain ⟨phrase, read, operandRead⟩ := wrapped_operand operand inner (written_readable operand) wrapped
      obtain ⟨bare, keywords⟩ := spelled_lexemes _ words spelled
      have alone := Phrase.null_check_alone phrase _ _ negated _ operandRead bare keywords
      refine readable_compound _ _ (.nullCheck phrase negated) ?_ rfl ?_
      · simp [ofPhrase, read, bind, Except.bind]
      · simpa [nesting] using alone
  | isIn needle candidates negated =>
      obtain ⟨inner, words, items, wrapped, spelled, listed, rfl⟩ := written
      obtain ⟨phrase, read, operandRead⟩ := wrapped_operand needle inner (written_readable needle) wrapped
      obtain ⟨bare, keywords⟩ := spelled_lexemes _ words spelled
      obtain ⟨phrases, found, readItems⟩ := all_written_listed candidates items listed
      have alone := Phrase.membership_alone phrase phrases _ _ _ negated _ _ operandRead bare keywords readItems
      refine readable_compound _ _ (.membership phrase phrases negated) ?_ rfl ?_
      · simp [ofPhrase, read, found, bind, Except.bind]
      · simpa [nesting, Token.lexemes, Glyph.lexeme] using alone
theorem all_written_listed (es : List Expr) (tokens : List Token) (written : AllWritten es tokens) :
    ∃ phrases, ofPhrases phrases = .ok es ∧ Listed phrases (tokens.flatMap Token.lexemes) (allNesting es) := by
  match es with
  | [] => exact written.elim
  | [last] =>
      obtain ⟨phrase, found, alone⟩ := item_alone last tokens (written_readable last) written
      refine ⟨[phrase], ?_, ?_⟩
      · simp [ofPhrases, found, bind, Except.bind]
      · simpa [allNesting] using Phrase.listed_single phrase _ _ alone
  | first :: next :: rest =>
      obtain ⟨item, more, own, others, rfl⟩ := written
      obtain ⟨phrase, found, alone⟩ := item_alone first item (written_readable first) own
      obtain ⟨phrases, later, listed⟩ := all_written_listed (next :: rest) more others
      refine ⟨phrase :: phrases, ?_, ?_⟩
      · rw [ofPhrases]
        simp [found, later, bind, Except.bind]
      · rw [allNesting]
        simpa [Token.lexemes, Glyph.lexeme] using Phrase.listed_cons phrase phrases _ _ _ _ alone listed
end

-- Tokens that keep apart when they are spelled for reading and cut.
def Sound (tokens : List Token) : Prop :=
  (∀ token ∈ tokens, token.isProper = true) ∧ tokens.IsChain Token.Apart

theorem sound_nil : Sound [] := ⟨fun _ member => (nomatch member), .nil⟩

theorem sound_single (token : Token) (proper : token.isProper = true) : Sound [token] :=
  ⟨fun other member => by rw [List.mem_singleton.mp member]; exact proper, List.isChain_singleton token⟩

theorem sound_join (left right : List Token) (token : Token) (first : Sound left) (second : Sound right)
    (proper : token.isProper = true) (unnamed : token.isPathToken = false) (unopened : token ≠ .glyph .opening) :
    Sound (left ++ token :: right) := by
  refine ⟨fun other member => ?_, ?_⟩
  · rcases List.mem_append.mp member with inside | inside
    · exact first.1 other inside
    · cases inside with
      | head => exact proper
      | tail _ later => exact second.1 other later
  · rw [List.isChain_append]
    refine ⟨first.2, ?_, ?_⟩
    · rw [List.isChain_cons]
      exact ⟨fun next _ path => absurd path (by rw [unnamed]; decide), second.2⟩
    · intro last _ next member _
      cases member
      exact unopened

theorem sound_opened (tokens : List Token) (sound : Sound tokens) : Sound (.glyph .opening :: tokens) := by
  refine ⟨fun other member => ?_, ?_⟩
  · cases member with
    | head => rfl
    | tail _ later => exact sound.1 other later
  · rw [List.isChain_cons]
    exact ⟨fun next _ path => (nomatch path), sound.2⟩

theorem keyword_token (token : Token) (keyword : Keyword) (found : token.keyword? = some keyword) :
    token.isProper = true ∧ token.isPathToken = false ∧ token ≠ .glyph .opening := by
  cases token with
  | word letters => exact ⟨by rw [Token.isProper, show Keyword.ofWord? _ = _ from found]; rfl, rfl, by simp⟩
  | glyph sign => exact ⟨rfl, rfl, fun same => by cases same; exact nomatch found⟩
  | _ => exact nomatch found

theorem operator_token (token : Token) (operator : Operator) (found : token.operator? = some operator) :
    token.isProper = true ∧ token.isPathToken = false ∧ token ≠ .glyph .opening := by
  cases token with
  | word letters =>
      cases keyword : (Token.word letters).keyword? with
      | none => simp [Token.operator?, keyword] at found
      | some word => exact keyword_token _ word keyword
  | glyph sign => exact ⟨rfl, rfl, fun same => by cases same; cases found⟩
  | _ => cases found

theorem value_token (token : Token) (value : Value) (found : token.value? = some value) : token.isProper = true := by
  cases token with
  | word letters =>
      cases keyword : (Token.word letters).keyword? with
      | none => simp [Token.value?, keyword] at found
      | some word => exact (keyword_token _ word keyword).1
  | path name => cases found
  | call target method => cases found
  | _ => rfl

theorem sound_spelled (words after : List Token) (keywords : List Keyword) (sound : Sound after)
    (spelled : Spelled keywords words) : Sound (words ++ after) := by
  induction words generalizing keywords with
  | nil => exact sound
  | cons token more ih =>
      cases keywords with
      | nil => exact nomatch spelled
      | cons keyword others =>
          simp only [Spelled, List.map_cons, List.cons.injEq] at spelled
          obtain ⟨proper, unnamed, unopened⟩ := keyword_token token keyword spelled.1
          exact sound_join [] (more ++ after) token sound_nil (ih others spelled.2) proper unnamed unopened

theorem sound_followed (before words after : List Token) (keyword : Keyword) (keywords : List Keyword)
    (first : Sound before) (second : Sound after) (spelled : Spelled (keyword :: keywords) words) :
    Sound (before ++ (words ++ after)) := by
  cases words with
  | nil => exact nomatch spelled
  | cons token more =>
      simp only [Spelled, List.map_cons, List.cons.injEq] at spelled
      obtain ⟨proper, unnamed, unopened⟩ := keyword_token token keyword spelled.1
      exact sound_join before (more ++ after) token first (sound_spelled more after keywords second spelled.2) proper
        unnamed unopened

theorem wrapped_sound (e : Expr) (tokens : List Token) (sound : ∀ inner, Written e inner → Sound inner)
    (wrapped : Wrapped e.isCompound (Written e) tokens) : Sound tokens := by
  rw [Wrapped] at wrapped
  split at wrapped
  · obtain ⟨inner, written, rfl⟩ := wrapped
    have closed := sound_join inner [] (.glyph .closing) (sound inner written) sound_nil rfl rfl (by decide)
    exact sound_opened _ closed
  · exact sound tokens wrapped

theorem item_sound (e : Expr) (tokens : List Token) (sound : ∀ inner, Written e inner → Sound inner)
    (item : Written e tokens ∨ Wrapped e.isCompound (Written e) tokens) : Sound tokens :=
  item.elim (sound tokens) (wrapped_sound e tokens sound)

mutual
theorem written_sound (e : Expr) (writable : Writable e) (tokens : List Token) (written : Written e tokens) :
    Sound tokens := by
  cases e with
  | literal value =>
      obtain ⟨token, found, rfl⟩ := written
      exact sound_single token (value_token token value found)
  | property path =>
      cases written
      exact sound_single _ writable
  | call target method =>
      obtain ⟨name, found, rfl⟩ := written
      have accepted : isPath target = true := writable
      exact sound_single _ (by rw [Token.isProper, accepted, found]; rfl)
  | binary operator left right =>
      obtain ⟨before, sign, behind, first, found, second, rfl⟩ := written
      have leftSound := wrapped_sound left before (written_sound left writable.1) first
      have rightSound := wrapped_sound right behind (written_sound right writable.2) second
      obtain ⟨proper, unnamed, unopened⟩ := operator_token sign operator found
      exact sound_join before behind sign leftSound rightSound proper unnamed unopened
  | not operand =>
      obtain ⟨sign, inner, found, wrapped, rfl⟩ := written
      have sound := wrapped_sound operand inner (written_sound operand writable) wrapped
      obtain ⟨proper, unnamed, unopened⟩ := keyword_token sign .not found
      exact sound_join [] inner sign sound_nil sound proper unnamed unopened
  | negate operand =>
      obtain ⟨inner, wrapped, rfl⟩ := written
      have sound := wrapped_sound operand inner (written_sound operand writable) wrapped
      exact sound_join [] inner (.glyph .minus) sound_nil sound rfl rfl (by decide)
  | isNull operand negated =>
      obtain ⟨inner, words, wrapped, spelled, rfl⟩ := written
      have sound := wrapped_sound operand inner (written_sound operand writable) wrapped
      rw [← List.append_nil words]
      cases negated with
      | false => exact sound_followed inner words [] _ _ sound sound_nil spelled
      | true => exact sound_followed inner words [] _ _ sound sound_nil spelled
  | isIn needle candidates negated =>
      obtain ⟨inner, words, items, wrapped, spelled, listed, rfl⟩ := written
      have sound := wrapped_sound needle inner (written_sound needle writable.1) wrapped
      have itemsSound := all_written_sound candidates writable.2.2 items listed
      have closed := sound_join items [] (.glyph .closing) itemsSound sound_nil rfl rfl (by decide)
      cases negated with
      | false => exact sound_followed inner words _ _ _ sound (sound_opened _ closed) spelled
      | true => exact sound_followed inner words _ _ _ sound (sound_opened _ closed) spelled
theorem all_written_sound (es : List Expr) (writable : AllWritable es) (tokens : List Token)
    (written : AllWritten es tokens) : Sound tokens := by
  match es with
  | [] => exact written.elim
  | [last] => exact item_sound last tokens (written_sound last writable.1) written
  | first :: next :: rest =>
      obtain ⟨item, more, own, others, rfl⟩ := written
      have front := item_sound first item (written_sound first writable.1) own
      have back := all_written_sound (next :: rest) writable.2 more others
      exact sound_join item more _ front back rfl rfl (by decide)
end

theorem prepare_space (rest : List Char) : prepare (' ' :: rest) = ' ' :: prepare rest := by
  rw [prepare, respell_plain ' ' rest (by decide), quote_paths_space,
    quote_paths_undotted (some ' ') none _ (by decide) (by decide)]
  rfl

theorem source_spaced (tokens : List Token) (nonempty : tokens ≠ []) :
    ' ' :: (source tokens).toList = spaced Token.characters tokens := by
  rw [source, String.toList_ofList]
  induction tokens with
  | nil => exact absurd rfl nonempty
  | cons token more ih =>
      cases more with
      | nil => simp [spaced]
      | cons next later =>
          have following := ih (List.cons_ne_nil _ _)
          rw [spaced_cons, ← following, List.map_cons, List.map_cons, List.intercalate_cons_cons, List.append_assoc]
          simp

theorem all_of_blank (text : List Char) (blank : Text.allBlank text = true) : Lexeme.all? text = some [] := by
  induction text with
  | nil => exact Lexeme.all_nil
  | cons c rest ih =>
      obtain ⟨own, others⟩ := Bool.and_eq_true_iff.mp blank
      rw [Lexeme.all_blank c rest own, ih others]

theorem read_nothing : Phrase.read Phrase.nestingLimit 0 [] = none := by
  rw [Phrase.nestingLimit, Phrase.read]
  rfl

theorem solid_of_read (text : List Char) (lexemes : List Lexeme) (reading : Phrase × List Lexeme)
    (lexed : Lexeme.all? text = some lexemes) (read : Phrase.read Phrase.nestingLimit 0 lexemes = some reading) :
    Text.allBlank text = false := by
  cases blank : Text.allBlank text with
  | false => rfl
  | true =>
      rw [all_of_blank _ blank, Option.some.injEq] at lexed
      rw [← lexed, read_nothing] at read
      cases read

theorem parse_lexed (text : String) (lexemes : List Lexeme) (e : Expr) (phrase : Phrase)
    (lexed : Lexeme.all? (prepare text.toList) = some lexemes) (found : ofPhrase phrase = .ok e)
    (read : Phrase.read Phrase.nestingLimit 0 lexemes = some (phrase, [])) : parse text = .ok e := by
  rw [parse]
  simp only [solid_of_read _ _ _ lexed read, Bool.false_eq_true, if_false, lexed, Option.bind_some, Phrase.all?, read, found]
  rfl

theorem parse_source (tokens : List Token) (sound : Sound tokens) (e : Expr) (phrase : Phrase)
    (found : ofPhrase phrase = .ok e)
    (read : Phrase.read Phrase.nestingLimit 0 (tokens.flatMap Token.lexemes) = some (phrase, [])) :
    parse (source tokens) = .ok e := by
  have nonempty : tokens ≠ [] := by
    rintro rfl
    rw [List.flatMap_nil, read_nothing] at read
    cases read
  have lexed : Lexeme.all? (prepare (source tokens).toList) = some (tokens.flatMap Token.lexemes) := by
    have whole := all_spaced tokens sound.1
    rwa [← prepare_spaced tokens sound.1 sound.2, ← source_spaced tokens nonempty, prepare_space,
      Lexeme.all_blank ' ' _ rfl] at whole
  exact parse_lexed _ _ e phrase lexed found read

theorem parse_written (e : Expr) (writable : Writable e) (shallow : nesting e ≤ Phrase.nestingLimit) (tokens : List Token)
    (written : Written e tokens) : parse (source tokens) = .ok e := by
  obtain ⟨phrase, found, alone, _⟩ := written_readable e tokens written
  have read := alone Phrase.nestingLimit [] shallow fun next member => (nomatch member)
  rw [List.append_nil] at read
  exact parse_source tokens (written_sound e writable tokens written) e phrase found read

theorem writings_read_back (e : Expr) (writable : Writable e) (shallow : nesting e ≤ Phrase.nestingLimit) :
    (∃ tokens, Written e tokens) ∧ ∀ tokens, Written e tokens → parse (source tokens) = .ok e :=
  ⟨writing_exists e writable, parse_written e writable shallow⟩

-- Signs and quotation marks in a text, words of the grammar in a path, and every sign in a changed spelling.
def excluded : Expr :=
  isIn (property "a.null.b") [literal (.text "it's || && \"x\""), negate (literal (.integer 7)), not (property "_user")] true

def checked : Expr := isNull (call "null.interval" .isEmpty) true

def excludedTokens : List Token :=
  [.path "a.null.b", .word "NoT", .word "in", .glyph .opening, .text "it's || && \"x\"", .glyph .comma, .glyph .minus,
    .number 7, .glyph .comma, .glyph .opening, .glyph .bang, .path "_user", .glyph .closing, .glyph .closing]

def checkedTokens : List Token := [.call "null.interval" "is_empty", .word "is", .glyph .bang, .word "NULL"]

theorem excluded_written : Written excluded excludedTokens := by
  refine ⟨[.path "a.null.b"], [.word "NoT", .word "in"],
    [.text "it's || && \"x\"", .glyph .comma, .glyph .minus, .number 7, .glyph .comma, .glyph .opening, .glyph .bang,
      .path "_user", .glyph .closing], wrapped_simple _ _ rfl rfl, by unfold Spelled; decide, ?_, rfl⟩
  refine ⟨[.text "it's || && \"x\""], _, Or.inl ⟨_, rfl, rfl⟩, ?_, rfl⟩
  refine ⟨[.glyph .minus, .number 7], _, Or.inl ⟨_, wrapped_simple _ _ rfl ⟨_, rfl, rfl⟩, rfl⟩, ?_, rfl⟩
  exact Or.inr (wrapped_compound _ [.glyph .bang, .path "_user"] rfl ⟨_, _, rfl, wrapped_simple _ _ rfl rfl, rfl⟩)

theorem checked_written : Written checked checkedTokens :=
  ⟨_, [.word "is", .glyph .bang, .word "NULL"], wrapped_simple _ _ rfl ⟨"is_empty", rfl, rfl⟩, by unfold Spelled; decide, rfl⟩

theorem selection_read_back :
    Writable (binary .and excluded checked) ∧ nesting (binary .and excluded checked) = 5 ∧
      parse ("( a.null.b NoT in ( 'it''s || && \"x\"' , - 7 , ( ! _user ) ) ) && " ++
        "( null.interval.is_empty() is ! NULL )") = .ok (binary .and excluded checked) := by
  have writable : Writable (binary .and excluded checked) := by
    simp only [Writable, AllWritable, excluded, checked]
    decide
  have shallow : nesting (binary .and excluded checked) = 5 := by decide
  have text : "( a.null.b NoT in ( 'it''s || && \"x\"' , - 7 , ( ! _user ) ) ) && " ++
      "( null.interval.is_empty() is ! NULL )" =
        source ((.glyph .opening :: (excludedTokens ++ [.glyph .closing])) ++ .glyph .ampersands ::
          (.glyph .opening :: (checkedTokens ++ [.glyph .closing]))) := by decide +kernel
  refine ⟨writable, shallow, ?_⟩
  rw [text]
  exact (writings_read_back _ writable (by rw [shallow]; decide)).2 _
    ⟨_, _, _, wrapped_compound _ _ rfl excluded_written, rfl, wrapped_compound _ _ rfl checked_written, rfl⟩

end StatementMapper.Expr
