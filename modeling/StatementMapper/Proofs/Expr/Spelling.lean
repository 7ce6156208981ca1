import Mathlib.Data.List.Chain
import StatementMapper.Proofs.Expr.Writing
import StatementMapper.Proofs.Text
import StatementMapper.Proofs.Text.Numerals

set_option autoImplicit false

namespace StatementMapper.Expr

def isPlain (c : Char) : Bool := !(isQuotation c || c == '&' || c == '|' || c == '=' || c == '!')

theorem respell_plain (c : Char) (rest : List Char) (plain : isPlain c = true) :
    respell none (c :: rest) = c :: respell none rest := by
  simp only [isPlain, Bool.not_eq_true', Bool.or_eq_false_iff, beq_eq_false_iff_ne] at plain
  obtain ⟨⟨⟨⟨quotation, ampersand⟩, pipe⟩, equal⟩, bang⟩ := plain
  rw [respell] <;> simp [quotation, ampersand, pipe, equal, bang]

theorem respell_run (run rest : List Char) (plain : ∀ c ∈ run, isPlain c = true) :
    respell none (run ++ rest) = run ++ respell none rest := by
  induction run with
  | nil => rfl
  | cons c more ih =>
      rw [List.cons_append, respell_plain c _ (plain c List.mem_cons_self),
        ih fun other member => plain other (List.mem_cons_of_mem _ member)]
      rfl

theorem respell_opened (mark : Char) (rest : List Char) (quotation : isQuotation mark = true) :
    respell none (mark :: rest) = mark :: respell (some mark) rest := by
  rw [respell.eq_def]
  simp only [quotation, if_true]

-- A doubled mark closes the text and opens it again.
theorem respell_text (content rest : List Char) :
    respell (some '\'') (doubled '\'' content ++ '\'' :: rest) = doubled '\'' content ++ '\'' :: respell none rest := by
  induction content with
  | nil => simp [doubled, respell]
  | cons c more ih =>
      rw [doubled] at ih ⊢
      rw [List.flatMap_cons]
      by_cases mark : c = '\''
      · simp [mark, respell, isQuotation, ih]
      · simp [mark, respell, ih]

theorem part_plain (c : Char) (part : isWordPart c = true) : isPlain c = true := by
  simp only [isPlain, isQuotation, Bool.not_eq_true', Bool.or_eq_false_iff, beq_eq_false_iff_ne]
  refine ⟨⟨⟨⟨⟨?_, ?_⟩, ?_⟩, ?_⟩, ?_⟩, ?_⟩ <;> (rintro rfl; exact absurd part (by decide))

theorem part_solid (c : Char) (part : isWordPart c = true) : Text.isBlank c = false := by
  rcases Bool.or_eq_true_iff.mp part with accepted | line
  · exact Text.solid_of_alphanumeric c accepted
  · rw [eq_of_beq line]
    rfl

theorem part_of_start (c : Char) (start : isWordStart c = true) : isWordPart c = true := by
  simp only [isWordStart, isWordPart, Text.isLetter, Text.isAlphanumeric, Char.isAlphanum, Bool.or_eq_true] at start ⊢
  cases start with
  | inl letter =>
      left
      split at letter <;> simp_all
  | inr line => exact Or.inr line

theorem identifier_parts (word : List Char) (identifier : isIdentifier word = true) :
    ∀ c ∈ word, isWordPart c = true := by
  cases word with
  | nil => exact nomatch identifier
  | cons c more =>
      obtain ⟨start, parts⟩ := Bool.and_eq_true_iff.mp identifier
      intro other member
      cases member with
      | head => exact part_of_start c start
      | tail _ later => exact List.all_eq_true.mp parts other later

theorem alpha_of_lower (c : Char) (letter : c.toLower.isAlpha = true) : c.isAlpha = true := by
  by_cases upper : c.val ≥ 'A'.val ∧ c.val ≤ 'Z'.val
  · have high : c.isUpper = true := decide_eq_true upper
    exact Bool.or_eq_true_iff.mpr (Or.inl high)
  · have same : c.toLower = c := dif_neg upper
    rwa [same] at letter

theorem word_of_keyword (word : List Char) (keyword : Keyword) (found : Keyword.ofWord? word = some keyword) :
    word ≠ [] ∧ ∀ c ∈ word, c.isAlpha = true := by
  have letters : Text.lower word ≠ [] ∧ ∀ c ∈ Text.lower word, c.isAlpha = true := by
    have text : (String.ofList (Text.lower word)).toList = Text.lower word := String.toList_ofList
    rw [← text]
    unfold Keyword.ofWord? at found
    split at found
    iterate 8
      · rename_i shape
        rw [shape]
        exact ⟨by decide, List.all_eq_true.mp (by decide)⟩
    · exact nomatch found
  refine ⟨fun empty => letters.1 (by rw [empty]; rfl), fun c member => alpha_of_lower c ?_⟩
  exact letters.2 _ (List.mem_map_of_mem member)

def Ends (rest : List Char) : Prop := ∀ c ∈ rest.head?, c = ' '

theorem ends_space (rest : List Char) : Ends (' ' :: rest) := by
  intro c member
  cases member
  rfl

theorem quote_paths_space (last : Option Char) (rest : List Char) :
    quotePaths none last (' ' :: rest) = ' ' :: quotePaths none (some ' ') rest := by
  rw [quotePaths]
  rfl

theorem quote_paths_ends (last other : Option Char) (rest : List Char) (ends : Ends rest) :
    quotePaths none last rest = quotePaths none other rest := by
  cases rest with
  | nil => rw [quotePaths, quotePaths]
  | cons c more =>
      rw [ends c rfl, quote_paths_space, quote_paths_space]

-- Of what is written before only a dot counts.
theorem quote_paths_undotted (last other : Option Char) (text : List Char) (undotted : last ≠ some '.')
    (otherUndotted : other ≠ some '.') : quotePaths none last text = quotePaths none other text := by
  have word : ∀ word rest, quoteWord last word rest = quoteWord other word rest := by
    intro word rest
    simp [quoteWord, isCalled, isKeyword, undotted, otherUndotted]
  cases text with
  | nil => rw [quotePaths, quotePaths]
  | cons c rest =>
      rw [quotePaths, quotePaths]
      simp only [word]

def isSign (c : Char) : Bool := !(isRegionMark c || c.isDigit || isWordStart c)

theorem quote_paths_sign (last : Option Char) (c : Char) (rest : List Char) (sign : isSign c = true) :
    quotePaths none last (c :: rest) = c :: quotePaths none (some c) rest := by
  simp only [isSign, Bool.not_eq_true', Bool.or_eq_false_iff] at sign
  rw [quotePaths]
  simp [sign]

theorem quote_paths_region (mark : Char) (region : isRegionMark mark = true) (content rest : List Char)
    (last : Option Char) :
    quotePaths (some mark) last (doubled mark content ++ mark :: rest) =
      doubled mark content ++ mark :: quotePaths none (some mark) rest := by
  induction content generalizing last with
  | nil => simp [doubled, quotePaths]
  | cons c more ih =>
      rw [doubled] at ih ⊢
      rw [List.flatMap_cons]
      by_cases same : c = mark
      · simp [same, quotePaths, region, ih]
      · simp [same, quotePaths, ih]

theorem digit_unmarked (c : Char) (digit : c.isDigit = true) : isRegionMark c = false := by
  simp only [isRegionMark, isQuotation, Bool.or_eq_false_iff, beq_eq_false_iff_ne]
  refine ⟨⟨?_, ?_⟩, ?_⟩ <;> (rintro rfl; exact absurd digit (by decide))

theorem start_unmarked (c : Char) (start : isWordStart c = true) : isRegionMark c = false := by
  simp only [isRegionMark, isQuotation, Bool.or_eq_false_iff, beq_eq_false_iff_ne]
  refine ⟨⟨?_, ?_⟩, ?_⟩ <;> (rintro rfl; exact absurd start (by decide))

theorem start_undigit (c : Char) (start : isWordStart c = true) : c.isDigit = false := by
  cases digit : c.isDigit with
  | false => rfl
  | true =>
      have range : 48 ≤ c.toNat ∧ c.toNat ≤ 57 := by
        simpa [Char.isDigit, UInt32.le_iff_toNat_le] using digit
      have unlettered : c.isAlpha = false := by
        apply Bool.eq_false_iff.mpr
        intro letter
        have letters := Text.alpha_range c letter
        omega
      have ascii : c.toNat < 128 := by omega
      simp only [isWordStart, Text.isLetter, if_pos ascii, unlettered, Bool.false_or, beq_iff_eq] at start
      rw [start] at digit
      exact absurd digit (by decide)

theorem quote_paths_number (last : Option Char) (digits rest : List Char) (nonempty : digits ≠ [])
    (all : ∀ c ∈ digits, c.isDigit = true) (stop : ∀ c ∈ rest.head?, isNumberPart c = false) :
    quotePaths none last (digits ++ rest) = digits ++ quotePaths none digits.getLast? rest := by
  cases digits with
  | nil => exact absurd rfl nonempty
  | cons c more =>
      have digit := all c List.mem_cons_self
      have unmarked := digit_unmarked c digit
      have parts : ∀ other ∈ more, isNumberPart other = true := by
        intro other member
        simp [isNumberPart, Char.isAlphanum, all other (List.mem_cons_of_mem _ member)]
      rw [List.cons_append, quotePaths]
      simp only [unmarked, Bool.false_eq_true, if_false, digit, if_true, Text.take_run _ _ _ parts stop,
        Text.drop_run _ _ _ parts stop]

theorem quote_paths_word (last : Option Char) (word rest : List Char) (identifier : isIdentifier word = true)
    (stop : ∀ c ∈ rest.head?, isWordPart c = false) :
    quotePaths none last (word ++ rest) =
      quoteWord last word rest ++ quotePaths none (quoteWord last word rest).getLast? rest := by
  cases word with
  | nil => exact nomatch identifier
  | cons c more =>
      obtain ⟨start, parts⟩ := Bool.and_eq_true_iff.mp identifier
      have inside : ∀ other ∈ more, isWordPart other = true := List.all_eq_true.mp parts
      rw [List.cons_append, quotePaths]
      simp only [start_unmarked c start, start_undigit c start, Bool.false_eq_true, if_false, start, if_true,
        Text.take_run _ _ _ inside stop, Text.drop_run _ _ _ inside stop]

def backticked (word : List Char) : List Char := '`' :: (word ++ ['`'])

def backtickedPath (words : List (List Char)) : List Char := ['.'].intercalate (words.map backticked)

theorem backticked_path_single (word : List Char) : backtickedPath [word] = backticked word :=
  List.intercalate_singleton

theorem backticked_path_cons (word next : List Char) (more : List (List Char)) :
    backtickedPath (word :: next :: more) = backticked word ++ '.' :: backtickedPath (next :: more) := by
  rw [backtickedPath, List.map_cons, List.map_cons, List.intercalate_cons_cons, List.append_assoc]
  rfl

theorem backticked_path_front (word : List Char) (more : List (List Char)) :
    (backtickedPath (word :: more)).head? = some '`' := by
  cases more with
  | nil => rw [backticked_path_single]; rfl
  | cons next later => rw [backticked_path_cons]; rfl

theorem backticked_last (word : List Char) : (backticked word).getLast? = some '`' := by
  rw [backticked, ← List.cons_append, List.getLast?_concat]

theorem quote_paths_path (words : List (List Char)) (nonempty : words ≠ [])
    (identifiers : ∀ word ∈ words, isIdentifier word = true) (last : Option Char) (rest : List Char)
    (stop : ∀ c ∈ rest.head?, isWordPart c = false) (uncalled : ∀ other, isCalled other rest = false)
    (free : ∀ word, words = [word] → isKeyword last word rest = false) :
    quotePaths none last (['.'].intercalate words ++ rest) =
      backtickedPath words ++ quotePaths none (some '`') rest := by
  induction words generalizing last with
  | nil => exact absurd rfl nonempty
  | cons word more ih =>
      have own := identifiers word List.mem_cons_self
      cases more with
      | nil =>
          have written : quoteWord last word rest = backticked word := by
            rw [quoteWord, uncalled, free word rfl]
            rfl
          rw [List.intercalate_singleton, quote_paths_word last word rest own stop, written, backticked_last,
            backticked_path_single]
      | cons next later =>
          have dot : ∀ tail, quoteWord last word ('.' :: tail) = backticked word := by
            intro tail
            have dotted : isCalled last ('.' :: tail) = false := by simp [isCalled, Text.isBlank]
            have part : isKeyword last word ('.' :: tail) = false := by simp [isKeyword]
            rw [quoteWord, dotted, part]
            rfl
          have following := ih (List.cons_ne_nil _ _) (fun other member => identifiers other (List.mem_cons_of_mem _ member))
            (some '.') (fun other _ => by simp [isKeyword])
          rw [List.intercalate_cons_cons, List.append_assoc, List.append_assoc, List.singleton_append,
            quote_paths_word last word _ own (fun c member => by cases member; decide), dot, backticked_last,
            quote_paths_sign _ '.' _ (by decide), following, backticked_path_cons, List.append_assoc]
          rfl

namespace Token

def respelled : Token → List Char
  | glyph .equals => " = ".toList
  | glyph .ampersands => " AND ".toList
  | glyph .pipes => " OR ".toList
  | glyph .bang => " NOT ".toList
  | other => other.characters

def prepared : Token → List Char
  | path name => backtickedPath (segments name)
  | call target method => backtickedPath (segments target) ++ '.' :: (method.toList ++ ['(', ')'])
  | other => other.respelled

end Token

theorem identifier_plain (word : List Char) (identifier : isIdentifier word = true) : ∀ c ∈ word, isPlain c = true :=
  fun c member => part_plain c (identifier_parts word identifier c member)

theorem intercalated_plain (words : List (List Char)) (identifiers : ∀ word ∈ words, isIdentifier word = true) :
    ∀ c ∈ ['.'].intercalate words, isPlain c = true := by
  induction words with
  | nil => exact fun c member => nomatch member
  | cons word more ih =>
      have own := identifier_plain word (identifiers word List.mem_cons_self)
      have others := ih fun other member => identifiers other (List.mem_cons_of_mem _ member)
      cases more with
      | nil => rwa [List.intercalate_singleton]
      | cons next later =>
          intro c member
          rw [List.intercalate_cons_cons, List.mem_append, List.mem_append, List.mem_singleton] at member
          rcases member with (inside | rfl) | inside
          · exact own c inside
          · rfl
          · exact others c inside

theorem segments_nonempty (name : String) : segments name ≠ [] := Text.split_nonempty _ _

theorem path_identifiers (name : String) (accepted : isPath name = true) :
    ∀ word ∈ segments name, isIdentifier word = true := List.all_eq_true.mp accepted

theorem path_characters (name : String) : ['.'].intercalate (segments name) = name.toList := Text.intercalate_split _ _

theorem path_start (name : String) (accepted : isPath name = true) :
    ∃ c rest, name.toList = c :: rest ∧ isWordStart c = true := by
  cases words : segments name with
  | nil => exact absurd words (Text.split_nonempty _ _)
  | cons word more =>
      have identifier := path_identifiers name accepted word (by rw [words]; exact List.mem_cons_self)
      obtain ⟨after, shape, _⟩ := Text.split_front '.' name.toList word more words
      cases word with
      | nil => exact nomatch identifier
      | cons c later => exact ⟨c, later ++ after, shape, (Bool.and_eq_true_iff.mp identifier).1⟩

theorem path_plain (name : String) (accepted : isPath name = true) : ∀ c ∈ name.toList, isPlain c = true := by
  rw [← path_characters name]
  exact intercalated_plain _ (path_identifiers name accepted)

theorem property_path (name : String) (accepted : isProperty name = true) : isPath name = true :=
  (Bool.and_eq_true_iff.mp accepted).1

theorem property_reserved (name : String) (accepted : isProperty name = true) : Keyword.ofWord? name.toList = none :=
  Option.isNone_iff_eq_none.mp (Bool.and_eq_true_iff.mp accepted).2

theorem method_identifier (name : String) (method : Method) (found : Method.ofName? name = some method) :
    isIdentifier name.toList = true := by
  have all : ∀ known ∈ methodNames, isIdentifier known.toList = true := by decide
  exact all name (method_names name method found)

theorem digit_part (c : Char) (digit : c.isDigit = true) : isWordPart c = true := by
  rw [isWordPart, Text.alphanumeric_of_alphanum c (by rw [Char.isAlphanum, digit, Bool.or_true]), Bool.true_or]

theorem alpha_start (c : Char) (letter : c.isAlpha = true) : isWordStart c = true := by
  rw [isWordStart, Text.letter_of_alpha c letter, Bool.true_or]

namespace Token

def isProper : Token → Bool
  | path name => isProperty name
  | call target method => isPath target && (Method.ofName? method).isSome
  | word letters => (Keyword.ofWord? letters.toList).isSome
  | text _ | number _ | glyph _ => true

theorem respell_token (token : Token) (proper : token.isProper = true) (rest : List Char) (ends : Ends rest) :
    respell none (token.characters ++ rest) = token.respelled ++ respell none rest := by
  cases token with
  | text content =>
      change respell none ('\'' :: (doubled '\'' content.toList ++ ['\''] ++ rest)) = _
      rw [respell_opened '\'' _ (by decide), List.append_assoc, List.singleton_append, respell_text]
      change _ = '\'' :: (doubled '\'' content.toList ++ ['\'']) ++ respell none rest
      simp
  | number value => exact respell_run _ _ fun c member => part_plain c (digit_part c (Text.digits_of_number value c member))
  | path name => exact respell_run _ _ (path_plain name (property_path name proper))
  | call target method =>
      obtain ⟨accepted, known⟩ := Bool.and_eq_true_iff.mp proper
      obtain ⟨found, named⟩ := Option.isSome_iff_exists.mp known
      refine respell_run _ _ fun c member => ?_
      simp only [characters, List.mem_append, List.mem_cons] at member
      rcases member with inside | rfl | inside | rfl | rfl | inside
      · exact path_plain target accepted c inside
      · rfl
      · exact identifier_plain _ (method_identifier method found named) c inside
      · rfl
      · rfl
      · exact nomatch inside
  | word letters =>
      obtain ⟨keyword, found⟩ := Option.isSome_iff_exists.mp proper
      have letter := (word_of_keyword _ keyword found).2
      exact respell_run _ _ fun c member => part_plain c (part_of_start c (alpha_start c (letter c member)))
  | glyph sign =>
      cases rest with
      | nil => cases sign <;> rfl
      | cons c more =>
          rw [ends c rfl]
          cases sign <;> rfl

end Token

theorem ends_stop (rest : List Char) (ends : Ends rest) (inside : Char → Bool) (space : inside ' ' = false) :
    ∀ c ∈ rest.head?, inside c = false := by
  intro c member
  rw [ends c member, space]

theorem quote_paths_signs (last : Option Char) (run rest : List Char) (signs : run.all isSign = true)
    (ends : Ends rest) : quotePaths none last (run ++ rest) = run ++ quotePaths none (some ' ') rest := by
  induction run generalizing last with
  | nil => exact quote_paths_ends last _ rest ends
  | cons c more ih =>
      obtain ⟨own, others⟩ := Bool.and_eq_true_iff.mp signs
      rw [List.cons_append, quote_paths_sign last c _ own, ih _ others]
      rfl

theorem quote_paths_keyword (word rest : List Char) (keyword : Keyword) (found : Keyword.ofWord? word = some keyword)
    (ends : Ends rest) : quotePaths none (some ' ') (word ++ rest) = word ++ quotePaths none (some ' ') rest := by
  obtain ⟨nonempty, letters⟩ := word_of_keyword word keyword found
  have identifier : isIdentifier word = true := by
    cases word with
    | nil => exact absurd rfl nonempty
    | cons c more =>
        have start := alpha_start c (letters c List.mem_cons_self)
        have parts : more.all isWordPart = true := List.all_eq_true.mpr fun other member =>
          part_of_start other (alpha_start other (letters other (List.mem_cons_of_mem _ member)))
        rw [isIdentifier, start, parts]
        rfl
  have undotted : rest.head? ≠ some '.' := fun dot => absurd (ends '.' dot) (by decide)
  have bare : quoteWord (some ' ') word rest = word := by simp [quoteWord, isKeyword, found, undotted]
  rw [quote_paths_word _ word rest identifier (ends_stop rest ends _ (by decide)), bare,
    quote_paths_ends _ (some ' ') rest ends]

theorem quote_paths_spaced_keyword (word rest : List Char) (keyword : Keyword)
    (found : Keyword.ofWord? word = some keyword) :
    quotePaths none (some ' ') (' ' :: (word ++ [' ']) ++ rest) =
      ' ' :: (word ++ [' ']) ++ quotePaths none (some ' ') rest := by
  rw [List.cons_append, quote_paths_space, List.append_assoc, List.singleton_append,
    quote_paths_keyword word _ keyword found (ends_space rest), quote_paths_space]
  simp

namespace Token

def isPathToken : Token → Bool
  | path _ => true
  | _ => false

theorem quote_paths_token (token : Token) (proper : token.isProper = true) (rest : List Char) (ends : Ends rest)
    (uncalled : token.isPathToken = true → ∀ last, isCalled last rest = false) :
    quotePaths none (some ' ') (token.respelled ++ rest) = token.prepared ++ quotePaths none (some ' ') rest := by
  have stop := ends_stop rest ends isWordPart (by decide)
  cases token with
  | text content =>
      change quotePaths none (some ' ') ('\'' :: (doubled '\'' content.toList ++ ['\''] ++ rest)) = _
      rw [quotePaths, if_pos (by decide), List.append_assoc, List.singleton_append,
        quote_paths_region '\'' (by decide), quote_paths_ends _ (some ' ') rest ends]
      change _ = '\'' :: (doubled '\'' content.toList ++ ['\'']) ++ quotePaths none (some ' ') rest
      simp
  | number value =>
      have digits := Text.digits_of_number value
      exact (quote_paths_number _ _ rest (Text.number_nonempty value) digits (ends_stop rest ends _ (by decide))).trans
        (congrArg _ (quote_paths_ends _ _ rest ends))
  | path name =>
      have accepted := property_path name proper
      change quotePaths none (some ' ') (name.toList ++ rest) = backtickedPath (segments name) ++ _
      rw [← path_characters name,
        quote_paths_path _ (segments_nonempty name) (path_identifiers name accepted) _ _ stop (uncalled rfl),
        quote_paths_ends _ (some ' ') rest ends]
      intro word single
      have whole := path_characters name
      rw [single, List.intercalate_singleton] at whole
      rw [isKeyword, whole, property_reserved name proper]
      simp
  | call target method =>
      obtain ⟨accepted, known⟩ := Bool.and_eq_true_iff.mp proper
      obtain ⟨found, named⟩ := Option.isSome_iff_exists.mp known
      have identifier := method_identifier method found named
      have dotted : ∀ last tail, isCalled last ('.' :: tail) = false := fun last tail => by simp [isCalled, Text.isBlank]
      have bare : quoteWord (some '.') method.toList ('(' :: ')' :: rest) = method.toList := by
        simp [quoteWord, isCalled, Text.isBlank]
      change quotePaths none (some ' ') (target.toList ++ '.' :: (method.toList ++ ['(', ')']) ++ rest) = _
      rw [← path_characters target, List.append_assoc, List.cons_append, List.append_assoc,
        quote_paths_path _ (segments_nonempty target) (path_identifiers target accepted) _ _
          (fun c member => by cases member; decide) (fun last => dotted last _) (fun word _ => by simp [isKeyword]),
        quote_paths_sign _ '.' _ (by decide), List.cons_append, List.singleton_append,
        quote_paths_word _ _ _ identifier (fun c member => by cases member; decide), bare,
        quote_paths_sign _ '(' _ (by decide), quote_paths_sign _ ')' _ (by decide), quote_paths_ends _ (some ' ') rest ends]
      simp [prepared]
  | word letters =>
      obtain ⟨keyword, found⟩ := Option.isSome_iff_exists.mp proper
      exact quote_paths_keyword letters.toList rest keyword found ends
  | glyph sign =>
      cases sign with
      | ampersands => exact quote_paths_spaced_keyword "AND".toList rest .and (by decide)
      | pipes => exact quote_paths_spaced_keyword "OR".toList rest .or (by decide)
      | bang => exact quote_paths_spaced_keyword "NOT".toList rest .not (by decide)
      | _ => exact quote_paths_signs _ _ rest (by decide) ends

-- No name stands in front of an opening parenthesis, where it would be that of a called method.
def Apart (token next : Token) : Prop := token.isPathToken = true → next ≠ glyph .opening

theorem respelled_unopened (token : Token) (proper : token.isProper = true) (other : token ≠ glyph .opening)
    (last : Option Char) (rest : List Char) : isCalled last (' ' :: (token.respelled ++ rest)) = false := by
  have solid : ∀ c more, Text.isBlank c = false → c ≠ '(' → isCalled last (' ' :: c :: more) = false := by
    intro c more solid other
    simp [isCalled, solid, other, show Text.isBlank ' ' = true from rfl]
  have part : ∀ c more, isWordPart c = true → isCalled last (' ' :: c :: more) = false := by
    intro c more own
    exact solid c more (part_solid c own) (by rintro rfl; exact absurd own (by decide))
  have run : ∀ run, run ≠ [] → (∀ c ∈ run, isWordPart c = true) → ∀ more, isCalled last (' ' :: (run ++ more)) = false := by
    intro run nonempty parts more
    cases run with
    | nil => exact absurd rfl nonempty
    | cons c later => exact part c _ (parts c List.mem_cons_self)
  have named : ∀ name, isPath name = true → ∀ more, isCalled last (' ' :: (name.toList ++ more)) = false := by
    intro name accepted more
    obtain ⟨c, later, shape, start⟩ := path_start name accepted
    rw [shape]
    exact part c _ (part_of_start c start)
  cases token with
  | text content => exact solid '\'' _ (by decide) (by decide)
  | number value => exact run _ (Text.number_nonempty value) (fun c member => digit_part c (Text.digits_of_number value c member)) rest
  | path name => exact named name (property_path name proper) rest
  | call target method =>
      change isCalled last (' ' :: (target.toList ++ '.' :: (method.toList ++ ['(', ')']) ++ rest)) = false
      rw [List.append_assoc]
      exact named target (Bool.and_eq_true_iff.mp proper).1 _
  | word letters =>
      obtain ⟨keyword, found⟩ := Option.isSome_iff_exists.mp proper
      obtain ⟨nonempty, letter⟩ := word_of_keyword _ keyword found
      exact run _ nonempty (fun c member => part_of_start c (alpha_start c (letter c member))) rest
  | glyph sign =>
      cases sign with
      | opening => exact absurd rfl other
      | _ => exact Bool.and_false _

end Token

def spaced (write : Token → List Char) (tokens : List Token) : List Char := tokens.flatMap fun token => ' ' :: write token

theorem spaced_cons (write : Token → List Char) (token : Token) (more : List Token) :
    spaced write (token :: more) = ' ' :: (write token ++ spaced write more) := rfl

theorem spaced_ends (write : Token → List Char) (tokens : List Token) : Ends (spaced write tokens) := by
  cases tokens with
  | nil => exact fun c member => nomatch member
  | cons token more => exact ends_space _

theorem respell_spaced (tokens : List Token) (proper : ∀ token ∈ tokens, token.isProper = true) :
    respell none (spaced Token.characters tokens) = spaced Token.respelled tokens := by
  induction tokens with
  | nil => rfl
  | cons token more ih =>
      have own := Token.respell_token token (proper token List.mem_cons_self) _ (spaced_ends Token.characters more)
      rw [spaced_cons, spaced_cons, respell_plain ' ' _ (by decide), own,
        ih fun other member => proper other (List.mem_cons_of_mem _ member)]

theorem quote_paths_spaced (last : Option Char) (tokens : List Token) (proper : ∀ token ∈ tokens, token.isProper = true)
    (apart : tokens.IsChain Token.Apart) :
    quotePaths none last (spaced Token.respelled tokens) = spaced Token.prepared tokens := by
  induction tokens generalizing last with
  | nil => rw [spaced, List.flatMap_nil, quotePaths]; rfl
  | cons token more ih =>
      have others : ∀ other ∈ more, other.isProper = true := fun other member => proper other (List.mem_cons_of_mem _ member)
      have uncalled : token.isPathToken = true → ∀ last, isCalled last (spaced Token.respelled more) = false := by
        intro path last
        cases more with
        | nil => simp [isCalled, spaced]
        | cons next later =>
            have unopened := (List.isChain_cons_cons.mp apart).1 path
            exact next.respelled_unopened (others next List.mem_cons_self) unopened last _
      rw [spaced_cons, spaced_cons, quote_paths_space, token.quote_paths_token (proper token List.mem_cons_self) _
        (spaced_ends Token.respelled more) uncalled, ih _ others apart.tail]

theorem prepare_spaced (tokens : List Token) (proper : ∀ token ∈ tokens, token.isProper = true)
    (apart : tokens.IsChain Token.Apart) : prepare (spaced Token.characters tokens) = spaced Token.prepared tokens := by
  rw [prepare, respell_spaced tokens proper, quote_paths_spaced none tokens proper apart]

end StatementMapper.Expr
