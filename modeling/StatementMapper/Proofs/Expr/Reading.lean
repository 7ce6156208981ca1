import StatementMapper.Proofs.Expr.Writing

set_option autoImplicit false

/-! `Alone` says that lexemes are read as a whole phrase, `Operand` that they are read as an operand. -/

namespace StatementMapper.Phrase

-- The lexemes behind a whole phrase: none, or those that close or separate phrases.
def Stops (rest : List Lexeme) : Prop := ∀ next ∈ rest.head?, next = .mark .closing ∨ next = .mark .comma

-- The lexemes behind an operand: nothing that would become a part of it.
def Loose (rest : List Lexeme) : Prop := ∀ next ∈ rest.head?, next ≠ .mark .period ∧ next ≠ .mark .opening

def Alone (phrase : Phrase) (lexemes : List Lexeme) (nesting : Nat) : Prop :=
  ∀ depth rest, nesting ≤ depth → Stops rest → read depth 0 (lexemes ++ rest) = some (phrase, rest)

def Operand (phrase : Phrase) (lexemes : List Lexeme) (nesting : Nat) : Prop :=
  ∀ depth limit rest, nesting ≤ depth → Loose rest →
    read depth limit (lexemes ++ rest) = climb (read (depth - 1)) limit phrase rest

theorem loose_of_stops (rest : List Lexeme) (stops : Stops rest) : Loose rest := by
  intro next member
  rcases stops next member with rfl | rfl <;> exact ⟨by decide, by decide⟩

theorem rank_stops (rest : List Lexeme) (stops : Stops rest) : rank rest = 0 := by
  cases rest with
  | nil => rfl
  | cons next more => rcases stops next rfl with rfl | rfl <;> rfl

theorem climb_stops (sub : Nat → Parser) (limit : Nat) (phrase : Phrase) (rest : List Lexeme) (stops : Stops rest) :
    climb sub limit phrase rest = some (phrase, rest) := by
  rw [climb, if_pos (by rw [rank_stops rest stops]; exact Nat.zero_le _)]

theorem chain_loose (sub : Nat → Parser) (rest : List Lexeme) (loose : Loose rest) : chain sub rest = some ([], rest) := by
  rw [chain]
  · intro more same
    exact (loose _ (by rw [same]; rfl)).1 rfl
  · intro content more same
    exact (loose _ (by rw [same]; rfl)).1 rfl
  · intro more same
    exact (loose _ (by rw [same]; rfl)).1 rfl

theorem read_operand (depth limit : Nat) (lexemes rest : List Lexeme) (phrase : Phrase) (loose : Loose rest)
    (found : operand (read depth) lexemes = some (phrase, rest)) :
    read (depth + 1) limit lexemes = climb (read depth) limit phrase rest := by
  rw [read, found]
  simp only [bind, Option.bind, chain_loose (read depth) rest loose]
  rfl

theorem operand_alone (phrase : Phrase) (lexemes : List Lexeme) (nesting : Nat)
    (operand : Operand phrase lexemes nesting) : Alone phrase lexemes nesting := by
  intro depth rest deep stops
  rw [operand depth 0 rest deep (loose_of_stops rest stops), climb_stops _ _ _ _ stops]

theorem single_operand (phrase : Phrase) (lexeme : Lexeme)
    (found : ∀ sub rest, Loose rest → operand sub (lexeme :: rest) = some (phrase, rest)) : Operand phrase [lexeme] 1 := by
  intro depth limit rest deep loose
  cases depth with
  | zero => exact absurd deep (by decide)
  | succ depth => exact read_operand depth limit _ rest phrase loose (found _ _ loose)

theorem group_operand (phrase : Phrase) (lexemes : List Lexeme) (nesting : Nat) (alone : Alone phrase lexemes nesting) :
    Operand (group phrase) (.mark .opening :: (lexemes ++ [.mark .closing])) (nesting + 1) := by
  intro depth limit rest deep loose
  cases depth with
  | zero => exact absurd deep (Nat.not_succ_le_zero _)
  | succ depth =>
      refine read_operand depth limit _ rest (group phrase) loose ?_
      have inner := alone depth (.mark .closing :: rest) (Nat.le_of_succ_le_succ deep)
        (fun next member => by cases member; exact Or.inl rfl)
      rw [List.cons_append, List.append_assoc, List.singleton_append, operand, commaList, inner]
      simp [closed?, grouped]

theorem rank_le_period (lexemes : List Lexeme) : rank lexemes ≤ periodRank := by
  unfold rank
  split
  · rename_i mark _
    cases mark <;> decide
  · split
    · decide
    · decide
    · decide
    · decide
    · split <;> decide
    · decide
  · decide

theorem link_operand (name : String) (segment joined : Phrase) (word : String) (quotation : Quotation)
    (more : List Lexeme) (nesting : Nat) (operand : Operand segment (.word word quotation :: more) nesting)
    (whole : join (.name name .backticks) [segment] = joined) :
    Operand joined (.word name .backticks :: .mark .period :: .word word quotation :: more) (nesting + 1) := by
  intro depth limit rest deep loose
  cases depth with
  | zero => exact absurd deep (Nat.not_succ_le_zero _)
  | succ depth =>
      have inner := operand depth periodRank rest (Nat.le_of_succ_le_succ deep) loose
      rw [climb, if_pos (rank_le_period rest)] at inner
      have links : chain (read depth) (.mark .period :: (.word word quotation :: more ++ rest)) = some ([segment], rest) := by
        rw [chain, inner]
        · simp [chain_loose (read depth) rest loose]
          omega
        · simp
        · simp
      have root : Phrase.operand (read depth)
          (.word name .backticks :: .mark .period :: (.word word quotation :: more ++ rest)) =
          some (.name name .backticks, .mark .period :: (.word word quotation :: more ++ rest)) := by
        simp [Phrase.operand, Lexeme.keyword?, named]
      rw [List.cons_append, List.cons_append, read, root]
      simp only [bind, Option.bind, links, whole]
      rfl

def pathPhrase : List String → Phrase
  | [single] => .name single .backticks
  | several => .path several

theorem named_name (sub : Nat → Parser) (word : String) (quotation : Quotation) (rest : List Lexeme)
    (free : ¬ (quotation = .bare ∧ opensConstruct word = true)) (loose : Loose rest) :
    named sub word quotation rest = some (.name word quotation, rest) := by
  unfold named
  rw [if_neg free]
  split
  · exact absurd rfl (loose _ rfl).2
  · rfl

theorem named_call (sub : Nat → Parser) (word : String) (rest : List Lexeme) (free : opensConstruct word = false)
    (loose : Loose rest) :
    named sub word .bare (.mark .opening :: .mark .closing :: rest) = some (.call [word] false, rest) := by
  have empty : callArguments? sub (.mark .closing :: rest) = some (false, rest) := by
    unfold callArguments?
    simp only [arguments?]
    split
    · rename_i same
      cases same
      exact absurd rfl (loose _ rfl).2
    · rfl
  simp [named, free, empty]

theorem path_operand (names : List String) (nonempty : names ≠ []) :
    Operand (pathPhrase names) (Expr.pathLexemes names) names.length := by
  induction names with
  | nil => exact absurd rfl nonempty
  | cons name more ih =>
      cases more with
      | nil =>
          refine single_operand _ _ fun sub rest loose => ?_
          have own := named_name sub name .backticks rest (by simp) loose
          simpa [operand, Lexeme.keyword?, pathPhrase] using own
      | cons next later =>
          have following := ih (List.cons_ne_nil _ _)
          have joined : join (.name name .backticks) [pathPhrase (next :: later)] = pathPhrase (name :: next :: later) := by
            cases later <;> simp [join, pathPhrase, chainNames?, names?]
          cases later with
          | nil => exact link_operand name _ _ _ _ _ _ following joined
          | cons third others => exact link_operand name _ _ _ _ _ _ following joined

theorem method_operand (method : String) (found : Method) (known : Method.ofName? method = some found) :
    Operand (.call [method] false) [.word method .bare, .mark .opening, .mark .closing] 1 := by
  have plain : Lexeme.keyword? (.word method .bare) = none ∧ opensConstruct method = false := by
    have all : ∀ known ∈ Expr.methodNames,
        Lexeme.keyword? (.word known .bare) = none ∧ opensConstruct known = false := by decide
    exact all method (Expr.method_names method found known)
  intro depth limit rest deep loose
  cases depth with
  | zero => exact absurd deep (by decide)
  | succ depth =>
      refine read_operand depth limit _ rest _ loose ?_
      have own := named_call (read depth) method rest plain.2 loose
      simpa [operand, plain.1] using own

theorem call_operand (names : List String) (nonempty : names ≠ []) (method : String) (found : Method)
    (known : Method.ofName? method = some found) :
    Operand (.call (names ++ [method]) false)
      (Expr.pathLexemes names ++ [.mark .period, .word method .bare, .mark .opening, .mark .closing]) (names.length + 1) := by
  induction names with
  | nil => exact absurd rfl nonempty
  | cons name more ih =>
      cases more with
      | nil => exact link_operand name _ _ _ _ _ _ (method_operand method found known) rfl
      | cons next later =>
          have following := ih (List.cons_ne_nil _ _)
          cases later with
          | nil => exact link_operand name _ _ _ _ _ _ following rfl
          | cons third others => exact link_operand name _ _ _ _ _ _ following rfl

theorem keyword_lexeme (token : Expr.Token) (keyword : Keyword) (found : token.keyword? = some keyword) :
    ∃ word, token.lexemes = [.word word .bare] ∧ Lexeme.keyword? (.word word .bare) = some keyword := by
  cases token with
  | word letters => exact ⟨letters, rfl, found⟩
  | glyph sign =>
      cases sign with
      | ampersands => exact ⟨"AND", rfl, by rw [← found]; decide⟩
      | pipes => exact ⟨"OR", rfl, by rw [← found]; decide⟩
      | bang => exact ⟨"NOT", rfl, by rw [← found]; decide⟩
      | _ => exact nomatch found
  | _ => exact nomatch found

structure Infix (lexeme : Lexeme) (operator : Operator) (limit : Nat) : Prop where
  binds : ∀ rest, rank (lexeme :: rest) = limit
  extends_left : ∀ sub left rest, extend sub left (lexeme :: rest) =
    (sub limit rest).map fun (right, tail) => (binary (some operator) left right, tail)
  positive : 0 < limit
  apart : lexeme ≠ .mark .period ∧ lexeme ≠ .mark .opening

theorem infix_mark (mark : Mark) (operator : Operator) (limit : Nat) (known : infixMark? mark = some (limit, some operator))
    (positive : 0 < limit) (apart : mark ≠ .period ∧ mark ≠ .opening) : Infix (.mark mark) operator limit where
  binds rest := by simp [rank, known]
  extends_left sub left rest := by simp [extend, known]
  positive := positive
  apart := by simpa using apart

theorem infix_keyword (word : String) {keyword : Keyword} {operator : Operator} {limit : Nat}
    (member : (keyword, operator, limit) ∈ [(Keyword.or, Operator.or, orRank), (Keyword.and, Operator.and, andRank)])
    (found : Lexeme.keyword? (.word word .bare) = some keyword) : Infix (.word word .bare) operator limit := by
  simp only [List.mem_cons, Prod.mk.injEq, List.not_mem_nil, or_false] at member
  rcases member with ⟨rfl, rfl, rfl⟩ | ⟨rfl, rfl, rfl⟩
  all_goals
    constructor
    · intro rest
      simp [rank, found]
    · intro sub left rest
      simp [extend, found]
    · decide
    · simp

theorem operator_lexeme (token : Expr.Token) (operator : Operator) (found : token.operator? = some operator) :
    ∃ lexeme limit, token.lexemes = [lexeme] ∧ Infix lexeme operator limit := by
  cases token with
  | word letters =>
      rw [Expr.Token.operator?] at found
      · cases keyword : (Expr.Token.word letters).keyword? with
        | none => simp [keyword] at found
        | some word =>
            cases word with
            | and =>
                simp only [keyword, Option.some.injEq] at found
                exact ⟨_, andRank, rfl, infix_keyword letters (by simp [found]) keyword⟩
            | or =>
                simp only [keyword, Option.some.injEq] at found
                exact ⟨_, orRank, rfl, infix_keyword letters (by simp [found]) keyword⟩
            | _ => simp [keyword] at found
      all_goals simp
  | glyph sign =>
      cases sign with
      | ampersands =>
          cases found
          exact ⟨_, andRank, rfl, @infix_keyword "AND" .and .and andRank (by simp) (by decide)⟩
      | pipes =>
          cases found
          exact ⟨_, orRank, rfl, @infix_keyword "OR" .or .or orRank (by simp) (by decide)⟩
      | bang => exact nomatch found
      | opening => exact nomatch found
      | closing => exact nomatch found
      | comma => exact nomatch found
      | _ =>
          cases found
          exact ⟨_, _, rfl, infix_mark _ _ _ rfl (by decide) (by decide)⟩
  | _ => exact nomatch found

theorem followed_alone (operand whole : Phrase) (before after : List Lexeme) (nesting more : Nat)
    (inner : Operand operand before nesting) (loose : ∀ rest, Loose (after ++ rest)) (binds : ∀ rest, 0 < rank (after ++ rest))
    (extended : ∀ depth rest, more ≤ depth → Stops rest →
      extend (read (depth - 1)) operand (after ++ rest) = some (whole, rest)) :
    Alone whole (before ++ after) (max nesting more) := by
  intro depth rest deep stops
  have nonempty : 0 < after.length := by
    cases after with
    | nil => exact absurd (binds []) (by decide)
    | cons lexeme others => simp
  rw [List.append_assoc, inner depth 0 _ (by omega) (loose rest), climb, if_neg (Nat.not_le.mpr (binds rest)),
    extended depth rest (by omega) stops]
  simp only
  rw [if_pos (by rw [List.length_append]; omega), climb_stops _ _ _ _ stops]

theorem binary_alone (left right : Phrase) (before behind : List Lexeme) (lexeme : Lexeme) (operator : Operator)
    (limit leftNesting rightNesting : Nat) (sign : Infix lexeme operator limit) (first : Operand left before leftNesting)
    (second : Operand right behind rightNesting) :
    Alone (.binary (some operator) left right) (before ++ lexeme :: behind) (max leftNesting (rightNesting + 1)) := by
  refine followed_alone left _ before _ leftNesting _ first ?_ ?_ ?_
  · intro rest next member
    cases member
    exact sign.apart
  · intro rest
    rw [List.cons_append, sign.binds]
    exact sign.positive
  · intro depth rest deep stops
    have own := second (depth - 1) limit rest (by omega) (loose_of_stops rest stops)
    rw [List.cons_append, sign.extends_left, own, climb_stops _ _ _ _ stops]
    rfl

theorem signed_alone (sign : Sign) (operand : Phrase) (lexeme : Lexeme) (lexemes : List Lexeme) (nesting limit : Nat)
    (inner : Operand operand lexemes nesting)
    (found : ∀ sub rest tail, sub limit rest = some (operand, tail) →
      Phrase.operand sub (lexeme :: rest) = some (.signed sign operand, tail)) :
    Alone (.signed sign operand) (lexeme :: lexemes) (nesting + 1) := by
  intro depth rest deep stops
  cases depth with
  | zero => omega
  | succ depth =>
      have own := inner depth limit rest (by omega) (loose_of_stops rest stops)
      rw [climb_stops _ _ _ _ stops] at own
      rw [List.cons_append, read_operand depth 0 _ rest _ (loose_of_stops rest stops) (found _ _ _ own),
        climb_stops _ _ _ _ stops]

theorem not_alone (operand : Phrase) (word : String) (lexemes : List Lexeme) (nesting : Nat)
    (keyword : Lexeme.keyword? (.word word .bare) = some .not) (inner : Operand operand lexemes nesting) :
    Alone (.signed .not operand) (.word word .bare :: lexemes) (nesting + 1) := by
  refine signed_alone .not operand _ lexemes nesting notRank inner fun sub rest tail read => ?_
  simp [Phrase.operand, keyword, read]

theorem minus_alone (operand : Phrase) (lexemes : List Lexeme) (nesting : Nat) (inner : Operand operand lexemes nesting) :
    Alone (.signed .minus operand) (.mark .minus :: lexemes) (nesting + 1) := by
  refine signed_alone .minus operand _ lexemes nesting productRank inner fun sub rest tail read => ?_
  simp [Phrase.operand, read]

theorem loose_word (word : String) (rest : List Lexeme) : Loose (.word word .bare :: rest) := by
  intro next member
  cases member
  exact ⟨by simp, by simp⟩

theorem null_check_alone (operand : Phrase) (lexemes words : List Lexeme) (negated : Bool) (nesting : Nat)
    (inner : Operand operand lexemes nesting) (bare : ∀ lexeme ∈ words, ∃ word, lexeme = .word word .bare)
    (spelled : words.map Lexeme.keyword? = (Expr.nullWords negated).map some) :
    Alone (.nullCheck operand negated) (lexemes ++ words) nesting := by
  rw [← Nat.max_zero nesting]
  cases negated with
  | false =>
      simp only [Expr.nullWords, Bool.false_eq_true, if_false, List.map_cons, List.map_nil, List.map_eq_cons_iff,
        List.map_eq_nil_iff] at spelled
      obtain ⟨_, _, rfl, first, _, _, rfl, second, rfl⟩ := spelled
      simp only [List.forall_mem_cons] at bare
      obtain ⟨⟨word, rfl⟩, _⟩ := bare
      refine followed_alone operand _ lexemes _ nesting 0 inner (fun rest => loose_word word _) (fun rest => ?_) ?_
      · simp [rank, first, isRank]
      · intro depth rest deep stops
        simp [extend, isCheck, first, second]
  | true =>
      simp only [Expr.nullWords, if_true, List.map_cons, List.map_nil, List.map_eq_cons_iff, List.map_eq_nil_iff] at spelled
      obtain ⟨_, _, rfl, first, _, _, rfl, second, _, _, rfl, third, rfl⟩ := spelled
      simp only [List.forall_mem_cons] at bare
      obtain ⟨⟨word, rfl⟩, _⟩ := bare
      refine followed_alone operand _ lexemes _ nesting 0 inner (fun rest => loose_word word _) (fun rest => ?_) ?_
      · simp [rank, first, isRank]
      · intro depth rest deep stops
        simp [extend, isCheck, first, second, third]

def Listed (phrases : List Phrase) (lexemes : List Lexeme) (nesting : Nat) : Prop :=
  ∀ depth rest, nesting ≤ depth →
    commaList (read depth 0) (lexemes ++ .mark .closing :: rest) = some (phrases, .mark .closing :: rest)

theorem listed_single (phrase : Phrase) (lexemes : List Lexeme) (nesting : Nat) (alone : Alone phrase lexemes nesting) :
    Listed [phrase] lexemes nesting := by
  intro depth rest deep
  rw [commaList, alone depth _ deep (fun next member => by cases member; exact Or.inl rfl)]

theorem listed_cons (phrase : Phrase) (others : List Phrase) (lexemes more : List Lexeme) (nesting deepest : Nat)
    (alone : Alone phrase lexemes nesting) (listed : Listed others more deepest) :
    Listed (phrase :: others) (lexemes ++ .mark .comma :: more) (max nesting deepest) := by
  intro depth rest deep
  rw [List.append_assoc, List.cons_append, commaList,
    alone depth _ (by omega) (fun next member => by cases member; exact Or.inr rfl)]
  simp only
  rw [if_pos (by simp; omega), listed depth rest (by omega)]
  rfl

theorem membership_alone (needle : Phrase) (found : List Phrase) (lexemes words items : List Lexeme) (negated : Bool)
    (nesting deepest : Nat) (inner : Operand needle lexemes nesting)
    (bare : ∀ lexeme ∈ words, ∃ word, lexeme = .word word .bare)
    (spelled : words.map Lexeme.keyword? = (Expr.inWords negated).map some) (listed : Listed found items deepest) :
    Alone (.membership needle found negated)
      (lexemes ++ (words ++ .mark .opening :: (items ++ [.mark .closing]))) (max nesting (deepest + 1)) := by
  have read : ∀ depth rest, deepest + 1 ≤ depth →
      candidates (read (depth - 1)) needle negated (.mark .opening :: (items ++ .mark .closing :: rest)) =
        some (.membership needle found negated, rest) := by
    intro depth rest deep
    rw [candidates, listed (depth - 1) rest (by omega)]
    rfl
  cases negated with
  | false =>
      simp only [Expr.inWords, Bool.false_eq_true, if_false, List.map_cons, List.map_nil, List.map_eq_cons_iff,
        List.map_eq_nil_iff] at spelled
      obtain ⟨_, _, rfl, first, rfl⟩ := spelled
      simp only [List.forall_mem_cons] at bare
      obtain ⟨⟨word, rfl⟩, _⟩ := bare
      refine followed_alone needle _ lexemes _ nesting _ inner (fun rest => loose_word word _) (fun rest => ?_) ?_
      · simp [rank, first, comparisonRank]
      · intro depth rest deep stops
        simp [extend, first, read depth rest deep]
  | true =>
      simp only [Expr.inWords, if_true, List.map_cons, List.map_nil, List.map_eq_cons_iff, List.map_eq_nil_iff] at spelled
      obtain ⟨_, _, rfl, first, _, _, rfl, second, rfl⟩ := spelled
      simp only [List.forall_mem_cons] at bare
      obtain ⟨⟨word, rfl⟩, _⟩ := bare
      refine followed_alone needle _ lexemes _ nesting _ inner (fun rest => loose_word word _) (fun rest => ?_) ?_
      · simp [rank, first, second, comparisonRank]
      · intro depth rest deep stops
        simp [extend, first, second, read depth rest deep]

end StatementMapper.Phrase
