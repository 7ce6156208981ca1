import StatementMapper.Expr.Reader

set_option autoImplicit false

namespace StatementMapper.Expr

inductive Glyph where
  | plus
  | minus
  | star
  | slash
  | percent
  | equal
  | equals
  | bangEqual
  | angles
  | less
  | lessEqual
  | greater
  | greaterEqual
  | ampersands
  | pipes
  | bang
  | opening
  | closing
  | comma
deriving DecidableEq, Repr

def Glyph.characters : Glyph → List Char
  | plus => ['+']
  | minus => ['-']
  | star => ['*']
  | slash => ['/']
  | percent => ['%']
  | equal => ['=']
  | equals => ['=', '=']
  | bangEqual => ['!', '=']
  | angles => ['<', '>']
  | less => ['<']
  | lessEqual => ['<', '=']
  | greater => ['>']
  | greaterEqual => ['>', '=']
  | ampersands => ['&', '&']
  | pipes => ['|', '|']
  | bang => ['!']
  | opening => ['(']
  | closing => [')']
  | comma => [',']

def isIdentifier : List Char → Bool
  | c :: rest => isWordStart c && rest.all isWordPart
  | [] => false

def segments (path : String) : List (List Char) := Text.split '.' path.toList

def isPath (path : String) : Bool := (segments path).all isIdentifier

-- A word of the grammar names a property only as a part of a longer path.
def isProperty (path : String) : Bool := isPath path && (Keyword.ofWord? path.toList).isNone

def doubled (mark : Char) (content : List Char) : List Char :=
  content.flatMap fun c => if c = mark then [mark, mark] else [c]

inductive Token where
  | text (content : String)
  | number (value : Nat)
  | path (name : String)
  | call (target method : String)
  | word (letters : String)
  | glyph (sign : Glyph)
deriving DecidableEq, Repr

namespace Token

def characters : Token → List Char
  | text content => '\'' :: (doubled '\'' content.toList ++ ['\''])
  | number value => (toString value).toList
  | path name => name.toList
  | call target method => target.toList ++ '.' :: (method.toList ++ ['(', ')'])
  | word letters => letters.toList
  | glyph sign => sign.characters

def keyword? : Token → Option Keyword
  | word letters => Keyword.ofWord? letters.toList
  | glyph .ampersands => some .and
  | glyph .pipes => some .or
  | glyph .bang => some .not
  | _ => none

def operator? (token : Token) : Option Operator :=
  match token with
  | glyph .plus => some .add
  | glyph .minus => some .subtract
  | glyph .star => some .multiply
  | glyph .slash => some .divide
  | glyph .percent => some .modulo
  | glyph .equal => some .eq
  | glyph .equals => some .eq
  | glyph .bangEqual => some .notEq
  | glyph .angles => some .notEq
  | glyph .less => some .lt
  | glyph .lessEqual => some .ltEq
  | glyph .greater => some .gt
  | glyph .greaterEqual => some .gtEq
  | other =>
    match other.keyword? with
    | some .and => some .and
    | some .or => some .or
    | _ => none

def value? (token : Token) : Option Value :=
  match token with
  | text content => some (.text content)
  | number value => if value < Word.signedBound then some (.integer (Int64.ofNat value)) else none
  | other =>
    match other.keyword? with
    | some .null => some .null
    | some .true => some (.boolean true)
    | some .false => some (.boolean false)
    | _ => none

end Token

def methodNames : List String := ["size", "length", "isEmpty", "isempty", "is_empty"]

theorem method_names (name : String) (method : Method) (found : Method.ofName? name = some method) : name ∈ methodNames := by
  unfold Method.ofName? at found
  split at found
  iterate 5
    · simp [methodNames]
  · exact nomatch found

def Glyph.lexeme : Glyph → Lexeme
  | plus => .mark .plus
  | minus => .mark .minus
  | star => .mark .star
  | slash => .mark .slash
  | percent => .mark .percent
  | equal => .mark .eq
  | equals => .mark .eq
  | bangEqual => .mark .notEq
  | angles => .mark .notEq
  | less => .mark .lt
  | lessEqual => .mark .ltEq
  | greater => .mark .gt
  | greaterEqual => .mark .gtEq
  | ampersands => .word "AND" .bare
  | pipes => .word "OR" .bare
  | bang => .word "NOT" .bare
  | opening => .mark .opening
  | closing => .mark .closing
  | comma => .mark .comma

def pathLexemes (names : List String) : List Lexeme :=
  (names.map fun name => Lexeme.word name .backticks).intersperse (.mark .period)

def names (path : String) : List String := (segments path).map String.ofList

def Token.lexemes : Token → List Lexeme
  | text content => [.text content]
  | number value => [.number (toString value).toList]
  | path name => pathLexemes (names name)
  | call target method =>
    pathLexemes (names target) ++ [.mark .period, .word method .bare, .mark .opening, .mark .closing]
  | word letters => [.word letters .bare]
  | glyph sign => [sign.lexeme]

def source (tokens : List Token) : String := String.ofList ([' '].intercalate (tokens.map Token.characters))

def isCompound : Expr → Bool
  | literal _ | property _ | call _ _ => false
  | binary _ _ _ | not _ | negate _ | isNull _ _ | isIn _ _ _ => true

def Wrapped (compound : Bool) (alone : List Token → Prop) (tokens : List Token) : Prop :=
  if compound then ∃ inner, alone inner ∧ tokens = .glyph .opening :: (inner ++ [.glyph .closing]) else alone tokens

def Spelled (keywords : List Keyword) (tokens : List Token) : Prop :=
  tokens.map Token.keyword? = keywords.map some

def nullWords (negated : Bool) : List Keyword := if negated then [.is, .not, .null] else [.is, .null]

def inWords (negated : Bool) : List Keyword := if negated then [.not, .in] else [.in]

mutual
def Written : Expr → List Token → Prop
  | literal value => fun tokens => ∃ token : Token, token.value? = some value ∧ tokens = [token]
  | property path => fun tokens => tokens = [.path path]
  | call target method => fun tokens => ∃ name, Method.ofName? name = some method ∧ tokens = [.call target name]
  | binary operator left right => fun tokens =>
    ∃ before sign behind, Wrapped left.isCompound (Written left) before ∧ sign.operator? = some operator ∧
      Wrapped right.isCompound (Written right) behind ∧ tokens = before ++ sign :: behind
  | not operand => fun tokens =>
    ∃ sign inner, sign.keyword? = some .not ∧ Wrapped operand.isCompound (Written operand) inner ∧
      tokens = sign :: inner
  | negate operand => fun tokens =>
    ∃ inner, Wrapped operand.isCompound (Written operand) inner ∧ tokens = .glyph .minus :: inner
  | isNull operand negated => fun tokens =>
    ∃ inner words, Wrapped operand.isCompound (Written operand) inner ∧ Spelled (nullWords negated) words ∧
      tokens = inner ++ words
  | isIn needle candidates negated => fun tokens =>
    ∃ inner words items, Wrapped needle.isCompound (Written needle) inner ∧ Spelled (inWords negated) words ∧
      AllWritten candidates items ∧
      tokens = inner ++ (words ++ .glyph .opening :: (items ++ [.glyph .closing]))
def AllWritten : List Expr → List Token → Prop
  | [] => fun _ => False
  | [last] => fun tokens => Written last tokens ∨ Wrapped last.isCompound (Written last) tokens
  | first :: next :: rest => fun tokens =>
    ∃ item more, (Written first item ∨ Wrapped first.isCompound (Written first) item) ∧
      AllWritten (next :: rest) more ∧ tokens = item ++ .glyph .comma :: more
end

-- The expressions that can be written: numbers are integers without a sign, names are paths and no list is empty.
mutual
def Writable : Expr → Prop
  | literal value =>
    match value with
    | .null | .boolean _ | .text _ => True
    | .integer n => 0 ≤ n.toInt
    | .float _ | .list _ | .map _ => False
  | property path => isProperty path = true
  | call target _ => isPath target = true
  | binary _ left right => Writable left ∧ Writable right
  | not operand | negate operand | isNull operand _ => Writable operand
  | isIn needle candidates _ => Writable needle ∧ candidates ≠ [] ∧ AllWritable candidates
def AllWritable : List Expr → Prop
  | [] => True
  | first :: rest => Writable first ∧ AllWritable rest
end

-- Each segment of a path, each pair of parentheses, each prefix and each right operand is one level.
def wrappedNesting (compound : Bool) (nesting : Nat) : Nat := if compound then nesting + 1 else nesting

mutual
def nesting : Expr → Nat
  | literal _ => 1
  | property path => (segments path).length
  | call target _ => (segments target).length + 1
  | binary _ left right =>
    max (wrappedNesting left.isCompound (nesting left)) (wrappedNesting right.isCompound (nesting right) + 1)
  | not operand | negate operand => wrappedNesting operand.isCompound (nesting operand) + 1
  | isNull operand _ => wrappedNesting operand.isCompound (nesting operand)
  | isIn needle candidates _ =>
    max (wrappedNesting needle.isCompound (nesting needle)) (allNesting candidates + 1)
def allNesting : List Expr → Nat
  | [] => 0
  | first :: rest => max (wrappedNesting first.isCompound (nesting first)) (allNesting rest)
end

theorem wrapped_simple (e : Expr) (tokens : List Token) (simple : e.isCompound = false) (written : Written e tokens) :
    Wrapped e.isCompound (Written e) tokens := by
  rwa [Wrapped, simple]

theorem wrapped_compound (e : Expr) (tokens : List Token) (compound : e.isCompound = true) (written : Written e tokens) :
    Wrapped e.isCompound (Written e) (.glyph .opening :: (tokens ++ [.glyph .closing])) := by
  rw [Wrapped, compound]
  exact ⟨tokens, written, rfl⟩

theorem wrapped_exists (e : Expr) (written : ∃ tokens, Written e tokens) :
    ∃ tokens, Wrapped e.isCompound (Written e) tokens := by
  obtain ⟨tokens, alone⟩ := written
  cases compound : e.isCompound with
  | false => exact ⟨tokens, alone⟩
  | true => exact ⟨_, compound ▸ wrapped_compound e tokens compound alone⟩

theorem method_spelled (method : Method) : ∃ name, Method.ofName? name = some method := by
  cases method with
  | size => exact ⟨"size", rfl⟩
  | length => exact ⟨"length", rfl⟩
  | isEmpty => exact ⟨"isEmpty", rfl⟩

theorem operator_spelled (operator : Operator) : ∃ token : Token, token.operator? = some operator := by
  cases operator with
  | add => exact ⟨.glyph .plus, rfl⟩
  | subtract => exact ⟨.glyph .minus, rfl⟩
  | multiply => exact ⟨.glyph .star, rfl⟩
  | divide => exact ⟨.glyph .slash, rfl⟩
  | modulo => exact ⟨.glyph .percent, rfl⟩
  | eq => exact ⟨.glyph .equal, rfl⟩
  | notEq => exact ⟨.glyph .bangEqual, rfl⟩
  | lt => exact ⟨.glyph .less, rfl⟩
  | ltEq => exact ⟨.glyph .lessEqual, rfl⟩
  | gt => exact ⟨.glyph .greater, rfl⟩
  | gtEq => exact ⟨.glyph .greaterEqual, rfl⟩
  | and => exact ⟨.glyph .ampersands, rfl⟩
  | or => exact ⟨.glyph .pipes, rfl⟩

theorem keyword_spelled (keyword : Keyword) : ∃ token : Token, token.keyword? = some keyword := by
  cases keyword with
  | and => exact ⟨.word "and", by decide⟩
  | or => exact ⟨.word "or", by decide⟩
  | not => exact ⟨.word "not", by decide⟩
  | is => exact ⟨.word "is", by decide⟩
  | null => exact ⟨.word "null", by decide⟩
  | «in» => exact ⟨.word "in", by decide⟩
  | true => exact ⟨.word "true", by decide⟩
  | false => exact ⟨.word "false", by decide⟩

theorem keywords_spelled (keywords : List Keyword) : ∃ words, Spelled keywords words := by
  induction keywords with
  | nil => exact ⟨[], rfl⟩
  | cons keyword others ih =>
      obtain ⟨token, found⟩ := keyword_spelled keyword
      obtain ⟨words, spelled⟩ := ih
      exact ⟨token :: words, by rw [Spelled, List.map_cons, found, spelled]; rfl⟩

theorem literal_written (value : Value) (writable : Writable (literal value)) :
    ∃ token : Token, token.value? = some value := by
  cases value with
  | null => exact ⟨.word "null", by decide⟩
  | boolean b =>
      cases b with
      | true => exact ⟨.word "true", by decide⟩
      | false => exact ⟨.word "false", by decide⟩
  | text content => exact ⟨.text content, rfl⟩
  | integer n =>
      have signless : 0 ≤ n.toInt := by simpa [Writable] using writable
      have small : n.toInt.toNat < Word.signedBound := by
        have bound := Int64.toInt_lt n
        unfold Word.signedBound
        omega
      refine ⟨.number n.toInt.toNat, ?_⟩
      rw [Token.value?, if_pos small, ← Int64.ofInt_eq_ofNat, Int.toNat_of_nonneg signless, Int64.ofInt_toInt]
  | float x => exact absurd writable (by simp [Writable])
  | list items => exact absurd writable (by simp [Writable])
  | map fields => exact absurd writable (by simp [Writable])

mutual
theorem writing_exists (e : Expr) (writable : Writable e) : ∃ tokens, Written e tokens := by
  cases e with
  | literal value =>
      obtain ⟨token, found⟩ := literal_written value writable
      exact ⟨[token], token, found, rfl⟩
  | property path => exact ⟨_, rfl⟩
  | call target method =>
      obtain ⟨name, found⟩ := method_spelled method
      exact ⟨_, name, found, rfl⟩
  | binary operator left right =>
      obtain ⟨before, first⟩ := wrapped_exists left (writing_exists left writable.1)
      obtain ⟨behind, second⟩ := wrapped_exists right (writing_exists right writable.2)
      obtain ⟨sign, found⟩ := operator_spelled operator
      exact ⟨_, before, sign, behind, first, found, second, rfl⟩
  | not operand =>
      obtain ⟨inner, wrapped⟩ := wrapped_exists operand (writing_exists operand writable)
      obtain ⟨sign, found⟩ := keyword_spelled .not
      exact ⟨_, sign, inner, found, wrapped, rfl⟩
  | negate operand =>
      obtain ⟨inner, wrapped⟩ := wrapped_exists operand (writing_exists operand writable)
      exact ⟨_, inner, wrapped, rfl⟩
  | isNull operand negated =>
      obtain ⟨inner, wrapped⟩ := wrapped_exists operand (writing_exists operand writable)
      obtain ⟨words, spelled⟩ := keywords_spelled (nullWords negated)
      exact ⟨_, inner, words, wrapped, spelled, rfl⟩
  | isIn needle candidates negated =>
      obtain ⟨inner, wrapped⟩ := wrapped_exists needle (writing_exists needle writable.1)
      obtain ⟨words, spelled⟩ := keywords_spelled (inWords negated)
      obtain ⟨items, listed⟩ := all_writing_exists candidates writable.2.1 writable.2.2
      exact ⟨_, inner, words, items, wrapped, spelled, listed, rfl⟩
theorem all_writing_exists (es : List Expr) (nonempty : es ≠ []) (writable : AllWritable es) :
    ∃ tokens, AllWritten es tokens := by
  match es with
  | [] => exact absurd rfl nonempty
  | [last] =>
      obtain ⟨tokens, written⟩ := writing_exists last writable.1
      exact ⟨tokens, Or.inl written⟩
  | first :: next :: rest =>
      obtain ⟨item, written⟩ := writing_exists first writable.1
      obtain ⟨more, others⟩ := all_writing_exists (next :: rest) (List.cons_ne_nil _ _) writable.2
      exact ⟨_, item, more, Or.inl written, others, rfl⟩
end

end StatementMapper.Expr
