import StatementMapper.Expr.Operator
import StatementMapper.Expr.Lexeme

set_option autoImplicit false

/-! Phrases: the expression grammar in section G of the specification, inside the wider one of the query language they are
read in. Binary operators bind by rank; `not` is a prefix operator, `is null` and `in` follow their operand. -/

namespace StatementMapper

inductive Sign where
  | plus
  | minus
  | not
  | complement
deriving DecidableEq, Repr

inductive Phrase where
  | number (digits : List Char)
  | text (content : String)
  | boolean (b : Bool)
  | null
  | name (name : String) (quotation : Quotation)
  | path (segments : List String)
  | call (segments : List String) (hasArguments : Bool)
  | group (inner : Phrase)
  | signed (sign : Sign) (operand : Phrase)
  | binary (operator : Option Operator) (left right : Phrase)
  | nullCheck (operand : Phrase) (negated : Bool)
  | membership (needle : Phrase) (candidates : List Phrase) (negated : Bool)
  | foreign

namespace Phrase

abbrev Reading := Option (Phrase × List Lexeme)

abbrev Parser := List Lexeme → Reading

abbrev Readings := Option (List Phrase × List Lexeme)

def orRank : Nat := 5
def andRank : Nat := 10
def notRank : Nat := 15
def isRank : Nat := 17
def comparisonRank : Nat := 20
def sumRank : Nat := 30
def productRank : Nat := 40
def periodRank : Nat := 100

def infixMark? : Mark → Option (Nat × Option Operator)
  | .eq => some (comparisonRank, some .eq)
  | .notEq => some (comparisonRank, some .notEq)
  | .lt => some (comparisonRank, some .lt)
  | .ltEq => some (comparisonRank, some .ltEq)
  | .gt => some (comparisonRank, some .gt)
  | .gtEq => some (comparisonRank, some .gtEq)
  | .spaceship => some (comparisonRank, none)
  | .pipe => some (21, none)
  | .caret => some (22, none)
  | .shift => some (22, none)
  | .ampersand => some (23, none)
  | .plus => some (sumRank, some .add)
  | .minus => some (sumRank, some .subtract)
  | .star => some (productRank, some .multiply)
  | .slash => some (productRank, some .divide)
  | .percent => some (productRank, some .modulo)
  | .wholeDivision => some (productRank, none)
  | _ => none

def rank : List Lexeme → Nat
  | .mark m :: _ => ((infixMark? m).map Prod.fst).getD 0
  | lexeme :: rest =>
    match lexeme.keyword? with
    | some .or => orRank
    | some .and => andRank
    | some .is => isRank
    | some .in => comparisonRank
    | some .not =>
      match rest.head?.bind Lexeme.keyword? with
      | some .in => comparisonRank
      | some .null => isRank
      | _ => 0
    | _ => 0
  | [] => 0

def commaList (item : Parser) (lexemes : List Lexeme) : Readings :=
  match item lexemes with
  | none => none
  | some (first, rest) =>
    match rest with
    | .mark .comma :: tail =>
      if tail.length < lexemes.length then
        (commaList item tail).map fun (more, after) => (first :: more, after)
      else none
    | _ => some ([first], rest)
termination_by lexemes.length

def closed? {α : Type} : Option (α × List Lexeme) → Option (α × List Lexeme)
  | some (found, .mark .closing :: rest) => some (found, rest)
  | _ => none

def wildcard? : List Lexeme → Option (List Lexeme)
  | .mark .star :: rest => some rest
  | .word _ _ :: .mark .period :: rest => wildcard? rest
  | _ => none

def argument (sub : Nat → Parser) (lexemes : List Lexeme) : Reading :=
  match wildcard? lexemes with
  | some rest => some (foreign, rest)
  | none =>
    match lexemes with
    | .word _ _ :: .mark .arrow :: rest => sub 0 rest
    | _ => sub 0 lexemes

def arguments? (sub : Nat → Parser) : List Lexeme → Option (Bool × List Lexeme)
  | .mark .closing :: rest => some (false, rest)
  | lexemes => (closed? (commaList (argument sub) lexemes)).map fun (_, rest) => (true, rest)

-- A call may have two argument lists, of which the second counts.
def callArguments? (sub : Nat → Parser) (lexemes : List Lexeme) : Option (Bool × List Lexeme) :=
  match arguments? sub lexemes with
  | some (_, .mark .opening :: rest) => arguments? sub rest
  | found => found

-- Bare words that open constructs of their own and call nothing.
def opensConstruct (name : String) : Bool :=
  ["exists", "interval", "struct", "trim", "user", "current_user", "session_user", "current_catalog"].contains
    (String.ofList (Text.lower name.toList))

def namesConstruct (name : String) : Bool :=
  ["ceil", "floor", "substr", "substring"].contains (String.ofList (Text.lower name.toList))

def named (sub : Nat → Parser) (word : String) (quotation : Quotation) (lexemes : List Lexeme) : Reading :=
  if quotation = .bare ∧ opensConstruct word then none
  else match lexemes with
    | .mark .opening :: rest =>
      match callArguments? sub rest with
      | none => none
      | some (hasArguments, tail) =>
        if quotation = .bare ∧ namesConstruct word ∧ hasArguments then some (foreign, tail)
        else some (call [word] hasArguments, tail)
    | _ => some (name word quotation, lexemes)

def grouped : List Phrase → Phrase
  | [inner] => group inner
  | _ => foreign

-- What may stand at the start of a phrase. A `not` without an operand is a name.
def operand (sub : Nat → Parser) : Parser
  | .number digits :: rest => some (number digits, rest)
  | .text content :: rest => some (text content, rest)
  | .mark .placeholder :: rest => some (foreign, rest)
  | .mark .plus :: rest => (sub productRank rest).map fun (inner, tail) => (signed .plus inner, tail)
  | .mark .minus :: rest => (sub productRank rest).map fun (inner, tail) => (signed .minus inner, tail)
  | .mark .tilde :: rest => (sub sumRank rest).map fun (inner, tail) => (signed .complement inner, tail)
  | .mark .opening :: rest => (closed? (commaList (sub 0) rest)).map fun (inner, tail) => (grouped inner, tail)
  | .word word quotation :: rest =>
    match Lexeme.keyword? (.word word quotation) with
    | some .null => some (null, rest)
    | some .true => some (boolean true, rest)
    | some .false => some (boolean false, rest)
    | some .not =>
      match sub notRank rest with
      | some (inner, tail) => some (signed .not inner, tail)
      | none => named sub word quotation rest
    | _ => named sub word quotation rest
  | _ => none

-- The phrases behind the dots that follow an operand. A dot in front of a star stays.
def chain (sub : Nat → Parser) : List Lexeme → Readings
  | .mark .period :: .mark .star :: rest => some ([], .mark .period :: .mark .star :: rest)
  | .mark .period :: .text content :: rest =>
    (chain sub rest).map fun (more, tail) => (name content .backticks :: more, tail)
  | .mark .period :: rest =>
    match sub periodRank rest with
    | none => none
    | some (segment, tail) =>
      if tail.length ≤ rest.length then (chain sub tail).map fun (more, after) => (segment :: more, after)
      else none
  | lexemes => some ([], lexemes)
termination_by lexemes => lexemes.length

def names? : Phrase → Option (List String)
  | name word _ => some [word]
  | path segments => some segments
  | _ => none

def chainNames? : List Phrase → Option (List String × Option Bool)
  | [] => some ([], none)
  | [call segments hasArguments] => some (segments, some hasArguments)
  | phrase :: rest => do
    let segments ← names? phrase
    let (more, last) ← chainNames? rest
    some (segments ++ more, last)

def join (root : Phrase) (links : List Phrase) : Phrase :=
  match links with
  | [] => root
  | _ =>
    match root, chainNames? links with
    | name word _, some (segments, none) => path (word :: segments)
    | name word _, some (segments, some hasArguments) => call (word :: segments) hasArguments
    | _, _ => foreign

def candidates (sub : Nat → Parser) (needle : Phrase) (negated : Bool) : Parser
  | .mark .opening :: rest =>
    (closed? (commaList (sub 0) rest)).map fun (found, tail) => (membership needle found negated, tail)
  | _ => none

def isCheck (subject : Phrase) (lexemes : List Lexeme) : Reading :=
  match lexemes with
  | [] => none
  | first :: rest =>
    match first.keyword? with
    | some .null => some (nullCheck subject false, rest)
    | some .true | some .false => some (foreign, rest)
    | some .not =>
      match rest with
      | [] => none
      | second :: tail =>
        match second.keyword? with
        | some .null => some (nullCheck subject true, tail)
        | some .true | some .false => some (foreign, tail)
        | _ => none
    | _ => none

def extend (sub : Nat → Parser) (left : Phrase) (lexemes : List Lexeme) : Reading :=
  let right (limit : Nat) (operator : Option Operator) (rest : List Lexeme) : Reading :=
    (sub limit rest).map fun (found, tail) => (binary operator left found, tail)
  match lexemes with
  | [] => none
  | .mark m :: rest => (infixMark? m).bind fun (limit, operator) => right limit operator rest
  | first :: rest =>
    match first.keyword? with
    | some .or => right orRank (some .or) rest
    | some .and => right andRank (some .and) rest
    | some .is => isCheck left rest
    | some .in => candidates sub left false rest
    | some .not =>
      match rest with
      | [] => none
      | second :: tail =>
        match second.keyword? with
        | some .null => some (nullCheck left true, tail)
        | some .in => candidates sub left true tail
        | _ => none
    | _ => none

def climb (sub : Nat → Parser) (limit : Nat) (left : Phrase) (lexemes : List Lexeme) : Reading :=
  if rank lexemes ≤ limit then some (left, lexemes)
  else match extend sub left lexemes with
    | none => none
    | some (wider, tail) => if tail.length < lexemes.length then climb sub limit wider tail else none
termination_by lexemes.length

-- A phrase of operators that bind tighter than `limit`, nesting at most `depth` others.
def read : Nat → Nat → Parser
  | 0, _, _ => none
  | depth + 1, limit, lexemes => do
    let (root, afterRoot) ← operand (read depth) lexemes
    let (links, rest) ← chain (read depth) afterRoot
    climb (read depth) limit (join root links) rest

-- How deep a phrase may nest, itself counted.
def nestingLimit : Nat := 50

def all? (lexemes : List Lexeme) : Option Phrase :=
  match read nestingLimit 0 lexemes with
  | some (phrase, []) => some phrase
  | _ => none

end Phrase

end StatementMapper
